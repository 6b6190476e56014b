import GatewayOperator.Proofs.Attempts
import GatewayOperator.Proofs.Secrecy.Outlines

/-!
# Programs that behave alike

Two programs behave alike if they ask the same questions in the same order, but for the values in
secrets and what is sent along with requests, and come to related results wherever they are answered
alike.

## Main Definitions

* `SameOutcome` — the same failure, or successes that are related.
* `Query.Open` — questions about neither secrets nor the network.
* `Program.Alike`, `Attempt.Alike` — programs and attempts that behave alike.

## Main Statements

* `Program.Alike.bind`, `Attempt.Alike.bind` and the lemmas after it — the ways of building programs
  keep it so.
* `Program.Alike.of_asks` — a program with open questions only behaves like itself.

## Design Notes

That a program behaves like itself is not for free: it is to do so whatever the two secrets are that
it has been answered with, as long as their outlines are the same.
-/

namespace GatewayOperator

variable {α α' β β' ε : Type} {rel : α → α' → Prop} {rel' : β → β' → Prop}

/-- Two outcomes are the same failure, or successes that are related. -/
inductive SameOutcome (rel : α → α' → Prop) : Except ε α → Except ε α' → Prop
  /-- Both are successes. -/
  | ok {a : α} {a' : α'} (related : rel a a') : SameOutcome rel (.ok a) (.ok a')
  /-- Both are the same failure. -/
  | error (e : ε) : SameOutcome rel (.error e) (.error e)

namespace SameOutcome

theorem refl (outcome : Except ε α) : SameOutcome Eq outcome outcome := by
  cases outcome with
  | ok a => exact .ok rfl
  | error e => exact .error e

theorem eq {outcome outcome' : Except ε α} (same : SameOutcome Eq outcome outcome') :
    outcome = outcome' := by
  cases same with
  | ok related => rw [related]
  | error e => rfl

theorem mapError {ε' : Type} {outcome : Except ε α} {outcome' : Except ε α'} (f : ε → ε')
    (same : SameOutcome rel outcome outcome') :
    SameOutcome rel (outcome.mapError f) (outcome'.mapError f) := by
  cases same with
  | ok related => exact .ok related
  | error e => exact .error (f e)

theorem map {outcome : Except ε α} {outcome' : Except ε α'} {f : α → β} {f' : α' → β'}
    (same : SameOutcome rel outcome outcome') (keeps : ∀ a a', rel a a' → rel' (f a) (f' a')) :
    SameOutcome rel' (outcome.map f) (outcome'.map f') := by
  cases same with
  | ok related => exact .ok (keeps _ _ related)
  | error e => exact .error e

/-- What is made of the same outcome. -/
theorem map_of_eq {outcome outcome' : Except ε α} {f : α → β} {f' : α → β'}
    (same : outcome = outcome') (related : ∀ a, rel' (f a) (f' a)) :
    SameOutcome rel' (outcome.map f) (outcome'.map f') := by
  rw [same]
  exact (refl outcome').map fun a a' same => same ▸ related a

end SameOutcome

/-- The questions about neither secrets nor the network. -/
def Query.Open : Query → Prop
  | .getSecret .. | .replaceSecret .. | .fetch _ => False
  | _ => True

/-! ### Programs -/

namespace Program

/-- Two programs behave alike. -/
inductive Alike (rel : α → α' → Prop) : Program α → Program α' → Prop
  /-- Both are at their end, and their results are related. -/
  | done {a : α} {a' : α'} (related : rel a a') : Alike rel (.done a) (.done a')
  /-- Both ask the same open question. -/
  | ask {q : Query} {next : q.Answer → Program α} {next' : q.Answer → Program α'}
      (isOpen : q.Open) (go : ∀ answer, Alike rel (next answer) (next' answer)) :
      Alike rel (.ask q next) (.ask q next')
  /-- Both send a request to the same address. -/
  | fetch {request request' : HttpRequest} {next : Except String HttpResponse → Program α}
      {next' : Except String HttpResponse → Program α'} (url : request.url = request'.url)
      (go : ∀ answer, Alike rel (next answer) (next' answer)) :
      Alike rel (.ask (.fetch request) next) (.ask (.fetch request') next')
  /-- Both read the same secret. -/
  | getSecret {ns name : String} {next : Except StoreError Secret → Program α}
      {next' : Except StoreError Secret → Program α'}
      (go : ∀ answer answer', SameOutcome Secret.Alike answer answer' →
        Alike rel (next answer) (next' answer')) :
      Alike rel (.ask (.getSecret ns name) next) (.ask (.getSecret ns name) next')
  /-- Both write secrets of the same outline. -/
  | replaceSecret {ns : String} {object object' : Secret}
      {next : Except StoreError Secret → Program α} {next' : Except StoreError Secret → Program α'}
      (alike : object.Alike object')
      (go : ∀ answer answer', SameOutcome Secret.Alike answer answer' →
        Alike rel (next answer) (next' answer')) :
      Alike rel (.ask (.replaceSecret ns object) next) (.ask (.replaceSecret ns object') next')

namespace Alike

theorem bind {p : Program α} {p' : Program α'} {next : α → Program β} {next' : α' → Program β'}
    (first : p.Alike rel p') (go : ∀ a a', rel a a' → (next a).Alike rel' (next' a')) :
    (p >>= next).Alike rel' (p' >>= next') := by
  induction first with
  | done related => exact go _ _ related
  | ask isOpen _ ih => exact .ask isOpen ih
  | fetch url _ ih => exact .fetch url ih
  | getSecret _ ih => exact .getSecret ih
  | replaceSecret alike _ ih => exact .replaceSecret alike ih

/-- Programs that come to the same result go on from it. -/
theorem bind_eq {p p' : Program α} {next : α → Program β} {next' : α → Program β'}
    (first : p.Alike Eq p') (go : ∀ a, (next a).Alike rel' (next' a)) :
    (p >>= next).Alike rel' (p' >>= next') :=
  first.bind fun a _ same => same ▸ go a

theorem mono {rel' : α → α' → Prop} {p : Program α} {p' : Program α'} (alike : p.Alike rel p')
    (weaker : ∀ a a', rel a a' → rel' a a') : p.Alike rel' p' := by
  induction alike with
  | done related => exact .done (weaker _ _ related)
  | ask isOpen _ ih => exact .ask isOpen ih
  | fetch url _ ih => exact .fetch url ih
  | getSecret _ ih => exact .getSecret ih
  | replaceSecret alike _ ih => exact .replaceSecret alike ih

/-- A program with open questions only behaves like itself. -/
theorem of_asks {p : Program α} (asks : p.Asks Query.Open) : p.Alike Eq p := by
  induction p with
  | done a => exact .done rfl
  | ask q next ih => exact .ask asks.1 fun answer => ih answer (asks.2 answer)

end Alike

end Program

/-! ### Attempts -/

namespace Attempt

/-- Two attempts behave alike, and come to the same failure or to related successes. -/
def Alike (rel : α → α' → Prop) (x : Attempt α) (x' : Attempt α') : Prop :=
  x.run.Alike (SameOutcome rel) x'.run

namespace Alike

theorem pure {a : α} {a' : α'} (related : rel a a') :
    Alike rel (Pure.pure a : Attempt α) (Pure.pure a') :=
  .done (.ok related)

theorem throw (e : Failure) : Alike rel (MonadExcept.throw e : Attempt α) (MonadExcept.throw e) :=
  .done (.error e)

theorem ofExcept (result : Except Failure α) : Alike Eq (ofExcept result) (ofExcept result) :=
  .done (.refl result)

theorem bind {x : Attempt α} {x' : Attempt α'} {next : α → Attempt β} {next' : α' → Attempt β'}
    (first : Alike rel x x') (go : ∀ a a', rel a a' → Alike rel' (next a) (next' a')) :
    Alike rel' (x >>= next) (x' >>= next') := by
  unfold Alike
  rw [ExceptT.run_bind, ExceptT.run_bind]
  refine Program.Alike.bind first fun outcome outcome' same => ?_
  cases same with
  | ok related => exact go _ _ related
  | error e => exact .done (.error e)

/-- Attempts that come to the same result go on from it. -/
theorem bind_eq {x x' : Attempt α} {next : α → Attempt β} {next' : α → Attempt β'}
    (first : Alike Eq x x') (go : ∀ a, Alike rel' (next a) (next' a)) :
    Alike rel' (x >>= next) (x' >>= next') :=
  first.bind fun a _ same => same ▸ go a

theorem map {f : α → β} {f' : α' → β'} {x : Attempt α} {x' : Attempt α'} (alike : Alike rel x x')
    (keeps : ∀ a a', rel a a' → rel' (f a) (f' a')) : Alike rel' (f <$> x) (f' <$> x') := by
  rw [map_eq_pure_bind, map_eq_pure_bind]
  exact alike.bind fun a a' related => .pure (keeps a a' related)

theorem ofStore {p : Program (Except StoreError α)} {p' : Program (Except StoreError α')}
    (alike : p.Alike (SameOutcome rel) p') : Alike rel (ofStore p) (ofStore p') :=
  alike.bind fun _ _ same => .done (same.mapError _)

theorem lift {p : Program α} {p' : Program α'} (alike : p.Alike rel p') :
    Alike rel (ExceptT.lift p : Attempt α) (ExceptT.lift p') := by
  unfold Alike
  rw [ExceptT.run_lift, ExceptT.run_lift, map_eq_pure_bind, map_eq_pure_bind]
  exact alike.bind fun _ _ related => .done (.ok related)

/-- Requests to the same address get the same answer. -/
theorem fetch {request request' : HttpRequest} (url : request.url = request'.url) :
    Alike Eq (fetch request) (fetch request') := by
  refine Program.Alike.fetch url fun answer => ?_
  cases answer with
  | ok response => exact .done (.ok rfl)
  | error reason =>
    rw [url]
    exact .done (.error _)

theorem mapM {f : α → Attempt β} {f' : α → Attempt β'} (go : ∀ a, Alike rel' (f a) (f' a))
    (items : List α) : Alike (fun _ _ => True) (items.mapM f) (items.mapM f') := by
  induction items with
  | nil => exact .pure trivial
  | cons item rest ih =>
    rw [List.mapM_cons, List.mapM_cons]
    exact (go item).bind fun _ _ _ => ih.bind fun _ _ _ => .pure trivial

end Alike

/-- An attempt with open questions only behaves like itself. -/
theorem alike_of_asks {x : Attempt α} (asks : x.run.Asks Query.Open) : Alike Eq x x :=
  (Program.Alike.of_asks asks).mono fun outcome _ same => same ▸ .refl outcome

end Attempt

end GatewayOperator
