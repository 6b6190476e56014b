import GatewayOperator.Injection.Admission
import GatewayOperator.Proofs.Runs

/-!
# Runs of attempts

An attempt is a program whose result may be a failure.  Its runs are told apart by whether the
attempt fails or goes on.

## Main Statements

* `bind_eq_ok_iff`, `mapM_eq_ok_iff` — a composite succeeds if all of its parts do.
* `Attempt.yields_bind` — a composite fails with its first part, or goes on with the second.
* `Attempt.yields_orCleanUp` — what is done after a failure is done before it is passed on.
* `Attempt.asks_bind` and the lemmas after it — the questions of the ways of building attempts.
-/

namespace GatewayOperator

/-- A composite succeeds if its first part does, and then what that leads to. -/
theorem bind_eq_ok_iff {α β ε : Type} {x : Except ε α} {next : α → Except ε β} {b : β} :
    x >>= next = .ok b ↔ ∃ a, x = .ok a ∧ next a = .ok b := by
  cases x with
  | error e =>
    constructor
    · intro impossible
      cases impossible
    · rintro ⟨a, impossible, -⟩
      cases impossible
  | ok a =>
    constructor
    · exact fun went => ⟨a, rfl, went⟩
    · rintro ⟨_, ⟨rfl⟩, went⟩
      exact went

/-- A list is mapped if each of its items is, and the values stand in the order of the items. -/
theorem mapM_eq_ok_iff {α β ε : Type} {f : α → Except ε β} {items : List α} {values : List β} :
    items.mapM f = .ok values ↔ ∃ pairs : List (α × β), pairs.map (·.1) = items ∧
      pairs.map (·.2) = values ∧ ∀ pair ∈ pairs, f pair.1 = .ok pair.2 := by
  induction items generalizing values with
  | nil =>
    constructor
    · rintro ⟨⟩
      exact ⟨[], rfl, rfl, fun _ mem => by cases mem⟩
    · rintro ⟨pairs, none_, rfl, -⟩
      rw [List.map_eq_nil_iff.mp none_]
      rfl
  | cons a items ih =>
    rw [List.mapM_cons]
    simp only [bind_eq_ok_iff, ih]
    constructor
    · rintro ⟨b, first, _, ⟨pairs, rfl, rfl, others⟩, ⟨⟩⟩
      exact ⟨(a, b) :: pairs, rfl, rfl, List.forall_mem_cons.mpr ⟨first, others⟩⟩
    · rintro ⟨pairs, same, rfl, mapped⟩
      obtain ⟨pair, pairs, rfl, rfl, rfl⟩ := List.map_eq_cons_iff.mp same
      obtain ⟨first, others⟩ := List.forall_mem_cons.mp mapped
      exact ⟨pair.2, first, _, ⟨pairs, rfl, rfl, others⟩, rfl⟩

/-- A list can be mapped if each of its items can. -/
theorem exists_mapM_eq_ok_iff {α β ε : Type} {f : α → Except ε β} {items : List α} :
    (∃ values, items.mapM f = .ok values) ↔ ∀ a ∈ items, ∃ b, f a = .ok b := by
  induction items with
  | nil => exact iff_of_true ⟨[], rfl⟩ fun _ mem => by cases mem
  | cons a items ih =>
    rw [List.forall_mem_cons, ← ih, List.mapM_cons]
    simp only [bind_eq_ok_iff]
    constructor
    · rintro ⟨_, b, first, others, mapped, -⟩
      exact ⟨⟨b, first⟩, others, mapped⟩
    · rintro ⟨⟨b, first⟩, others, mapped⟩
      exact ⟨_, b, first, others, mapped, rfl⟩

namespace Attempt

variable {α β σ : Type} {answers : Responder σ} {s s' : σ} {t : Transcript}

/-! ### Runs -/

/-- A composite fails as its first part does, or goes on with what the first part leads to. -/
theorem yields_bind {x : Attempt α} {next : α → Attempt β} {r : Except Failure β} :
    (x >>= next).run.Yields answers s t r s' ↔
      (∃ e, r = .error e ∧ x.run.Yields answers s t (.error e) s') ∨
      ∃ a mid before after, x.run.Yields answers s before (.ok a) mid ∧
        (next a).run.Yields answers mid after r s' ∧ t = before ++ after := by
  rw [ExceptT.run_bind, Program.yields_bind]
  constructor
  · rintro ⟨first | a, mid, before, after, head, tail, rfl⟩
    · obtain ⟨rfl, rfl, rfl⟩ := tail
      rw [List.append_nil]
      exact Or.inl ⟨first, rfl, head⟩
    · exact Or.inr ⟨a, mid, before, after, head, tail, rfl⟩
  · rintro (⟨e, rfl, head⟩ | ⟨a, mid, before, after, head, tail, rfl⟩)
    · exact ⟨.error e, s', t, [], head, ⟨rfl, rfl, rfl⟩, (List.append_nil t).symm⟩
    · exact ⟨.ok a, mid, before, after, head, tail, rfl⟩

theorem yields_lift {p : Program α} {r : Except Failure α} :
    (ExceptT.lift p : Attempt α).run.Yields answers s t r s' ↔
      ∃ a, p.Yields answers s t a s' ∧ r = .ok a := by
  rw [ExceptT.run_lift, map_eq_pure_bind, Program.yields_bind]
  constructor
  · rintro ⟨a, mid, before, after, run, ⟨rfl, rfl, rfl⟩, rfl⟩
    exact ⟨a, by rwa [List.append_nil], rfl⟩
  · rintro ⟨a, run, rfl⟩
    exact ⟨a, s', t, [], run, ⟨rfl, rfl, rfl⟩, (List.append_nil t).symm⟩

/-- A program that is no attempt does not fail, so it is gone on with. -/
theorem yields_lift_bind {p : Program α} {next : α → Attempt β} {r : Except Failure β} :
    (ExceptT.lift p >>= next : Attempt β).run.Yields answers s t r s' ↔
      ∃ a mid before after, p.Yields answers s before a mid ∧
        (next a).run.Yields answers mid after r s' ∧ t = before ++ after := by
  rw [yields_bind]
  constructor
  · rintro (⟨e, rfl, failed⟩ | ⟨a, mid, before, after, first, rest, rfl⟩)
    · obtain ⟨_, -, impossible⟩ := yields_lift.mp failed
      cases impossible
    · obtain ⟨_, first, same⟩ := yields_lift.mp first
      cases same
      exact ⟨a, mid, before, after, first, rest, rfl⟩
  · rintro ⟨a, mid, before, after, first, rest, rfl⟩
    exact Or.inr ⟨a, mid, before, after, yields_lift.mpr ⟨a, first, rfl⟩, rest, rfl⟩

/-- What is known is gone on with. -/
theorem yields_ok_bind {a : α} {next : α → Attempt β} {r : Except Failure β} :
    (ofExcept (.ok a) >>= next).run.Yields answers s t r s' ↔
      (next a).run.Yields answers s t r s' :=
  Iff.rfl

/-- What is known to fail is not gone on with. -/
theorem yields_error_bind {e : Failure} {next : α → Attempt β} {r : Except Failure β} :
    (ofExcept (.error e) >>= next).run.Yields answers s t r s' ↔ t = [] ∧ r = .error e ∧ s' = s :=
  Iff.rfl

theorem yields_map {f : α → β} {x : Attempt α} {r : Except Failure β} :
    (f <$> x).run.Yields answers s t r s' ↔
      ∃ r', x.run.Yields answers s t r' s' ∧ r = r'.map f := by
  rw [map_eq_pure_bind, yields_bind]
  constructor
  · rintro (⟨e, rfl, run⟩ | ⟨a, mid, before, after, run, ⟨rfl, rfl, rfl⟩, rfl⟩)
    · exact ⟨.error e, run, rfl⟩
    · exact ⟨.ok a, by rwa [List.append_nil], rfl⟩
  · rintro ⟨e | a, run, rfl⟩
    · exact Or.inl ⟨e, rfl, run⟩
    · exact Or.inr ⟨a, s', t, [], run, ⟨rfl, rfl, rfl⟩, (List.append_nil t).symm⟩

theorem yields_ofStore {p : Program (Except StoreError α)} {r : Except Failure α} :
    (ofStore p).run.Yields answers s t r s' ↔
      ∃ r', p.Yields answers s t r' s' ∧ r = r'.mapError Failure.ofStore := by
  unfold ofStore
  rw [ExceptT.run_mk, Program.yields_bind]
  constructor
  · rintro ⟨r', mid, before, after, run, ⟨rfl, rfl, rfl⟩, rfl⟩
    exact ⟨r', by rwa [List.append_nil], rfl⟩
  · rintro ⟨r', run, rfl⟩
    exact ⟨r', s', t, [], run, ⟨rfl, rfl, rfl⟩, (List.append_nil t).symm⟩

/-- What the cluster refuses ends an attempt, and what it gives is gone on with. -/
theorem yields_ofStore_bind {p : Program (Except StoreError α)} {next : α → Attempt β}
    {r : Except Failure β} :
    (ofStore p >>= next).run.Yields answers s t r s' ↔
      (∃ why, p.Yields answers s t (.error why) s' ∧ r = .error (.ofStore why)) ∨
      ∃ a mid before after, p.Yields answers s before (.ok a) mid ∧
        (next a).run.Yields answers mid after r s' ∧ t = before ++ after := by
  rw [yields_bind]
  constructor
  · rintro (⟨e, rfl, failed⟩ | ⟨a, mid, before, after, given, rest, rfl⟩)
    · obtain ⟨answer, asked, same⟩ := yields_ofStore.mp failed
      cases answer with
      | ok _ => cases same
      | error why =>
        cases same
        exact Or.inl ⟨why, asked, rfl⟩
    · obtain ⟨answer, asked, same⟩ := yields_ofStore.mp given
      cases answer with
      | error _ => cases same
      | ok _ =>
        cases same
        exact Or.inr ⟨a, mid, before, after, asked, rest, rfl⟩
  · rintro (⟨why, asked, rfl⟩ | ⟨a, mid, before, after, asked, rest, rfl⟩)
    · exact Or.inl ⟨_, rfl, yields_ofStore.mpr ⟨.error why, asked, rfl⟩⟩
    · exact Or.inr ⟨a, mid, before, after, yields_ofStore.mpr ⟨.ok a, asked, rfl⟩, rest, rfl⟩

/-- A request is answered, or fails for the reason for which there is no answer. -/
theorem yields_fetch {request : HttpRequest} {r : Except Failure HttpResponse} :
    (fetch request).run.Yields answers s t r s' ↔
      ∃ answer, answers (.fetch request) s answer s' ∧ t = [⟨.fetch request, answer⟩] ∧
        r = answer.mapError fun reason => .fetch request.url (.unreachable reason) := by
  unfold fetch
  rw [ExceptT.run_mk, Program.yields_bind]
  constructor
  · rintro ⟨answer, mid, before, after, asked, last, rfl⟩
    obtain ⟨answered, rfl⟩ := Program.yields_query.mp asked
    cases answer with
    | ok response =>
      obtain ⟨rfl, rfl, rfl⟩ := last
      exact ⟨_, answered, rfl, rfl⟩
    | error reason =>
      obtain ⟨rfl, rfl, rfl⟩ := last
      exact ⟨_, answered, rfl, rfl⟩
  · rintro ⟨answer, answered, rfl, rfl⟩
    refine ⟨answer, s', _, [], Program.yields_query.mpr ⟨answered, rfl⟩, ?_, rfl⟩
    cases answer with
    | ok response => exact ⟨rfl, rfl, rfl⟩
    | error reason => exact ⟨rfl, rfl, rfl⟩

/-- What the cluster holds is found, is missing, or cannot be read. -/
theorem yields_found {p : Program (Except StoreError α)} {r : Except Failure (Option α)} :
    (found p).run.Yields answers s t r s' ↔
      (∃ a, p.Yields answers s t (.ok a) s' ∧ r = .ok (some a)) ∨
      (∃ kind name, p.Yields answers s t (.error (.notFound kind name)) s' ∧ r = .ok none) ∨
      ∃ e, e.isNotFound = false ∧ p.Yields answers s t (.error e) s' ∧
        r = .error (.ofStore e) := by
  unfold found
  rw [ExceptT.run_mk, Program.yields_bind]
  constructor
  · rintro ⟨e | a, mid, before, after, run, last, rfl⟩
    · -- What is missing is the one failure that is answered.
      cases e with
      | notFound kind name =>
        obtain ⟨rfl, rfl, rfl⟩ := last
        exact Or.inr (Or.inl ⟨kind, name, by rwa [List.append_nil], rfl⟩)
      | rejected operation kind name reason =>
        obtain ⟨rfl, rfl, rfl⟩ := last
        exact Or.inr (Or.inr ⟨_, rfl, by rwa [List.append_nil], rfl⟩)
      | api operation kind name =>
        obtain ⟨rfl, rfl, rfl⟩ := last
        exact Or.inr (Or.inr ⟨_, rfl, by rwa [List.append_nil], rfl⟩)
    · obtain ⟨rfl, rfl, rfl⟩ := last
      exact Or.inl ⟨a, by rwa [List.append_nil], rfl⟩
  · rintro (⟨a, run, rfl⟩ | ⟨kind, name, run, rfl⟩ | ⟨e, other, run, rfl⟩)
    · exact ⟨.ok a, s', t, [], run, ⟨rfl, rfl, rfl⟩, (List.append_nil t).symm⟩
    · exact ⟨.error (.notFound kind name), s', t, [], run, ⟨rfl, rfl, rfl⟩,
        (List.append_nil t).symm⟩
    · refine ⟨.error e, s', t, [], run, ?_, (List.append_nil t).symm⟩
      cases e with
      | notFound kind name => cases other
      | rejected operation kind name reason => exact ⟨rfl, rfl, rfl⟩
      | api operation kind name => exact ⟨rfl, rfl, rfl⟩

/-- An attempt that is cleaned up after succeeds as before; if it fails, the failure is passed on
after the cleaning. -/
theorem yields_orCleanUp {x : Attempt α} {cleanUp : Program Unit} {r : Except Failure α} :
    (x.orCleanUp cleanUp).run.Yields answers s t r s' ↔
      (∃ a, r = .ok a ∧ x.run.Yields answers s t (.ok a) s') ∨
      ∃ e mid before after, r = .error e ∧ x.run.Yields answers s before (.error e) mid ∧
        cleanUp.Yields answers mid after () s' ∧ t = before ++ after := by
  unfold orCleanUp
  rw [ExceptT.run_mk, Program.yields_bind]
  constructor
  · rintro ⟨e | a, mid, before, after, run, last, rfl⟩
    · rw [Program.yields_bind] at last
      obtain ⟨u, mid', cleaning, rest, clean, ⟨rfl, rfl, rfl⟩, rfl⟩ := last
      exact Or.inr ⟨e, mid, before, cleaning, rfl, run, clean, by rw [List.append_nil]⟩
    · obtain ⟨rfl, rfl, rfl⟩ := last
      exact Or.inl ⟨a, rfl, by rwa [List.append_nil]⟩
  · rintro (⟨a, rfl, run⟩ | ⟨e, mid, before, after, rfl, run, clean, rfl⟩)
    · exact ⟨.ok a, s', t, [], run, ⟨rfl, rfl, rfl⟩, (List.append_nil t).symm⟩
    · refine ⟨.error e, mid, before, after, run, ?_, rfl⟩
      exact Program.yields_bind.mpr
        ⟨(), s', after, [], clean, ⟨rfl, rfl, rfl⟩, (List.append_nil after).symm⟩

/-! ### Questions -/

variable {p : Query → Prop}

theorem asks_pure (a : α) : (pure a : Attempt α).run.Asks p := trivial

theorem asks_throw (e : Failure) : (throw e : Attempt α).run.Asks p := trivial

theorem asks_ofExcept (result : Except Failure α) : (ofExcept result).run.Asks p := trivial

theorem asks_bind {x : Attempt α} {next : α → Attempt β} (hx : x.run.Asks p)
    (hnext : ∀ a, (next a).run.Asks p) : (x >>= next).run.Asks p := by
  rw [ExceptT.run_bind]
  refine Program.Asks.bind hx fun r => ?_
  cases r with
  | error e => exact trivial
  | ok a => exact hnext a

theorem asks_map {f : α → β} {x : Attempt α} (hx : x.run.Asks p) : (f <$> x).run.Asks p := by
  rw [map_eq_pure_bind]
  exact asks_bind hx fun a => asks_pure (f a)

theorem asks_ofStore {q : Program (Except StoreError α)} (h : q.Asks p) :
    (ofStore q).run.Asks p :=
  Program.Asks.bind h fun _ => trivial

theorem asks_found {q : Program (Except StoreError α)} (h : q.Asks p) : (found q).run.Asks p := by
  refine Program.Asks.bind h fun r => ?_
  cases r with
  | ok object => exact trivial
  | error why => cases why <;> exact trivial

theorem asks_lift {q : Program α} (h : q.Asks p) : (ExceptT.lift q : Attempt α).run.Asks p := by
  rw [ExceptT.run_lift, map_eq_pure_bind]
  exact Program.Asks.bind h fun _ => trivial

theorem asks_fetch {request : HttpRequest} (h : p (.fetch request)) :
    (fetch request).run.Asks p := by
  refine Program.Asks.bind (Program.asks_query h) fun r => ?_
  cases r <;> exact trivial

theorem asks_mapM {f : α → Attempt β} (h : ∀ a, (f a).run.Asks p) (items : List α) :
    (items.mapM f).run.Asks p := by
  induction items with
  | nil => exact trivial
  | cons item rest ih =>
    rw [List.mapM_cons]
    exact asks_bind (h item) fun b => asks_bind ih fun bs => asks_pure (b :: bs)

theorem asks_orCleanUp {x : Attempt α} {cleanUp : Program Unit} (hx : x.run.Asks p)
    (clean : cleanUp.Asks p) : (x.orCleanUp cleanUp).run.Asks p := by
  refine Program.Asks.bind hx fun r => ?_
  cases r with
  | ok a => exact trivial
  | error e => exact Program.Asks.bind clean fun _ => trivial

end Attempt

end GatewayOperator
