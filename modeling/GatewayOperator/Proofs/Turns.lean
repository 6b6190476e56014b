import GatewayOperator.Proofs.Runs

/-!
# Programs that take turns

Several programs may run at once.  At each moment one of them asks its next question, and it is
answered by a state that all of them share.

## Main Definitions

* `Program.Reaches` — what is left of a program after some questions and answers.
* `TakeTurns` — what is left of several programs after some turns.
* `Turns.after` — several programs after turns in some order, in a state that computes its answers.

## Main Statements

* `TakeTurns.keeps` — what every question of every run keeps, programs that take turns keep.

## Design Notes

Which program is next is left open, so every order of turns is covered.  A program that has begun
is what is left of it after some of its questions, and it may be answered anything from then on.
So what is known of the questions of its whole runs is known of its next question.
-/

namespace GatewayOperator

variable {α σ : Type} {answers : Responder σ}

/-- Everything may be answered. -/
def anyAnswer : Responder Unit := fun _ _ _ _ => True

namespace Program

/-- What is left of a program after some questions and answers. -/
inductive Reaches (p : Program α) : Transcript → Program α → Prop
  /-- Nothing was asked. -/
  | start : Reaches p [] p
  /-- Another question was answered. -/
  | next {own : Transcript} {q : Query} {cont : q.Answer → Program α} {answer : q.Answer}
      (earlier : Reaches p own (.ask q cont)) : Reaches p (own ++ [⟨q, answer⟩]) (cont answer)

namespace Reaches

variable {p p' : Program α} {own t : Transcript}

/-- A run of what is left of a program completes a run of it. -/
theorem yields {a : α} (reached : p.Reaches own p') (run : p'.Yields anyAnswer () t a ()) :
    p.Yields anyAnswer () (own ++ t) a () := by
  induction reached generalizing t with
  | start => exact run
  | @next own q cont answer earlier ih =>
    rw [List.append_assoc]
    exact ih ⟨answer, (), t, trivial, rfl, run⟩

/-- The next question of a program that has begun stands in a run of it, with any answer. -/
theorem completes {q : Query} {cont : q.Answer → Program α}
    (reached : p.Reaches own (.ask q cont)) (answer : q.Answer) :
    ∃ rest a, p.Yields anyAnswer () (own ++ ⟨q, answer⟩ :: rest) a () := by
  have total (q : Query) (s : Unit) : ∃ answer s', anyAnswer q s answer s' := by
    cases q with
    | publish | measure => exact ⟨(), (), trivial⟩
    | now => exact ⟨"", (), trivial⟩
    | fetch => exact ⟨.error "", (), trivial⟩
    | _ => exact ⟨.error (.notFound .secret ""), (), trivial⟩
  obtain ⟨rest, a, _, run⟩ := exists_yields total (cont answer) ()
  exact ⟨rest, a, reached.yields ⟨answer, (), rest, trivial, rfl, run⟩⟩

end Reaches

end Program

/-- What is left of several programs after some turns, and the state after that. -/
inductive TakeTurns (answers : Responder σ) (ps : List (Program α)) (s : σ) :
    Transcript → List (Program α) → σ → Prop
  /-- No program has begun. -/
  | start : TakeTurns answers ps s [] ps s
  /-- Some program asks its next question. -/
  | turn {t : Transcript} {ps' : List (Program α)} {mid s' : σ} {i : Nat} {q : Query}
      {cont : q.Answer → Program α} {answer : q.Answer}
      (earlier : TakeTurns answers ps s t ps' mid) (next : ps'[i]? = some (.ask q cont))
      (answered : answers q mid answer s') :
      TakeTurns answers ps s (t ++ [⟨q, answer⟩]) (ps'.set i (cont answer)) s'

namespace TakeTurns

variable {ps ps' : List (Program α)} {s s' : σ} {t : Transcript}

/-- What is left of each program is what it reaches by its own questions. -/
theorem reaches (turns : TakeTurns answers ps s t ps' s') :
    ∀ p' ∈ ps', ∃ p ∈ ps, ∃ own, p.Reaches own p' ∧ ∀ x ∈ own, x ∈ t := by
  induction turns with
  | start => exact fun p mem => ⟨p, mem, [], .start, by simp⟩
  | @turn t ps' mid s' i q cont answer earlier next answered ih =>
    intro p' mem
    rcases List.mem_or_eq_of_mem_set mem with mem | rfl
    · obtain ⟨p, there, own, reached, known⟩ := ih p' mem
      exact ⟨p, there, own, reached, fun x mem => List.mem_append_left _ (known x mem)⟩
    · obtain ⟨p, there, own, reached, known⟩ := ih _ (List.mem_of_getElem? next)
      refine ⟨p, there, _, reached.next, fun x mem => ?_⟩
      rcases List.mem_append.mp mem with mem | mem
      · exact List.mem_append_left _ (known x mem)
      · exact List.mem_append_right _ mem

/-- Programs that take turns keep what is kept by every question of every run of one of them,
where what was asked before in that run stands in the history. -/
theorem keeps (inv : Transcript → σ → Prop) (turns : TakeTurns answers ps s t ps' s')
    (start : inv [] s)
    (step : ∀ {p : Program α} {own rest t : Transcript} {q : Query} {answer : q.Answer} {a : α}
      {mid s' : σ}, p ∈ ps → p.Yields anyAnswer () (own ++ ⟨q, answer⟩ :: rest) a () →
      (∀ x ∈ own, x ∈ t) → inv t mid → answers q mid answer s' → inv (t ++ [⟨q, answer⟩]) s') :
    inv t s' := by
  induction turns with
  | start => exact start
  | @turn t ps' mid s' i q cont answer earlier next answered ih =>
    obtain ⟨p, there, own, reached, known⟩ := earlier.reaches _ (List.mem_of_getElem? next)
    obtain ⟨rest, a, run⟩ := reached.completes answer
    exact step there run known ih answered

end TakeTurns

/-! ### Turns in a state that computes its answers -/

/-- Programs that take turns, with what was asked so far and the state that answers. -/
structure Turns (α τ : Type) where
  /-- What is left of each program. -/
  programs : List (Program α)
  /-- What was asked and answered. -/
  transcript : Transcript
  /-- The state. -/
  state : τ

namespace Turns

variable {τ : Type}

/-- The turn of one of the programs, which passes if it is at its end. -/
def next (respond : (q : Query) → τ → q.Answer × τ) (turns : Turns α τ) (i : Nat) : Turns α τ :=
  match turns.programs[i]? with
  | some (.ask q cont) =>
    { programs := turns.programs.set i (cont (respond q turns.state).1)
      transcript := turns.transcript ++ [⟨q, (respond q turns.state).1⟩]
      state := (respond q turns.state).2 }
  | _ => turns

/-- The programs after each has had its turns in some order. -/
def after (respond : (q : Query) → τ → q.Answer × τ) (ps : List (Program α)) (w : τ)
    (order : List Nat) : Turns α τ :=
  order.foldl (next respond) ⟨ps, [], w⟩

end Turns

end GatewayOperator
