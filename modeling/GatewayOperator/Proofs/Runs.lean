import GatewayOperator.Program

/-!
# Runs of programs

A program says which questions it asks.  What is answered, and what becomes of the state that
answers, is described by a relation, so one statement covers every way in which a call may be
carried out, refused or lost.

## Main Definitions

* `Answered`, `Transcript` — the questions of a run with their answers.
* `Responder` — which answers a state allows, and which state follows.
* `Transcript.Leads` — the states to which a transcript may lead.
* `Program.Yields` — the runs of a program.
* `Program.Asks` — the questions of a program satisfy a condition, whatever the answers.
* `Program.trace` — the transcript of a run against a state that computes its answers.

## Main Statements

* `Program.yields_bind` — a run of a composite is a run of its first part and one of its second.
* `Program.Yields.relates` — what every question that is asked preserves, every run preserves.
* `Program.exists_yields` — there is a run if no question is ever left without an answer.

## Design Notes

A run is defined by recursion on the program, so its inversion is computed and not derived: each
lemma about a way of building programs is an equivalence.
-/

namespace GatewayOperator

/-- A question with the answer it got. -/
structure Answered where
  /-- The question. -/
  query : Query
  /-- The answer. -/
  answer : query.Answer

/-- The questions of a run with their answers, the first first. -/
abbrev Transcript := List Answered

/-- Where none of the questions finds anything, nothing is found in all of them. -/
theorem Transcript.filterMap_eq_nil {β : Type} {find? : Answered → Option β} {p : Query → Prop}
    {t : Transcript} (asked : ∀ x ∈ t, p x.query)
    (finds_none : ∀ q answer, p q → find? ⟨q, answer⟩ = none) : t.filterMap find? = [] := by
  refine List.filterMap_eq_nil_iff.mpr fun x mem => ?_
  obtain ⟨q, answer⟩ := x
  exact finds_none q answer (asked _ mem)

/-- What does not stand in the first part of a list stands in what follows. -/
theorem exists_eq_append_of_notMem {α : Type} {before after before' after' : List α} {x : α}
    (same : before ++ after = before' ++ x :: after') (new : x ∉ before) :
    ∃ between, before' = before ++ between ∧ after = between ++ x :: after' := by
  rcases List.append_eq_append_iff.mp same with ⟨between, found, follows⟩ | ⟨rest, found, follows⟩
  · exact ⟨between, found, follows⟩
  · cases rest with
    | nil => exact ⟨[], by simpa using found.symm, by simpa using follows.symm⟩
    | cons y rest =>
      obtain ⟨rfl, -⟩ := List.cons.inj follows
      exact absurd (found ▸ List.mem_append_right before' List.mem_cons_self) new

/-- Which answers a state allows to a question, and which state follows. -/
abbrev Responder (σ : Type) := (q : Query) → σ → q.Answer → σ → Prop

/-- From one state to another a transcript may lead. -/
def Transcript.Leads {σ : Type} (answers : Responder σ) : Transcript → σ → σ → Prop
  | [], s, s' => s' = s
  | x :: rest, s, s' => ∃ mid, answers x.query s x.answer mid ∧ Leads answers rest mid s'

namespace Transcript.Leads

variable {σ : Type} {answers : Responder σ} {t t' : Transcript} {s s' : σ}

/-- A transcript leads on where its first part leads. -/
theorem append :
    Leads answers (t ++ t') s s' ↔ ∃ mid, Leads answers t s mid ∧ Leads answers t' mid s' := by
  induction t generalizing s with
  | nil => exact ⟨fun led => ⟨s, rfl, led⟩, fun ⟨_, same, led⟩ => same ▸ led⟩
  | cons x rest ih =>
    constructor
    · rintro ⟨mid, answered, led⟩
      obtain ⟨mid', first, second⟩ := ih.mp led
      exact ⟨mid', ⟨mid, answered, first⟩, second⟩
    · rintro ⟨mid', ⟨mid, answered, first⟩, second⟩
      exact ⟨mid, answered, ih.mpr ⟨mid', first, second⟩⟩

/-- A transcript relates the state it leads from to the one it leads to as each question does. -/
theorem relates {p : Query → Prop} (rel : σ → σ → Prop) (refl : ∀ s, rel s s)
    (trans : ∀ {s₁ s₂ s₃}, rel s₁ s₂ → rel s₂ s₃ → rel s₁ s₃)
    (step : ∀ q, p q → ∀ s answer s', answers q s answer s' → rel s s')
    (led : Leads answers t s s') (asked : ∀ x ∈ t, p x.query) : rel s s' := by
  induction t generalizing s with
  | nil =>
    obtain rfl : s' = s := led
    exact refl _
  | cons x rest ih =>
    obtain ⟨mid, answered, led⟩ := led
    exact trans (step _ (asked x List.mem_cons_self) _ _ _ answered)
      (ih led fun y mem => asked y (List.mem_cons_of_mem x mem))

end Transcript.Leads

namespace Program

variable {α β σ : Type} {answers : Responder σ}

/-- The runs of a program: from a state, through a transcript, to a result and a state. -/
def Yields (answers : Responder σ) : Program α → σ → Transcript → α → σ → Prop
  | .done result, s, t, a, s' => t = [] ∧ a = result ∧ s' = s
  | .ask q cont, s, t, a, s' => ∃ answer mid rest,
      answers q s answer mid ∧ t = ⟨q, answer⟩ :: rest ∧ (cont answer).Yields answers mid rest a s'

/-- Every question of a program satisfies a condition, whatever the answers are. -/
def Asks (p : Query → Prop) : Program α → Prop
  | .done _ => True
  | .ask q cont => p q ∧ ∀ answer, (cont answer).Asks p

instance : LawfulMonad Program :=
  LawfulMonad.mk' Program andThen_done (fun _ _ => rfl) andThen_assoc

/-! ### Runs of the ways of building programs -/

@[simp] theorem yields_pure {a b : α} {s s' : σ} {t : Transcript} :
    (pure a : Program α).Yields answers s t b s' ↔ t = [] ∧ b = a ∧ s' = s :=
  Iff.rfl

theorem yields_query {q : Query} {answer : q.Answer} {s s' : σ} {t : Transcript} :
    (query q).Yields answers s t answer s' ↔ answers q s answer s' ∧ t = [⟨q, answer⟩] := by
  constructor
  · rintro ⟨found, mid, rest, allowed, rfl, rfl, rfl, rfl⟩
    exact ⟨allowed, rfl⟩
  · rintro ⟨allowed, rfl⟩
    exact ⟨answer, s', [], allowed, rfl, rfl, rfl, rfl⟩

/-- A run of a composite is a run of its first part, followed by a run of what that leads to. -/
theorem yields_bind {p : Program α} {next : α → Program β} {s s' : σ} {t : Transcript} {b : β} :
    (p >>= next).Yields answers s t b s' ↔
      ∃ a mid before after, p.Yields answers s before a mid ∧
        (next a).Yields answers mid after b s' ∧ t = before ++ after := by
  induction p generalizing s t with
  | done result =>
    constructor
    · intro run
      exact ⟨result, s, [], t, ⟨rfl, rfl, rfl⟩, run, rfl⟩
    · rintro ⟨a, mid, before, after, ⟨rfl, rfl, rfl⟩, run, rfl⟩
      exact run
  | ask q cont ih =>
    constructor
    · rintro ⟨answer, mid, rest, allowed, rfl, run⟩
      obtain ⟨a, mid', before, after, first, second, rfl⟩ := ih answer |>.mp run
      exact ⟨a, mid', _, after, ⟨answer, mid, before, allowed, rfl, first⟩, second, rfl⟩
    · rintro ⟨a, mid', _, after, ⟨answer, mid, before, allowed, rfl, first⟩, second, rfl⟩
      exact ⟨answer, mid, _, allowed, rfl,
        (ih answer).mpr ⟨a, mid', before, after, first, second, rfl⟩⟩

/-! ### What the questions of a program imply for its runs -/

@[simp] theorem asks_pure {p : Query → Prop} (a : α) : (pure a : Program α).Asks p := trivial

theorem asks_query {p : Query → Prop} {q : Query} (h : p q) : (query q).Asks p :=
  ⟨h, fun _ => trivial⟩

theorem Asks.bind {p : Query → Prop} {first : Program α} {next : α → Program β}
    (hfirst : first.Asks p) (hnext : ∀ a, (next a).Asks p) : (first >>= next).Asks p := by
  induction first with
  | done result => exact hnext result
  | ask q cont ih => exact ⟨hfirst.1, fun answer => ih answer (hfirst.2 answer)⟩

theorem Asks.mono {p p' : Query → Prop} {program : Program α} (h : program.Asks p)
    (weaker : ∀ q, p q → p' q) : program.Asks p' := by
  induction program with
  | done result => trivial
  | ask q cont ih => exact ⟨weaker q h.1, fun answer => ih answer (h.2 answer)⟩

/-- What a program may ask is all that stands in its transcripts. -/
theorem Yields.asked {p : Query → Prop} {program : Program α} {s s' : σ} {t : Transcript} {a : α}
    (run : program.Yields answers s t a s') (h : program.Asks p) : ∀ x ∈ t, p x.query := by
  induction program generalizing s t with
  | done result =>
    obtain ⟨rfl, -, -⟩ := run
    simp
  | ask q cont ih =>
    obtain ⟨answer, mid, rest, -, rfl, run⟩ := run
    intro x mem
    rcases List.mem_cons.mp mem with rfl | mem
    · exact h.1
    · exact ih answer run (h.2 answer) x mem

/-- The transcript of a run leads from its first state to its last. -/
theorem Yields.leads {program : Program α} {s s' : σ} {t : Transcript} {a : α}
    (run : program.Yields answers s t a s') : t.Leads answers s s' := by
  induction program generalizing s t with
  | done result =>
    obtain ⟨rfl, -, rfl⟩ := run
    rfl
  | ask q cont ih =>
    obtain ⟨answer, mid, rest, answered, rfl, run⟩ := run
    exact ⟨mid, answered, ih answer run⟩

/-- A run relates its first state to its last as every question that is asked does. -/
theorem Yields.relates {p : Query → Prop} (rel : σ → σ → Prop) (refl : ∀ s, rel s s)
    (trans : ∀ {s₁ s₂ s₃}, rel s₁ s₂ → rel s₂ s₃ → rel s₁ s₃)
    (step : ∀ q, p q → ∀ s answer s', answers q s answer s' → rel s s')
    {program : Program α} {s s' : σ} {t : Transcript} {a : α}
    (run : program.Yields answers s t a s') (h : program.Asks p) : rel s s' :=
  run.leads.relates rel refl trans step (run.asked h)

/-- A run stays a run where more is allowed. -/
theorem Yields.mono {answers' : Responder σ}
    (allowed : ∀ q s answer s', answers q s answer s' → answers' q s answer s')
    {program : Program α} {s s' : σ} {t : Transcript} {a : α}
    (run : program.Yields answers s t a s') : program.Yields answers' s t a s' := by
  induction program generalizing s t with
  | done result => exact run
  | ask q cont ih =>
    obtain ⟨answer, mid, rest, answered, rfl, run⟩ := run
    exact ⟨answer, mid, rest, allowed _ _ _ _ answered, rfl, ih answer run⟩

/-- There is a run from every state if no question is ever left without an answer. -/
theorem exists_yields (total : ∀ q s, ∃ answer s', answers q s answer s') (program : Program α)
    (s : σ) : ∃ t a s', program.Yields answers s t a s' := by
  induction program generalizing s with
  | done result => exact ⟨[], result, s, rfl, rfl, rfl⟩
  | ask q cont ih =>
    obtain ⟨answer, mid, allowed⟩ := total q s
    obtain ⟨t, a, s', run⟩ := ih answer mid
    exact ⟨_, a, s', answer, mid, t, allowed, rfl, run⟩

/-- What is asked and answered when a program is run against a state that computes its answers. -/
def trace {τ : Type} (respond : (q : Query) → τ → q.Answer × τ) : Program α → τ → Transcript
  | .done _, _ => []
  | .ask q cont, w =>
    ⟨q, (respond q w).1⟩ :: (cont (respond q w).1).trace respond (respond q w).2

/-- A run against a state that computes its answers is a run of the relation that allows these
answers in what is seen of the state. -/
theorem yields_run {τ : Type} {respond : (q : Query) → τ → q.Answer × τ} (view : τ → σ)
    (kept : τ → Prop) (stays : ∀ q w, kept w → kept (respond q w).2)
    (allowed : ∀ q w, kept w → answers q (view w) (respond q w).1 (view (respond q w).2))
    (program : Program α) (w : τ) (h : kept w) :
    program.Yields answers (view w) (program.trace respond w) (program.run respond w).1
      (view (program.run respond w).2) := by
  induction program generalizing w with
  | done result => exact ⟨rfl, rfl, rfl⟩
  | ask q cont ih =>
    exact ⟨_, _, _, allowed q w h, rfl, ih (respond q w).1 (respond q w).2 (stays q w h)⟩

end Program

end GatewayOperator
