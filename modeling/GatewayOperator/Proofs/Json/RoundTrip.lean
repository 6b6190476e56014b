import GatewayOperator.Json.Reader
import GatewayOperator.Proofs.Json.Tokens

/-!
# Reading what was written

A value is written as a text, and the text is read as the value: nothing of a value is lost on its
way through a text.

## Main Statements

* `Json.Builder.build_toTokens` — the tokens of a value put it where a value may stand.
* `Json.read_write` — the text of a value is read as that value.

## Design Notes

Numbers with a fraction are written with as few digits as name them, and are not covered; the
resources of the cluster have none.
-/

namespace GatewayOperator.Json

namespace Builder

/-- The tokens put the value where one may stand, if there is `room` for nested containers. -/
def Builds (room : Nat) (tokens : List Token) (value : Json) : Prop :=
  ∀ frames expect result, expect = .value ∨ expect = .valueOrClose →
    frames.length + room ≤ depthLimit →
      tokens.foldlM step ⟨frames, expect, result⟩ = place frames value

theorem enter_of_room {frames : List Frame} {room : Nat}
    (bound : frames.length + (room + 1) ≤ depthLimit) (frame : Frame) (expect : Expect) :
    enter frames frame expect = .ok ⟨frame :: frames, expect, .null⟩ := by
  unfold enter
  rw [if_neg (by omega)]

section

variable {α : Type} (holding : List α → Frame) {frames : List Frame} {first next : Expect}

/-- What a container holds is added part by part, with commas between. -/
theorem foldlM_parts {tokensOf : α → List Token} {parts : List α} (nonempty : parts ≠ [])
    (each : ∀ part ∈ parts, ∀ done expect result, expect = first ∨ expect = next →
      (tokensOf part).foldlM step ⟨holding done :: frames, expect, result⟩ =
        .ok ⟨holding (part :: done) :: frames, .more, .null⟩)
    (comma : ∀ done result, step ⟨holding done :: frames, .more, result⟩ .comma =
      .ok ⟨holding done :: frames, next, .null⟩)
    (done : List α) {expect : Expect} (may : expect = first ∨ expect = next) (result : Json) :
    ([.comma].intercalate (parts.map tokensOf)).foldlM step
        ⟨holding done :: frames, expect, result⟩ =
      .ok ⟨holding (parts.reverse ++ done) :: frames, .more, .null⟩ := by
  induction parts generalizing done expect result with
  | nil => exact absurd rfl nonempty
  | cons part rest ih =>
    obtain ⟨added, others⟩ := List.forall_mem_cons.mp each
    have added := added done expect result may
    cases rest with
    | nil =>
      rw [List.map_singleton, List.intercalate_singleton]
      exact added
    | cons second rest =>
      have going := ih (List.cons_ne_nil _ _) others (part :: done) (.inr rfl) .null
      rw [List.map_cons, List.map_cons, List.intercalate_cons_cons, ← List.map_cons,
        List.foldlM_append, List.foldlM_append, added, List.reverse_cons, List.append_assoc,
        List.singleton_append]
      simpa only [bind, Except.bind, List.foldlM_cons, List.foldlM_nil, comma, pure, Except.pure]
        using going

end

theorem builds_array {room : Nat} {items : List Json}
    (each : ∀ item ∈ items, Builds room (toTokens item) item) :
    Builds (room + 1) (toTokens (.array items)) (.array items) := by
  intro frames expect result may bound
  have opened : step ⟨frames, expect, result⟩ .openArray =
      .ok ⟨.array [] :: frames, .valueOrClose, .null⟩ := by
    rcases may with rfl | rfl <;> exact enter_of_room bound _ _
  rw [toTokens, itemTokens_eq, List.foldlM_cons, opened]
  show ([Token.comma].intercalate (items.map toTokens) ++ [Token.closeArray]).foldlM step
    ⟨.array [] :: frames, .valueOrClose, .null⟩ = _
  by_cases empty : items = []
  · subst empty
    exact bind_pure (place frames (.array []))
  · have added : ∀ item ∈ items, ∀ done expect result,
        expect = .valueOrClose ∨ expect = .value →
        (toTokens item).foldlM step ⟨.array done :: frames, expect, result⟩ =
          .ok ⟨.array (item :: done) :: frames, .more, .null⟩ :=
      fun item mem done expect result may =>
        each item mem (.array done :: frames) expect result may.symm (by simp; omega)
    rw [List.foldlM_append,
      foldlM_parts .array empty added (fun done result => rfl) [] (.inl rfl) .null,
      List.append_nil]
    show place frames (.array items.reverse.reverse) >>= pure = _
    rw [List.reverse_reverse, bind_pure]

theorem builds_object {room : Nat} {fields : List (String × Json)}
    (each : ∀ field ∈ fields, Builds room (toTokens field.2) field.2) :
    Builds (room + 1) (toTokens (.object fields)) (.object fields) := by
  intro frames expect result may bound
  have opened : step ⟨frames, expect, result⟩ .openObject =
      .ok ⟨.object [] true :: frames, .nameOrClose, .null⟩ := by
    rcases may with rfl | rfl <;> exact enter_of_room bound _ _
  rw [toTokens, fieldTokens_eq, List.foldlM_cons, opened]
  show ([Token.comma].intercalate (fields.map _) ++ [Token.closeObject]).foldlM step
    ⟨.object [] true :: frames, .nameOrClose, .null⟩ = _
  by_cases empty : fields = []
  · subst empty
    exact bind_pure (place frames (.object []))
  · have added : ∀ field ∈ fields, ∀ done expect result,
        expect = .nameOrClose ∨ expect = .name →
        (Token.text (some field.1) :: .colon :: toTokens field.2).foldlM step
            ⟨.object done true :: frames, expect, result⟩ =
          .ok ⟨.object (field :: done) true :: frames, .more, .null⟩ := by
      intro field mem done expect result may
      have named : step ⟨.object done true :: frames, expect, result⟩ (.text (some field.1)) =
          .ok ⟨.field done true (some field.1) :: frames, .colon, .null⟩ := by
        rcases may with rfl | rfl <;> rfl
      rw [List.foldlM_cons, named]
      exact each field mem (.field done true (some field.1) :: frames) .value .null (.inl rfl)
        (by simp; omega)
    rw [List.foldlM_append,
      foldlM_parts (fun done => .object done true) empty added (fun done result => rfl) []
        (.inl rfl) .null,
      List.append_nil]
    show place frames (.object fields.reverse.reverse) >>= pure = _
    rw [List.reverse_reverse, bind_pure]

/-- The tokens of a value that fits put it where a value may stand. -/
theorem build_toTokens {room : Nat} {value : Json} (fits : Fits room value) :
    Builds room (toTokens value) value := by
  induction fits with
  | array each ih => exact builds_array ih
  | object each ih => exact builds_object ih
  | _ =>
    intro frames expect result may _
    rcases may with rfl | rfl <;> exact bind_pure (place frames _)

end Builder

/-- **Reading inverts writing**: the text of a value is read as that value. -/
theorem read_write {value : Json} (fits : Fits Builder.depthLimit value) :
    read value.write = .ok value := by
  have built := Builder.build_toTokens fits [] .value .null (.inl rfl) (by simp)
  have unfolds {b b' : Builder} {token : Token} (stepped : b.step token = .ok b') (position : Nat)
      (rest : List Token) :
      Builder.run b position (token :: rest) = Builder.run b' (position + 1) rest := by
    rw [Builder.run, stepped]
  rw [read, tokens_write fits]
  exact run_eq_of_foldlM unfolds built 0

end GatewayOperator.Json
