import GatewayOperator.Text.Blank

/-!
# Keys made of parts

Annotations are grouped by their keys, which are made of parts with dots between them.

## Main Definitions

* `Text.Dotless` — a part of a key.
* `Text.dotted` — the key that is made of some parts.

## Main Statements

* `Text.stripPrefix?_eq_some_iff`, `Text.splitOnce?_eq_some_iff` — when a text is taken apart.
* `Text.dotted_inj` — a key is made of one list of parts only.
-/

namespace GatewayOperator.Text

/-! ### Prefixes -/

theorem dropPrefix?_eq_some_iff {start s rest : List Char} :
    dropPrefix? start s = some rest ↔ s = start ++ rest := by
  induction start generalizing s with
  | nil =>
    unfold dropPrefix?
    rw [List.nil_append, Option.some.injEq]
  | cons c start ih =>
    cases s with
    | nil => simp [dropPrefix?]
    | cons d s =>
      unfold dropPrefix?
      by_cases same : c = d
      · rw [if_pos same, ih, same, List.cons_append, List.cons.injEq]
        simp
      · rw [if_neg same, List.cons_append, List.cons.injEq]
        simp [Ne.symm same]

theorem stripPrefix?_eq_some_iff {start s rest : String} :
    stripPrefix? start s = some rest ↔ s = start ++ rest := by
  unfold stripPrefix?
  rw [Option.map_eq_some_iff]
  constructor
  · rintro ⟨chars, dropped, rfl⟩
    have split := dropPrefix?_eq_some_iff.mp dropped
    rw [← String.toList_inj, String.toList_append, split]
    simp
  · rintro rfl
    refine ⟨rest.toList, ?_, by simp⟩
    rw [dropPrefix?_eq_some_iff, String.toList_append]

theorem hasPrefix_iff {start s : String} :
    hasPrefix start s = true ↔ ∃ rest, s = start ++ rest := by
  unfold hasPrefix
  rw [Option.isSome_iff_exists]
  constructor
  · rintro ⟨chars, dropped⟩
    refine ⟨String.ofList chars, ?_⟩
    rw [← String.toList_inj, String.toList_append, dropPrefix?_eq_some_iff.mp dropped]
    simp
  · rintro ⟨rest, rfl⟩
    refine ⟨rest.toList, ?_⟩
    rw [dropPrefix?_eq_some_iff, String.toList_append]

theorem hasPrefix_append_self (start rest : String) : hasPrefix start (start ++ rest) = true :=
  hasPrefix_iff.mpr ⟨rest, rfl⟩

/-! ### First parts -/

/-- A text is split at its first separator. -/
theorem splitOnce?_eq_some_iff {separator : Char} {s a b : String} :
    splitOnce? separator s = some (a, b) ↔
      separator ∉ a.toList ∧ s.toList = a.toList ++ separator :: b.toList := by
  unfold splitOnce?
  dsimp only
  constructor
  · intro split_
    split at split_
    · cases split_
    · next d after rest =>
      simp only [Option.some.injEq, Prod.mk.injEq] at split_
      obtain ⟨rfl, rfl⟩ := split_
      have whole := List.takeWhile_append_dropWhile
        (p := fun c => decide (c ≠ separator)) (l := s.toList)
      have stop : d = separator := by
        have first := List.head?_dropWhile_not (fun c => decide (c ≠ separator)) s.toList
        rw [rest] at first
        simpa using first
      subst stop
      rw [String.toList_ofList, String.toList_ofList]
      constructor
      · intro mem
        have unstopped : decide (d ≠ d) = true :=
          List.all_eq_true.mp (List.all_takeWhile (p := fun c => decide (c ≠ d))) d mem
        simp at unstopped
      · rw [← rest, whole]
  · rintro ⟨none_, same⟩
    have unstopped : ∀ c ∈ a.toList, decide (c ≠ separator) = true := by
      intro c mem
      refine decide_eq_true ?_
      rintro rfl
      exact none_ mem
    rw [same, List.takeWhile_append_of_pos unstopped, List.dropWhile_append_of_pos unstopped]
    simp

/-! ### Dots -/

/-- There is no dot in a text. -/
def Dotless (s : String) : Prop := '.' ∉ s.toList

instance (s : String) : Decidable (Dotless s) := inferInstanceAs (Decidable ('.' ∉ s.toList))

theorem toList_append_dot (a b : String) :
    (a ++ ("." ++ b)).toList = a.toList ++ '.' :: b.toList := by
  rw [String.toList_append, String.toList_append]
  rfl

/-- A text is split at its first dot. -/
theorem splitOnce?_dot_iff {s a b : String} :
    splitOnce? '.' s = some (a, b) ↔ Dotless a ∧ s = a ++ ("." ++ b) := by
  rw [splitOnce?_eq_some_iff, ← toList_append_dot, String.toList_inj]
  rfl

/-- A text has one first part only. -/
theorem append_dot_inj {a b x y : String} (dotless : Dotless a) (dotless' : Dotless b)
    (same : a ++ ("." ++ x) = b ++ ("." ++ y)) : a = b ∧ x = y := by
  have first : splitOnce? '.' (a ++ ("." ++ x)) = some (a, x) :=
    splitOnce?_dot_iff.mpr ⟨dotless, rfl⟩
  have second : splitOnce? '.' (a ++ ("." ++ x)) = some (b, y) :=
    splitOnce?_dot_iff.mpr ⟨dotless', same⟩
  simpa using first.symm.trans second

theorem not_dotless_append (a b : String) : ¬Dotless (a ++ ("." ++ b)) := by
  intro dotless
  refine dotless ?_
  rw [toList_append_dot]
  exact List.mem_append_right _ List.mem_cons_self

/-- The key that is made of some parts. -/
def dotted : List String → String
  | [] => ""
  | [part] => part
  | part :: parts => part ++ ("." ++ dotted parts)

@[simp] theorem dotted_singleton (part : String) : dotted [part] = part := rfl

@[simp] theorem dotted_cons_cons (part next : String) (parts : List String) :
    dotted (part :: next :: parts) = part ++ ("." ++ dotted (next :: parts)) := rfl

/-- A key is made of one list of parts only. -/
theorem dotted_inj {p q : List String} (some_ : p ≠ []) (some_' : q ≠ [])
    (dotless : ∀ part ∈ p, Dotless part) (dotless' : ∀ part ∈ q, Dotless part)
    (same : dotted p = dotted q) : p = q := by
  induction p generalizing q with
  | nil => exact absurd rfl some_
  | cons part parts ih =>
    obtain ⟨part', parts', rfl⟩ := List.exists_cons_of_ne_nil some_'
    have here : Dotless part := dotless part List.mem_cons_self
    have here' : Dotless part' := dotless' part' List.mem_cons_self
    cases parts with
    | nil =>
      cases parts' with
      | nil => rw [show part = part' from same]
      | cons next' rest' =>
        -- The key of one part has no dot.
        rw [dotted_singleton, dotted_cons_cons] at same
        exact absurd (same ▸ here) (not_dotless_append _ _)
    | cons next rest =>
      cases parts' with
      | nil =>
        rw [dotted_singleton, dotted_cons_cons] at same
        exact absurd (same.symm ▸ here') (not_dotless_append _ _)
      | cons next' rest' =>
        rw [dotted_cons_cons, dotted_cons_cons] at same
        obtain ⟨rfl, below⟩ := append_dot_inj here here' same
        rw [ih (List.cons_ne_nil _ _) (List.cons_ne_nil _ _)
          (fun part mem => dotless part (List.mem_cons_of_mem _ mem))
          (fun part mem => dotless' part (List.mem_cons_of_mem _ mem)) below]

/-- What follows the first part of a key is the key of the other parts. -/
theorem dotted_eq_append_dot {first rest : String} {parts : List String} (some_ : parts ≠ [])
    (dotless : ∀ part ∈ parts, Dotless part) (dotless' : Dotless first)
    (same : dotted parts = first ++ ("." ++ rest)) :
    ∃ others, others ≠ [] ∧ parts = first :: others ∧ rest = dotted others := by
  obtain ⟨part, others, rfl⟩ := List.exists_cons_of_ne_nil some_
  have here : Dotless part := dotless part List.mem_cons_self
  cases others with
  | nil =>
    rw [dotted_singleton] at same
    exact absurd (same ▸ here) (not_dotless_append _ _)
  | cons next others =>
    rw [dotted_cons_cons] at same
    obtain ⟨rfl, below⟩ := append_dot_inj here dotless' same
    exact ⟨next :: others, List.cons_ne_nil _ _, rfl, below.symm⟩

/-- What stands in a key before its first dot is its first part. -/
theorem takeWhile_dotted {first : String} (dotless : Dotless first) (others : List String) :
    String.ofList ((dotted (first :: others)).toList.takeWhile (· ≠ '.')) = first := by
  have unstopped : ∀ c ∈ first.toList, decide (c ≠ '.') = true := by
    intro c mem
    refine decide_eq_true ?_
    rintro rfl
    exact dotless mem
  have chars : ∃ rest, (dotted (first :: others)).toList = first.toList ++ rest ∧
      rest.takeWhile (· ≠ '.') = [] := by
    cases others with
    | nil => exact ⟨[], by simp, rfl⟩
    | cons next others =>
      refine ⟨'.' :: (dotted (next :: others)).toList, ?_, List.takeWhile_cons_of_neg (by simp)⟩
      rw [dotted_cons_cons, toList_append_dot]
  obtain ⟨rest, split_, stopped⟩ := chars
  rw [split_, List.takeWhile_append_of_pos unstopped, stopped, List.append_nil,
    String.ofList_toList]

end GatewayOperator.Text
