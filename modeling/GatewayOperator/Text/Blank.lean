/-!
# Blanks

Which characters count as blank, and texts without the blanks at their ends.

## Main Definitions

* `Text.isBlank` — the characters with the Unicode property `White_Space`.
* `Text.trim`, `Text.trimEndBy`, `Text.isBlankText` — cutting at the ends of a text.
* `Text.stripPrefix?`, `Text.splitOnChar` — taking a text apart.
-/

namespace GatewayOperator.Text

/-- The characters with the Unicode property `White_Space`. -/
def isBlank (c : Char) : Bool :=
  let n := c.toNat
  (9 ≤ n && n ≤ 13) || n = 0x20 || n = 0x85 || n = 0xA0 || n = 0x1680 ||
    (0x2000 ≤ n && n ≤ 0x200A) || n = 0x2028 || n = 0x2029 || n = 0x202F || n = 0x205F ||
    n = 0x3000

/-- The list without the longest end whose characters satisfy `p`. -/
def dropEnd (p : Char → Bool) (cs : List Char) : List Char :=
  (cs.reverse.dropWhile p).reverse

/-- The list without the characters satisfying `p` at both ends. -/
def dropEnds (p : Char → Bool) (cs : List Char) : List Char :=
  dropEnd p (cs.dropWhile p)

/-- The text without the characters satisfying `p` at both ends. -/
def trimBy (p : Char → Bool) (s : String) : String := String.ofList (dropEnds p s.toList)

/-- The text without the characters satisfying `p` at its end. -/
def trimEndBy (p : Char → Bool) (s : String) : String := String.ofList (dropEnd p s.toList)

/-- The text without the blanks at both ends. -/
def trim (s : String) : String := trimBy isBlank s

/-- Whether the text holds nothing but blanks. -/
def isBlankText (s : String) : Bool := s.toList.all isBlank

/-- The text unless it is empty. -/
def nonEmpty? (s : String) : Option String := if s.isEmpty then none else some s

theorem nonEmpty?_eq_some_iff {s t : String} : nonEmpty? s = some t ↔ s ≠ "" ∧ s = t := by
  simp [nonEmpty?]

theorem nonEmpty?_of_ne {s : String} (h : s ≠ "") : nonEmpty? s = some s :=
  nonEmpty?_eq_some_iff.mpr ⟨h, rfl⟩

/-- What is left of a text is not empty. -/
theorem bind_nonEmpty?_eq_some_iff {o : Option String} {s : String} :
    o.bind nonEmpty? = some s ↔ o = some s ∧ s ≠ "" := by
  cases o with
  | none => simp
  | some t =>
    rw [Option.bind_some, nonEmpty?_eq_some_iff, Option.some.injEq]
    constructor
    · rintro ⟨nonempty, rfl⟩
      exact ⟨rfl, nonempty⟩
    · rintro ⟨rfl, nonempty⟩
      exact ⟨nonempty, rfl⟩

@[simp] theorem bind_nonEmpty?_bind_nonEmpty? (o : Option String) :
    (o.bind nonEmpty?).bind nonEmpty? = o.bind nonEmpty? := by
  cases h : o.bind nonEmpty? with
  | none => rfl
  | some s => exact nonEmpty?_of_ne (bind_nonEmpty?_eq_some_iff.mp h).2

/-- What follows `start` in a list that begins with it. -/
def dropPrefix? : List Char → List Char → Option (List Char)
  | [], rest => some rest
  | _ :: _, [] => none
  | c :: start, d :: rest => if c = d then dropPrefix? start rest else none

/-- What follows `start` in a text that begins with it. -/
def stripPrefix? (start s : String) : Option String :=
  (dropPrefix? start.toList s.toList).map String.ofList

/-- Whether the text begins with `start`. -/
def hasPrefix (start s : String) : Bool := (dropPrefix? start.toList s.toList).isSome

/-- The pieces of a list between the characters equal to `separator`. -/
def splitChars (separator : Char) : List Char → List (List Char)
  | [] => [[]]
  | c :: rest =>
    if c = separator then [] :: splitChars separator rest
    else match splitChars separator rest with
      | [] => [[c]]
      | piece :: pieces => (c :: piece) :: pieces

/-- The pieces of a text between the characters equal to `separator`. -/
def splitOnChar (separator : Char) (s : String) : List String :=
  (splitChars separator s.toList).map String.ofList

/-- The parts of a text before and after the first `separator`. -/
def splitOnce? (separator : Char) (s : String) : Option (String × String) :=
  let before := s.toList.takeWhile (· ≠ separator)
  match s.toList.dropWhile (· ≠ separator) with
  | [] => none
  | _ :: after => some (String.ofList before, String.ofList after)

end GatewayOperator.Text
