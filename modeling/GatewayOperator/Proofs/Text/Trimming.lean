import GatewayOperator.Text.Blank
import GatewayOperator.Text.Case

/-!
# Texts cut at their ends and at separators

## Main Definitions

* `Text.Bare` — a list without characters of some kind at its ends.

## Main Statements

* `Text.dropEnds_eq` — what stands between characters of a kind is what is left when they are cut
  off, and `Text.exists_ends` says that all that is cut off is of the kind.
* `Text.trim_trim` — a text without blanks at its ends has none to be cut off.
* `Text.lowerLatin_trim_eq_iff` — a word is read between blanks, whatever the case of its letters.
* `Text.splitOnChar_intercalate` — pieces that hold no separator are found again.
* `Text.not_mem_of_mem_splitOnChar` — the pieces of a text hold no separator.
-/

namespace GatewayOperator.Text

variable {p : Char → Bool} {cs : List Char}

/-! ### Ends -/

/-- Neither the first nor the last character satisfies `p`. -/
structure Bare (p : Char → Bool) (cs : List Char) : Prop where
  /-- The first one does not. -/
  first : ∀ c ∈ cs.head?, p c = false
  /-- The last one does not. -/
  last : ∀ c ∈ cs.getLast?, p c = false

theorem Bare.reverse (bare : Bare p cs) : Bare p cs.reverse :=
  ⟨fun c mem => bare.last c (List.head?_reverse ▸ mem),
    fun c mem => bare.first c (List.getLast?_reverse ▸ mem)⟩

/-- A list none of whose characters satisfies `p` has none at its ends. -/
theorem bare_of_forall (none_ : ∀ c ∈ cs, p c = false) : Bare p cs :=
  ⟨fun c mem => none_ c (List.mem_of_mem_head? mem),
    fun c mem => none_ c (List.mem_of_mem_getLast? mem)⟩

theorem dropEnd_prefix (p : Char → Bool) (cs : List Char) : dropEnd p cs <+: cs := by
  unfold dropEnd
  rw [← List.reverse_suffix, List.reverse_reverse]
  exact List.dropWhile_suffix p

/-- What is left has no character at its ends that is cut off. -/
theorem bare_dropEnds (p : Char → Bool) (cs : List Char) : Bare p (dropEnds p cs) := by
  constructor
  · intro c mem
    -- What is cut at the end leaves the first character where it is.
    obtain ⟨rest, whole⟩ := dropEnd_prefix p (cs.dropWhile p)
    have first : (dropEnd p (cs.dropWhile p)).head? = some c := mem
    have := List.head?_dropWhile_not p cs
    rw [← whole, List.head?_append, first] at this
    exact this
  · intro c mem
    have := List.head?_dropWhile_not p (cs.dropWhile p).reverse
    unfold dropEnds dropEnd at mem
    rw [List.getLast?_reverse] at mem
    rw [mem] at this
    exact this

theorem dropWhile_append_of_bare (bare : Bare p cs) (nonempty : cs ≠ []) (right : List Char) :
    (cs ++ right).dropWhile p = cs ++ right := by
  obtain ⟨c, rest, rfl⟩ := List.exists_cons_of_ne_nil nonempty
  have : p c = false := bare.first c rfl
  exact List.dropWhile_cons_of_neg (by simp [this])

/-- What stands between characters that are cut off is left. -/
theorem dropEnds_eq {left right : List Char} (ends : ∀ c ∈ left ++ right, p c = true)
    (bare : Bare p cs) : dropEnds p (left ++ cs ++ right) = cs := by
  obtain ⟨before, behind⟩ := List.forall_mem_append.mp ends
  unfold dropEnds dropEnd
  rw [List.append_assoc, List.dropWhile_append_of_pos before]
  by_cases empty : cs = []
  · have dropped : (right ++ []).dropWhile p = [] := List.dropWhile_append_of_pos behind
    rw [List.append_nil] at dropped
    rw [empty, List.nil_append, dropped]
    rfl
  · have reversed := dropWhile_append_of_bare bare.reverse (by simpa using empty) []
    rw [List.append_nil] at reversed
    rw [dropWhile_append_of_bare bare empty, List.reverse_append,
      List.dropWhile_append_of_pos fun c mem => behind c (List.mem_reverse.mp mem), reversed,
      List.reverse_reverse]

theorem dropEnds_of_bare (bare : Bare p cs) : dropEnds p cs = cs := by
  have ends : ∀ c ∈ [] ++ [], p c = true := by simp
  have := dropEnds_eq ends bare
  rwa [List.nil_append, List.append_nil] at this

/-- All that is cut off satisfies `p`. -/
theorem exists_ends (p : Char → Bool) (cs : List Char) :
    ∃ left right, cs = left ++ dropEnds p cs ++ right ∧ ∀ c ∈ left ++ right, p c = true := by
  have taken {cs : List Char} {c : Char} (mem : c ∈ cs.takeWhile p) : p c = true :=
    List.all_eq_true.mp List.all_takeWhile c mem
  have back (rest : List Char) :
      dropEnd p rest ++ (rest.reverse.takeWhile p).reverse = rest := by
    unfold dropEnd
    rw [← List.reverse_append, List.takeWhile_append_dropWhile, List.reverse_reverse]
  refine ⟨cs.takeWhile p, ((cs.dropWhile p).reverse.takeWhile p).reverse, ?_, ?_⟩
  · rw [List.append_assoc, dropEnds, back, List.takeWhile_append_dropWhile]
  · refine List.forall_mem_append.mpr ⟨fun c mem => taken mem, fun c mem => ?_⟩
    exact taken (List.mem_reverse.mp mem)

/-- A text between blanks is what is left when they are cut off. -/
theorem trim_eq {s : String} {left right : List Char} (same : s.toList = left ++ cs ++ right)
    (blank : ∀ c ∈ left ++ right, isBlank c = true) (unblank : ∀ c ∈ cs, isBlank c = false) :
    trim s = String.ofList cs := by
  unfold trim trimBy
  rw [same, dropEnds_eq blank (bare_of_forall unblank)]

/-- What is cut off at the ends of a text is blank. -/
theorem exists_blanks (s : String) : ∃ left right, s.toList = left ++ (trim s).toList ++ right ∧
    ∀ c ∈ left ++ right, isBlank c = true := by
  unfold trim trimBy
  rw [String.toList_ofList]
  exact exists_ends isBlank s.toList

/-- No blank has a lower case. -/
theorem toLower_of_isBlank {c : Char} (blank : isBlank c = true) : c.toLower = c := by
  unfold Char.toLower
  refine dif_neg fun upper => ?_
  have low : 65 ≤ c.toNat := upper.1
  have high : c.toNat ≤ 90 := upper.2
  simp [isBlank] at blank
  omega

/-- Between its blanks a text is a word without blanks, up to the case of the letters from A to Z,
exactly if it is such a word when it is trimmed. -/
theorem lowerLatin_trim_eq_iff {s word : String} (unblank : ∀ c ∈ word.toList, isBlank c = false) :
    lowerLatin (trim s) = word ↔ ∃ left cs right, s.toList = left ++ cs ++ right ∧
      (∀ c ∈ left ++ right, isBlank c = true) ∧ cs.map Char.toLower = word.toList := by
  unfold lowerLatin
  constructor
  · rintro rfl
    obtain ⟨left, right, same, blank⟩ := exists_blanks s
    exact ⟨left, (trim s).toList, right, same, blank, String.toList_ofList.symm⟩
  · rintro ⟨left, cs, right, same, blank, lower⟩
    have bare : ∀ c ∈ cs, isBlank c = false := by
      intro c mem
      by_cases h : isBlank c = true
      · have there : c.toLower ∈ word.toList := lower ▸ List.mem_map_of_mem mem
        rw [toLower_of_isBlank h] at there
        exact unblank c there
      · exact Bool.eq_false_iff.mpr h
    rw [trim_eq same blank bare, String.toList_ofList, lower, String.ofList_toList]

/-- A text without the blanks at its ends has none at its ends. -/
theorem trim_trim (s : String) : trim (trim s) = trim s := by
  unfold trim trimBy
  rw [String.toList_ofList, dropEnds_of_bare (bare_dropEnds isBlank _)]

/-- Nothing is left exactly of a text of blanks. -/
theorem isEmpty_trim (s : String) : (trim s).isEmpty = isBlankText s := by
  rw [Bool.eq_iff_iff, String.isEmpty_iff]
  unfold isBlankText
  rw [List.all_eq_true]
  constructor
  · intro empty c mem
    obtain ⟨left, right, same, blank⟩ := exists_blanks s
    rw [empty] at same
    exact blank c (by simpa [same] using mem)
  · intro blank
    have whole : s.toList = s.toList ++ [] ++ [] := by simp
    exact trim_eq whole (by simpa using blank) (by simp)

/-! ### Pieces -/

theorem splitChars_eq (separator : Char) (cs : List Char) :
    splitChars separator cs = cs.splitOn separator := by
  induction cs with
  | nil => rfl
  | cons c rest ih =>
    rw [List.splitOn_cons_eq_if_modifyHead, splitChars, ih]
    simp only [beq_iff_eq]
    split
    · rfl
    · cases pieces : rest.splitOn separator with
      | nil => exact absurd pieces (List.splitOn_ne_nil separator rest)
      | cons piece pieces => rfl

/-- Pieces that hold no separator are found again. -/
theorem splitOnChar_intercalate {separator : Char} {pieces : List String} (nonempty : pieces ≠ [])
    (apart : ∀ piece ∈ pieces, separator ∉ piece.toList) :
    splitOnChar separator ((String.singleton separator).intercalate pieces) = pieces := by
  have lists : (pieces.map String.toList) ≠ [] := by simpa using nonempty
  have apart : ∀ piece ∈ pieces.map String.toList, separator ∉ piece := by simpa using apart
  unfold splitOnChar
  rw [splitChars_eq, String.toList_intercalate, String.toList_singleton,
    List.splitOn_intercalate separator apart lists, List.map_map]
  simp [Function.comp_def]

theorem not_mem_of_mem_splitChars {separator : Char} {piece : List Char}
    (mem : piece ∈ splitChars separator cs) : separator ∉ piece := by
  induction cs generalizing piece with
  | nil =>
    cases List.mem_singleton.mp mem
    exact List.not_mem_nil
  | cons c rest ih =>
    unfold splitChars at mem
    split at mem
    · rcases List.mem_cons.mp mem with rfl | mem
      · exact List.not_mem_nil
      · exact ih mem
    · next other =>
      split at mem
      · cases List.mem_singleton.mp mem
        simpa using Ne.symm other
      · next first pieces found =>
        rw [found] at ih
        rcases List.mem_cons.mp mem with rfl | mem
        · exact List.not_mem_cons_of_ne_of_not_mem (Ne.symm other) (ih List.mem_cons_self)
        · exact ih (List.mem_cons_of_mem _ mem)

/-- The pieces of a text hold no separator. -/
theorem not_mem_of_mem_splitOnChar {separator : Char} {s piece : String}
    (mem : piece ∈ splitOnChar separator s) : separator ∉ piece.toList := by
  obtain ⟨chars, found, rfl⟩ := List.mem_map.mp mem
  rw [String.toList_ofList]
  exact not_mem_of_mem_splitChars found

end GatewayOperator.Text
