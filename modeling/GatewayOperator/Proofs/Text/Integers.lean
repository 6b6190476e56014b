import GatewayOperator.Proofs.Text.Trimming
import GatewayOperator.Text.Integer

/-!
# Reading integers as they are written

## Main Definitions

* `Text.IntegerText` — a text of digits with an optional sign.
* `Text.PaddedInteger` — an integer within some bounds between blanks.

## Main Statements

* `Text.readInteger_eq_ok_iff` — exactly the texts of integers are read.
* `Text.readInteger_trim_eq_ok_iff` — so are exactly those between blanks, once these are cut off.
* `Text.readUnsigned64_toString`, `Text.readInt64_toString` — an integer of the wanted range is read
  as it was written.
* `Text.trim_toString` — a written integer has no blanks at its ends.

## Design Notes

The digits are read from the left, so what has been read so far never exceeds the whole number, and
no digit can be the first that is too much.
-/

namespace GatewayOperator.Text

/-! ### Digits -/

/-- The number that some digits stand for behind `acc`. -/
def digitsValue (acc : Nat) (cs : List Char) : Nat :=
  cs.foldl (fun n c => 10 * n + (c.toNat - 48)) acc

theorem toList_toString (n : Nat) : (toString n).toList = Nat.toDigits 10 n := by
  rw [Nat.toString_eq_repr, Nat.toList_repr]

theorem isDigit_of_mem_toString {n : Nat} {c : Char} (mem : c ∈ (toString n).toList) :
    c.isDigit = true := by
  rw [toList_toString] at mem
  exact Nat.isDigit_of_mem_toDigits (by omega) (by omega) mem

theorem digitsValue_toString (n : Nat) : digitsValue 0 (toString n).toList = n := by
  have value := Nat.ofDigitChars_ten_toDigits (n := n)
  rw [Nat.ofDigitChars_eq_foldl] at value
  rw [toList_toString]
  exact value

theorem toString_inj {n n' : Nat} (same : toString n = toString n') : n = n' := by
  rw [← digitsValue_toString n, same, digitsValue_toString n']

theorem toString_ne_nil (n : Nat) : (toString n).toList ≠ [] := by
  rw [toList_toString]
  exact Nat.toDigits_ne_nil

/-- More digits never make a number smaller. -/
theorem le_digitsValue (acc : Nat) (cs : List Char) : acc ≤ digitsValue acc cs := by
  induction cs generalizing acc with
  | nil => exact Nat.le_refl acc
  | cons c rest ih =>
    have := ih (10 * acc + (c.toNat - 48))
    show acc ≤ digitsValue (10 * acc + (c.toNat - 48)) rest
    omega

theorem digit?_eq_some_iff {c : Char} {d : Nat} :
    digit? c = some d ↔ c.isDigit = true ∧ c.toNat - 48 = d := by
  have digit : ('0' ≤ c ∧ c ≤ '9') ↔ c.isDigit = true := by
    unfold Char.isDigit
    rw [Bool.and_eq_true, decide_eq_true_eq, decide_eq_true_eq]
    exact Iff.rfl
  unfold digit?
  rw [Option.ite_none_right_eq_some, digit, Option.some.injEq]
  exact Iff.rfl

/-- Digits are read as the number that they stand for, if it is not beyond the limit. -/
theorem readDigits_eq_ok_iff {limit acc n : Nat} {beyond : IntegerFault} {cs : List Char}
    (sofar : acc ≤ limit) : readDigits limit beyond acc cs = .ok n ↔
      (∀ c ∈ cs, c.isDigit = true) ∧ digitsValue acc cs ≤ limit ∧ digitsValue acc cs = n := by
  induction cs generalizing acc with
  | nil =>
    unfold readDigits digitsValue
    simp [sofar]
  | cons c rest ih =>
    have next : digitsValue acc (c :: rest) = digitsValue (acc * 10 + (c.toNat - 48)) rest := by
      unfold digitsValue
      rw [List.foldl_cons, Nat.mul_comm]
    rw [next, List.forall_mem_cons]
    unfold readDigits
    cases read : digit? c with
    | none =>
      have other : ¬c.isDigit = true := by
        intro digit
        rw [digit?_eq_some_iff.mpr ⟨digit, rfl⟩] at read
        cases read
      simp [other]
    | some d =>
      obtain ⟨digit, rfl⟩ := digit?_eq_some_iff.mp read
      dsimp only
      by_cases exceeds : limit < acc * 10 + (c.toNat - 48)
      · -- What follows does not make up for the excess.
        have more := le_digitsValue (acc * 10 + (c.toNat - 48)) rest
        rw [if_pos exceeds]
        refine iff_of_false (by simp) fun ⟨_, within, _⟩ => ?_
        omega
      · rw [if_neg exceeds, ih (Nat.not_lt.mp exceeds)]
        simp [digit]

/-! ### Integers -/

/-- A text of digits with an optional sign, which stands for an integer from `-below` to `above`. -/
inductive IntegerText (below above : Nat) : List Char → Int → Prop where
  /-- There is no sign. -/
  | plain {digits : List Char} (some_ : digits ≠ []) (all : ∀ c ∈ digits, c.isDigit = true)
    (within : digitsValue 0 digits ≤ above) :
    IntegerText below above digits (digitsValue 0 digits)
  /-- There is a plus sign. -/
  | plus {digits : List Char} (some_ : digits ≠ []) (all : ∀ c ∈ digits, c.isDigit = true)
    (within : digitsValue 0 digits ≤ above) :
    IntegerText below above ('+' :: digits) (digitsValue 0 digits)
  /-- There is a minus sign. -/
  | minus {digits : List Char} (some_ : digits ≠ []) (all : ∀ c ∈ digits, c.isDigit = true)
    (signed : 0 < below) (within : digitsValue 0 digits ≤ below) :
    IntegerText below above ('-' :: digits) (-(digitsValue 0 digits : Int))

theorem map_readDigits_eq_ok_iff {limit : Nat} {beyond : IntegerFault} {cs : List Char}
    {f : Nat → Int} {n : Int} : (readDigits limit beyond 0 cs).map f = .ok n ↔
      (∀ c ∈ cs, c.isDigit = true) ∧ digitsValue 0 cs ≤ limit ∧ f (digitsValue 0 cs) = n := by
  have read (value : Nat) : readDigits limit beyond 0 cs = .ok value ↔ _ :=
    readDigits_eq_ok_iff (Nat.zero_le limit)
  cases result : readDigits limit beyond 0 cs with
  | error fault =>
    refine iff_of_false (by simp [Except.map]) fun ⟨all, within, _⟩ => ?_
    rw [(read _).mpr ⟨all, within, rfl⟩] at result
    cases result
  | ok value =>
    obtain ⟨all, within, rfl⟩ := (read value).mp result
    exact ⟨fun same => ⟨all, within, Except.ok.inj same⟩,
      fun ⟨_, _, same⟩ => congrArg Except.ok same⟩

/-- Exactly the texts of integers are read. -/
theorem readInteger_eq_ok_iff {below above : Nat} {s : String} {n : Int} :
    readInteger below above s = .ok n ↔ IntegerText below above s.toList n := by
  -- A sign is no digit.
  have sign {c : Char} {rest : List Char} (all : ∀ d ∈ c :: rest, d.isDigit = true) :
      c ≠ '+' ∧ c ≠ '-' := by
    have digit := all c List.mem_cons_self
    constructor
    · rintro rfl
      revert digit
      decide
    · rintro rfl
      revert digit
      decide
  unfold readInteger
  generalize s.toList = cs
  split
  · refine iff_of_false nofun fun text => ?_
    cases text
    contradiction
  · refine iff_of_false nofun fun text => ?_
    cases text with
    | plain _ all => exact (sign all).1 rfl
    | plus some_ => exact some_ rfl
  · refine iff_of_false nofun fun text => ?_
    cases text with
    | plain _ all => exact (sign all).2 rfl
    | minus some_ => exact some_ rfl
  · next rest some_ =>
    rw [map_readDigits_eq_ok_iff]
    constructor
    · rintro ⟨all, within, rfl⟩
      exact .plus some_ all within
    · intro text
      cases text with
      | plain _ all => exact absurd rfl (sign all).1
      | plus _ all within => exact ⟨all, within, rfl⟩
  · next rest some_ =>
    by_cases unsigned : below = 0
    · rw [if_pos unsigned]
      refine iff_of_false nofun fun text => ?_
      cases text with
      | plain _ all => exact (sign all).2 rfl
      | minus _ _ signed => omega
    · rw [if_neg unsigned, map_readDigits_eq_ok_iff]
      constructor
      · rintro ⟨all, within, rfl⟩
        exact .minus some_ all (Nat.pos_of_ne_zero unsigned) within
      · intro text
        cases text with
        | plain _ all => exact absurd rfl (sign all).2
        | minus _ all _ within => exact ⟨all, within, rfl⟩
  · next some_ _ _ noPlus noMinus =>
    rw [map_readDigits_eq_ok_iff]
    constructor
    · rintro ⟨all, within, rfl⟩
      exact .plain some_ all within
    · intro text
      cases text with
      | plain _ all within => exact ⟨all, within, rfl⟩
      | plus => exact absurd rfl (noPlus _)
      | minus => exact absurd rfl (noMinus _)

/-- A natural number is a text of digits. -/
theorem integerText_natural {below above n : Nat} (within : n ≤ above) :
    IntegerText below above (toString n).toList n := by
  have text : IntegerText below above (toString n).toList
      (digitsValue 0 (toString n).toList : Int) :=
    .plain (toString_ne_nil n) (fun c mem => isDigit_of_mem_toString mem)
      ((digitsValue_toString n).symm ▸ within)
  rwa [digitsValue_toString] at text

theorem toList_negSucc (n : Nat) :
    (toString (Int.negSucc n)).toList = '-' :: (toString (n + 1)).toList := by
  show ("-" ++ toString (n + 1)).toList = _
  rw [String.toList_append]
  rfl

/-- An integer within the bounds is a text of digits with a sign where it is negative. -/
theorem integerText_toString {below above : Nat} {n : Int} (least : -(below : Int) ≤ n)
    (most : n ≤ above) : IntegerText below above (toString n).toList n := by
  cases n with
  | ofNat n => exact integerText_natural (Int.ofNat_le.mp most)
  | negSucc n =>
    have within : n + 1 ≤ below := by omega
    have text : IntegerText below above ('-' :: (toString (n + 1)).toList)
        (-(digitsValue 0 (toString (n + 1)).toList : Int)) :=
      .minus (toString_ne_nil _) (fun c mem => isDigit_of_mem_toString mem) (by omega)
        ((digitsValue_toString (n + 1)).symm ▸ within)
    rw [digitsValue_toString] at text
    rw [toList_negSucc]
    exact text

theorem readUnsigned64_toString {n : Nat} (within : n < twoTo 64) :
    readUnsigned64 (toString n) = .ok n := by
  have bound : n ≤ twoTo 64 - 1 := by omega
  unfold readUnsigned64 readNatural
  rw [readInteger_eq_ok_iff.mpr (integerText_natural bound)]
  rfl

theorem readInt64_toString {n : Int} (least : -(twoTo 63 : Int) ≤ n) (most : n < (twoTo 63 : Int)) :
    readInt64 (toString n) = .ok n := by
  have bound : n ≤ (twoTo 63 - 1 : Nat) := by omega
  exact readInteger_eq_ok_iff.mpr (integerText_toString least bound)

/-! ### Blanks -/

theorem isBlank_of_isDigit {c : Char} (digit : c.isDigit = true) : isBlank c = false := by
  unfold Char.isDigit at digit
  simp only [Bool.and_eq_true, decide_eq_true_eq] at digit
  have low : 48 ≤ c.toNat := digit.1
  have high : c.toNat ≤ 57 := digit.2
  simp [isBlank]
  omega

/-- The text of an integer has no blanks. -/
theorem IntegerText.unblank {below above : Nat} {cs : List Char} {n : Int}
    (text : IntegerText below above cs n) : ∀ c ∈ cs, isBlank c = false := by
  cases text with
  | plain _ all => exact fun c mem => isBlank_of_isDigit (all c mem)
  | plus _ all =>
    refine List.forall_mem_cons.mpr ⟨by decide, fun c mem => ?_⟩
    exact isBlank_of_isDigit (all c mem)
  | minus _ all =>
    refine List.forall_mem_cons.mpr ⟨by decide, fun c mem => ?_⟩
    exact isBlank_of_isDigit (all c mem)

/-- A written integer has no blanks at its ends. -/
theorem trim_toString (n : Int) : trim (toString n) = toString n := by
  have text : IntegerText n.natAbs n.natAbs (toString n).toList n :=
    integerText_toString (by omega) (by omega)
  have none_ : (toString n).toList = [] ++ (toString n).toList ++ [] := by simp
  rw [trim_eq none_ (by simp) text.unblank, String.ofList_toList]

/-- A text is an integer from `-below` to `above` between blanks. -/
def PaddedInteger (below above : Nat) (s : String) (n : Int) : Prop :=
  ∃ left cs right, s.toList = left ++ cs ++ right ∧ (∀ c ∈ left ++ right, isBlank c = true) ∧
    IntegerText below above cs n

/-- A text is a signed 64-bit integer between blanks. -/
def PaddedInt64 : String → Int → Prop := PaddedInteger (twoTo 63) (twoTo 63 - 1)

/-- A text is a signed 32-bit integer between blanks. -/
def PaddedInt32 : String → Int → Prop := PaddedInteger (twoTo 31) (twoTo 31 - 1)

theorem readInteger_trim_eq_ok_iff {below above : Nat} {s : String} {n : Int} :
    readInteger below above (trim s) = .ok n ↔ PaddedInteger below above s n := by
  rw [readInteger_eq_ok_iff]
  constructor
  · intro text
    obtain ⟨left, right, same, blank⟩ := exists_blanks s
    exact ⟨left, (trim s).toList, right, same, blank, text⟩
  · rintro ⟨left, cs, right, same, blank, text⟩
    rw [trim_eq same blank text.unblank, String.toList_ofList]
    exact text

theorem readInt64_trim_eq_ok_iff {s : String} {n : Int} :
    readInt64 (trim s) = .ok n ↔ PaddedInt64 s n :=
  readInteger_trim_eq_ok_iff

theorem readInt32_trim_eq_ok_iff {s : String} {n : Int} :
    readInt32 (trim s) = .ok n ↔ PaddedInt32 s n :=
  readInteger_trim_eq_ok_iff

end GatewayOperator.Text
