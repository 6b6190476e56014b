import GatewayOperator.Powers

/-!
# Binary floating-point values

Fractional numbers of configuration documents are held in the 64-bit binary format.  They are read,
compared and written, never computed with, so this module represents a value by its exact
magnitude and rounds in natural-number arithmetic.

## Main Definitions

* `Binary64` — a value of the format: a signed `significand * 2 ^ exponent`, an infinity or the
  value that is no number.
* `Binary64.ofRatio` — the value nearest to a quotient; a tie goes to the even significand.
* `Binary64.ofDecimal` — the value nearest to `digits * 10 ^ scale`.
* `Binary64.same` — equality as documents see it: the two zeros are equal.

## Design Notes

Every finite value is built by `Binary64.ofRatio`, which leaves the exponent as small as the format
allows; so one real number has one representation and a decidable structural equality.
-/

namespace GatewayOperator

/-- A value of the 64-bit binary format. -/
inductive Binary64 where
  /-- The value that is no number. -/
  | nan
  /-- An infinity. -/
  | infinite (negative : Bool)
  /-- The value `significand * 2 ^ exponent`, negated if `negative`. -/
  | finite (negative : Bool) (significand : Nat) (exponent : Int)
  deriving DecidableEq, Repr, Inhabited

namespace Binary64

/-- The quotient rounded to the nearest natural number, a tie to the even one. -/
def roundQuotient (num den : Nat) : Nat :=
  let quotient := num / den
  let doubled := 2 * (num % den)
  if doubled < den then quotient
  else if den < doubled then quotient + 1
  else if quotient % 2 = 0 then quotient else quotient + 1

/-- The exponent of the smallest positive value. -/
def leastExponent : Int := -1074

/-- The largest exponent of a finite value. -/
def greatestExponent : Int := 971

/-- `num * 2 ^ (-shift) / den`, as numerator and denominator. -/
def scaled (num den : Nat) (shift : Int) : Nat × Nat :=
  if shift < 0 then (num * twoTo (-shift).toNat, den) else (num, den * twoTo shift.toNat)

/-- The value nearest to `num / den`; a tie goes to the even significand. -/
def ofRatio (negative : Bool) (num den : Nat) : Binary64 :=
  if num = 0 then .finite negative 0 leastExponent
  else
    let estimate : Int := (num.log2 : Int) - (den.log2 : Int)
    let (n, d) := scaled num den estimate
    let magnitude := if n < d then estimate - 1 else estimate
    let exponent := max (magnitude - 52) leastExponent
    let (n, d) := scaled num den exponent
    let significand := roundQuotient n d
    let (significand, exponent) :=
      if significand = twoTo 53 then (twoTo 52, exponent + 1) else (significand, exponent)
    if greatestExponent < exponent then .infinite negative
    else .finite negative significand exponent

/-- The number of decimal digits of a natural number. -/
def digitCount (n : Nat) : Nat := (Nat.toDigits 10 n).length

/-- The value nearest to `digits * 10 ^ scale`; magnitudes beyond the format are settled before
any power of ten is computed. -/
def ofDecimal (negative : Bool) (digits : Nat) (scale : Int) : Binary64 :=
  if digits = 0 then .finite negative 0 leastExponent
  else
    let magnitude := (digitCount digits : Int) + scale
    if 310 < magnitude then .infinite negative
    else if magnitude < -330 then .finite negative 0 leastExponent
    else if scale < 0 then ofRatio negative digits (tenTo (-scale).toNat)
    else ofRatio negative (digits * tenTo scale.toNat) 1

/-- Whether the value is neither infinite nor without number. -/
def isFinite : Binary64 → Bool
  | .finite .. => true
  | _ => false

/-- The magnitude of a finite value, as numerator and denominator. -/
def ratio (significand : Nat) (exponent : Int) : Nat × Nat :=
  if exponent < 0 then (significand, twoTo (-exponent).toNat)
  else (significand * twoTo exponent.toNat, 1)

/-- The product or quotient of two finite magnitudes, rounded once. -/
def scaleBy (negative : Bool) (value factor : Nat × Nat) (divide : Bool) : Binary64 :=
  if divide then ofRatio negative (value.1 * factor.2) (value.2 * factor.1)
  else ofRatio negative (value.1 * factor.1) (value.2 * factor.2)

/-- Equality of documents: the two zeros are equal and the value that is no number equals
itself. -/
def same : Binary64 → Binary64 → Bool
  | .finite _ 0 _, .finite _ 0 _ => true
  | a, b => a = b

theorem same_self (a : Binary64) : same a a = true := by
  unfold same; split <;> simp_all

end Binary64

end GatewayOperator
