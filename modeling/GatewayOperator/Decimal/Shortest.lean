import GatewayOperator.Decimal.Binary64
import GatewayOperator.Powers

/-!
# Shortest decimal text

A binary fraction is written with the fewest decimal digits that read back as the same value.

## Main Definitions

* `Binary64.shortest` — the shortest digits and their scale.
* `Decimal.Layout` — where positional notation ends and which words stand for the values that
  have no digits.
* `Decimal.Layout.write` — the text of a value.

## Design Notes

The reals that round to a value form an interval, whose ends belong to it exactly when the
significand is even.  A decimal grid has a point in that interval if and only if one of the two
grid points next to the value itself lies in it, so one, two, … digits are tried in turn and only
these two neighbours are looked at.
-/

namespace GatewayOperator

namespace Binary64

/-- The largest `k` with `10 ^ k ≤ num / den`, searched downwards from `start`. -/
def decimalMagnitude (num den : Nat) : Nat → Int → Int
  | 0, k => k
  | fuel + 1, k =>
    let reached :=
      if k < 0 then den ≤ num * tenTo (-k).toNat else den * tenTo k.toNat ≤ num
    if reached then k else decimalMagnitude num den fuel (k - 1)

/-- An interval of quotients over one denominator, with its midpoint. -/
structure Interval where
  /-- The lower end. -/
  low : Nat
  /-- The value itself. -/
  mid : Nat
  /-- The upper end. -/
  high : Nat
  /-- The denominator of all three. -/
  den : Nat
  /-- Whether the ends belong to the interval. -/
  closed : Bool

/-- The reals that round to `significand * 2 ^ exponent`. -/
def roundingInterval (significand : Nat) (exponent : Int) : Interval :=
  let (unit, den) := ratio 1 (exponent - 2)
  let below := if significand = twoTo 52 ∧ leastExponent < exponent then 1 else 2
  { low := (4 * significand - below) * unit
    mid := 4 * significand * unit
    high := (4 * significand + 2) * unit
    den
    closed := significand % 2 = 0 }

/-- Whether `digits * 10 ^ scale` lies in the interval. -/
def Interval.holds (i : Interval) (digits : Nat) (scale : Int) : Bool :=
  let (n, d) :=
    if scale < 0 then (digits, tenTo (-scale).toNat) else (digits * tenTo scale.toNat, 1)
  if i.closed then i.low * d ≤ n * i.den ∧ n * i.den ≤ i.high * d
  else i.low * d < n * i.den ∧ n * i.den < i.high * d

/-- Of the grid points with `scale` next to the midpoint, the nearer one in the interval. -/
def Interval.nearest? (i : Interval) (scale : Int) : Option Nat :=
  let (n, d) :=
    if scale < 0 then (i.mid * tenTo (-scale).toNat, i.den) else (i.mid, i.den * tenTo scale.toNat)
  let lower := n / d
  let preferred := roundQuotient n d
  let other := if preferred = lower then lower + 1 else lower
  if i.holds preferred scale then some preferred
  else if i.holds other scale then some other
  else none

/-- The first grid, from coarse to fine, with a point in the interval. -/
def Interval.coarsest (i : Interval) : Nat → Int → Nat × Int
  | 0, scale => ((i.nearest? scale).getD 0, scale)
  | fuel + 1, scale =>
    match i.nearest? scale with
    | some digits => (digits, scale)
    | none => i.coarsest fuel (scale - 1)

/-- The digits without the zeros at their end, which the scale takes up. -/
def dropZeros : Nat → Nat → Int → Nat × Int
  | 0, digits, scale => (digits, scale)
  | fuel + 1, digits, scale =>
    if digits ≠ 0 ∧ digits % 10 = 0 then dropZeros fuel (digits / 10) (scale + 1)
    else (digits, scale)

/-- The fewest digits that read back as a non-zero `significand * 2 ^ exponent`, and their
scale; the search for the magnitude starts from the binary one, as `log₁₀ 2` is about 0.30103. -/
def shortest (significand : Nat) (exponent : Int) : Nat × Int :=
  let i := roundingInterval significand exponent
  let bits : Int := (i.mid.log2 : Int) - (i.den.log2 : Int) + 1
  let magnitude := decimalMagnitude i.mid i.den 5 (bits * 30103 / 100000 + 1)
  let (digits, scale) := i.coarsest 17 magnitude
  dropZeros 20 digits scale

end Binary64

namespace Decimal

/-- The choices a format makes about the text of a binary fraction. -/
structure Layout where
  /-- The most digits that may stand before the point in positional notation. -/
  mostWhole : Int
  /-- The most zeros that may stand between the point and the first digit. -/
  mostZeros : Int
  /-- The text of an infinity. -/
  infinity : String
  /-- The text of the value that is no number. -/
  notANumber : String

/-- The digits with a point after the first `whole` of them, or exponent notation where the
layout leaves positional notation. -/
def Layout.place (layout : Layout) (digits : Nat) (scale : Int) : String :=
  let text := String.ofList (Nat.toDigits 10 digits)
  let length : Int := text.length
  let whole := length + scale
  if 0 ≤ scale ∧ whole ≤ layout.mostWhole then
    text ++ String.ofList (List.replicate scale.toNat '0') ++ ".0"
  else if 0 < whole ∧ whole ≤ layout.mostWhole then
    String.ofList (text.toList.take whole.toNat) ++ "." ++
      String.ofList (text.toList.drop whole.toNat)
  else if -layout.mostZeros ≤ whole ∧ whole ≤ 0 then
    "0." ++ String.ofList (List.replicate (-whole).toNat '0') ++ text
  else
    let exponent := toString (whole - 1)
    if length = 1 then text ++ "e" ++ exponent
    else
      String.ofList (text.toList.take 1) ++ "." ++ String.ofList (text.toList.drop 1) ++ "e" ++
        exponent

/-- The text of a value. -/
def Layout.write (layout : Layout) : Binary64 → String
  | .nan => layout.notANumber
  | .infinite negative => (if negative then "-" else "") ++ layout.infinity
  | .finite negative 0 _ => (if negative then "-" else "") ++ "0.0"
  | .finite negative significand exponent =>
    let (digits, scale) := Binary64.shortest significand exponent
    (if negative then "-" else "") ++ layout.place digits scale

end Decimal

end GatewayOperator
