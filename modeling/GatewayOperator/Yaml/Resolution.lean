import GatewayOperator.Powers
import GatewayOperator.Scalar
import GatewayOperator.Text.Integer

/-!
# The types of plain scalars

A scalar without quotes is a truth value, a number or nothing if it is spelled like one, and a text
otherwise.

## Main Definitions

* `Yaml.resolve` — what a plain scalar is.
* `Yaml.readInteger?`, `Yaml.readFraction?` — the spellings of numbers.
* `Yaml.hasIdleZeros` — digits behind a leading zero, which are always a text.

## Design Notes

An integer may have a sign and one of the bases 16, 8 and 2.  Beyond 64 bits it has no value here:
up to 128 bits it is refused, and beyond that its digits are read as a fraction.
-/

namespace GatewayOperator.Yaml

/-- Whether a text is a spelling of nothing. -/
def isNull (s : String) : Bool := s = "null" || s = "Null" || s = "NULL" || s = "~"

/-- The truth value a text spells. -/
def bool? (s : String) : Option Bool :=
  if s = "true" ∨ s = "True" ∨ s = "TRUE" then some true
  else if s = "false" ∨ s = "False" ∨ s = "FALSE" then some false
  else none

/-- Whether a text is more than one digit, the first of them zero, behind an optional sign. -/
def hasIdleZeros (cs : List Char) : Bool :=
  let digits := match cs with
    | '-' :: rest => rest
    | '+' :: rest => rest
    | rest => rest
  match digits with
  | '0' :: rest => !rest.isEmpty && rest.all Char.isDigit
  | _ => false

/-- The value of a digit in a base up to sixteen. -/
def digitIn? (base : Nat) (c : Char) : Option Nat :=
  let value :=
    if '0' ≤ c ∧ c ≤ '9' then c.toNat - 48
    else if 'a' ≤ c ∧ c ≤ 'f' then c.toNat - 87
    else if 'A' ≤ c ∧ c ≤ 'F' then c.toNat - 55
    else base
  if value < base then some value else none

/-- The value of at least one digit. -/
def magnitude? (base : Nat) : List Char → Option Nat
  | [] => none
  | cs => cs.foldlM (fun acc c => (digitIn? base c).map fun d => acc * base + d) 0

/-- A sign, which may be missing, and what follows it. -/
def splitSign : List Char → Bool × List Char
  | '-' :: rest => (true, rest)
  | '+' :: rest => (false, rest)
  | rest => (false, rest)

/-- The base that a spelling without sign announces, and its digits. -/
def splitBase : List Char → Option (Nat × List Char)
  | '0' :: 'x' :: rest => some (16, rest)
  | '0' :: 'o' :: rest => some (8, rest)
  | '0' :: 'b' :: rest => some (2, rest)
  | _ => none

/-- The integer a text spells. -/
def integer? (cs : List Char) : Option Int :=
  let (negative, digits) := splitSign cs
  let magnitude := match splitBase digits with
    | some (base, digits) => magnitude? base digits
    | none => if hasIdleZeros cs then none else magnitude? 10 digits
  magnitude.map fun n => if negative then -(n : Int) else n

/-- How far an integer fits. -/
inductive Width where
  /-- It has 64 bits. -/
  | word
  /-- It has 128 bits. -/
  | doubleWord
  /-- It has more. -/
  | beyond
  deriving DecidableEq

/-- The width of an integer: without sign if it is not negative, as a complement otherwise. -/
def width (n : Int) : Width :=
  if -(twoTo 63 : Int) ≤ n ∧ n < twoTo 64 then .word
  else if -(twoTo 127 : Int) ≤ n ∧ n < twoTo 128 then .doubleWord
  else .beyond

/-- The leading digits of a list, and what follows them. -/
def spanDigits (cs : List Char) : List Char × List Char :=
  (cs.takeWhile Char.isDigit, cs.dropWhile Char.isDigit)

/-- The exponent at the end of a fraction, or zero if there is none. -/
def exponent? : List Char → Option Int
  | [] => some 0
  | e :: rest =>
    if e = 'e' ∨ e = 'E' then
      let (negative, digits) := splitSign rest
      if digits.isEmpty ∨ !digits.all Char.isDigit then none
      else
        let n : Nat := digits.foldl (fun acc d => min (acc * 10 + (d.toNat - 48)) (tenTo 9)) 0
        some (if negative then -(n : Int) else n)
    else none

/-- The fraction a text of digits, point and exponent spells. -/
def decimal? (cs : List Char) : Option Binary64 :=
  let (negative, rest) := splitSign cs
  let (whole, rest) := spanDigits rest
  let (fraction, rest) := match rest with
    | '.' :: after => spanDigits after
    | after => ([], after)
  let digits := whole ++ fraction
  if digits.isEmpty then none
  else (exponent? rest).map fun exponent =>
    let significand : Nat := digits.foldl (fun acc d => acc * 10 + (d.toNat - 48)) 0
    Binary64.ofDecimal negative significand (exponent - fraction.length)

/-- The fraction a text spells; beyond all finite values only the words for the infinities count. -/
def fraction? (s : String) : Option Binary64 :=
  let cs := s.toList
  let unsigned := match cs with
    | '+' :: rest => rest
    | rest => rest
  let word := String.ofList unsigned
  if s.startsWith "++" ∨ s.startsWith "+-" then none
  else if word = ".inf" ∨ word = ".Inf" ∨ word = ".INF" then some (.infinite false)
  else if s = "-.inf" ∨ s = "-.Inf" ∨ s = "-.INF" then some (.infinite true)
  else if s = ".nan" ∨ s = ".NaN" ∨ s = ".NAN" then some .nan
  else (decimal? unsigned).filter Binary64.isFinite

/-- What a plain scalar is; none for an integer of more than 64 and at most 128 bits. -/
def resolve (s : String) : Option Scalar :=
  if s.isEmpty ∨ isNull s then some .null
  else match bool? s with
    | some value => some (.bool value)
    | none =>
      let fallback :=
        if hasIdleZeros s.toList then Scalar.string s
        else match fraction? s with
          | some value => .number (.float value)
          | none => .string s
      match integer? s.toList with
      | none => some fallback
      | some n =>
        match width n with
        | .word => some (.number (.int n))
        | .doubleWord => none
        | .beyond => some fallback

end GatewayOperator.Yaml
