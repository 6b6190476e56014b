import GatewayOperator.Powers

/-!
# Reading integers

Settings, annotations and command-line arguments hold integers as decimal text.

## Main Definitions

* `Text.IntegerFault` — why a text is no integer of the wanted range, with its wording.
* `Text.readInteger` — a text of digits with an optional sign, within bounds.

## Design Notes

The digits are read from the left and the first fault ends the reading, so an overlong number with
a stray letter is too large if its digits overflow before the letter is reached.
-/

namespace GatewayOperator.Text

/-- Why a text is no integer of the wanted range. -/
inductive IntegerFault where
  /-- There is nothing to read. -/
  | empty
  /-- A character is no digit, or a sign stands alone. -/
  | invalidDigit
  /-- The number exceeds the upper bound. -/
  | tooLarge
  /-- The number exceeds the lower bound. -/
  | tooSmall
  deriving DecidableEq, Repr

/-- The wording of a fault. -/
def IntegerFault.message : IntegerFault → String
  | .empty => "cannot parse integer from empty string"
  | .invalidDigit => "invalid digit found in string"
  | .tooLarge => "number too large to fit in target type"
  | .tooSmall => "number too small to fit in target type"

/-- The value of a decimal digit. -/
def digit? (c : Char) : Option Nat :=
  if '0' ≤ c ∧ c ≤ '9' then some (c.toNat - '0'.toNat) else none

/-- Reads digits behind `acc`; `beyond` is the fault of a number above `limit`. -/
def readDigits (limit : Nat) (beyond : IntegerFault) : Nat → List Char → Except IntegerFault Nat
  | acc, [] => .ok acc
  | acc, c :: rest =>
    match digit? c with
    | none => .error .invalidDigit
    | some d =>
      if limit < acc * 10 + d then .error beyond else readDigits limit beyond (acc * 10 + d) rest

/-- Reads an integer from `-below` to `above`; a minus sign is read only if `below` is positive. -/
def readInteger (below above : Nat) (s : String) : Except IntegerFault Int :=
  match s.toList with
  | [] => .error .empty
  | ['+'] => .error .invalidDigit
  | ['-'] => .error .invalidDigit
  | '+' :: rest => (readDigits above .tooLarge 0 rest).map Int.ofNat
  | '-' :: rest =>
    if below = 0 then .error .invalidDigit
    else (readDigits below .tooSmall 0 rest).map fun n => -Int.ofNat n
  | cs => (readDigits above .tooLarge 0 cs).map Int.ofNat

/-- Reads a natural number up to `above`. -/
def readNatural (above : Nat) (s : String) : Except IntegerFault Nat :=
  (readInteger 0 above s).map Int.toNat

/-- Reads a signed 64-bit integer. -/
def readInt64 (s : String) : Except IntegerFault Int := readInteger (twoTo 63) (twoTo 63 - 1) s

/-- Reads a signed 32-bit integer. -/
def readInt32 (s : String) : Except IntegerFault Int := readInteger (twoTo 31) (twoTo 31 - 1) s

/-- Reads an unsigned 64-bit integer. -/
def readUnsigned64 (s : String) : Except IntegerFault Nat := readNatural (twoTo 64 - 1) s

/-- Reads an unsigned 16-bit integer. -/
def readUnsigned16 (s : String) : Except IntegerFault Nat := readNatural (twoTo 16 - 1) s

end GatewayOperator.Text
