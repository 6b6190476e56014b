import GatewayOperator.Text.Property.CaseIgnorable
import GatewayOperator.Text.Property.Cased
import GatewayOperator.Text.Property.LowerCase

/-!
# Lower case

Names of generated objects are in lower case, whatever script they are written in, and a few
settings are compared without regard to the case of Latin letters.

## Main Definitions

* `Text.lower` — a text in lower case.
* `Text.lowerLatin` — a text with the letters from A to Z in lower case.

## Design Notes

The lower case of a character depends on the character alone, but for the capital sigma: it becomes
a final sigma where a word ends with it.
-/

namespace GatewayOperator.Text

/-- The capital sigma. -/
def capitalSigma : Char := 'Σ'

/-- The lower case of a character on its own. -/
def lowerChar (c : Char) : List Char :=
  if c.toNat = 0x130 then ['i', Char.ofNat 0x307]
  else
    match lowerRuns.findSome? fun run => run.lower? c.toNat with
    | some n => [Char.ofNat n]
    | none => [c]

/-- Whether the first character that counts is one that has a case. -/
def meetsCased (cs : List Char) : Bool :=
  match cs.dropWhile Property.caseIgnorable.holds with
  | [] => false
  | c :: _ => Property.cased.holds c

/-- The lower case of a capital sigma between `before`, nearest first, and `after`. -/
def lowerSigma (before after : List Char) : Char :=
  if meetsCased before && !meetsCased after then 'ς' else 'σ'

/-- The lower case of the characters that follow `before`, of which the nearest stands first. -/
def lowerAfter (before : List Char) : List Char → List Char
  | [] => []
  | c :: rest =>
    (if c = capitalSigma then [lowerSigma before rest] else lowerChar c) ++
      lowerAfter (c :: before) rest

/-- A text in lower case. -/
def lower (s : String) : String := String.ofList (lowerAfter [] s.toList)

/-- A text with the letters from A to Z in lower case, and all others as they are. -/
def lowerLatin (s : String) : String := String.ofList (s.toList.map Char.toLower)

end GatewayOperator.Text
