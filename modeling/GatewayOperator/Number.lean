import GatewayOperator.Decimal.Shortest

/-!
# Numbers of documents

## Main Definitions

* `Number` — an integer, or a binary fraction.
* `Number.text` — how a number is written.
* `Number.same` — equality of numbers; an integer never equals a fraction.
-/

namespace GatewayOperator

/-- A number of a document. -/
inductive Number where
  /-- An integer. -/
  | int (value : Int)
  /-- A binary fraction. -/
  | float (value : Binary64)
  deriving DecidableEq, Repr, Inhabited

namespace Number

/-- Fractions are positional up to sixteen digits before the point and four zeros behind it. -/
def layout : Decimal.Layout := ⟨16, 4, ".inf", ".nan"⟩

/-- The text of a number. -/
def text : Number → String
  | .int value => toString value
  | .float value => layout.write value

/-- Equality of numbers. -/
def same : Number → Number → Bool
  | .int a, .int b => a = b
  | .float a, .float b => a.same b
  | _, _ => false

end Number

end GatewayOperator
