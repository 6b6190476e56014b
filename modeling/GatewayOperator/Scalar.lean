import GatewayOperator.Number

/-!
# Scalars of documents

## Main Definitions

* `Scalar` — a leaf of a configuration document.
* `Scalar.text` — its text, which is also its form as a key.
* `Scalar.same` — equality of scalars, with numbers compared as numbers.
-/

namespace GatewayOperator

/-- A leaf of a configuration document. -/
inductive Scalar where
  /-- Nothing. -/
  | null
  /-- A truth value. -/
  | bool (value : Bool)
  /-- A number. -/
  | number (value : Number)
  /-- A text. -/
  | string (value : String)
  deriving DecidableEq, Repr, Inhabited

namespace Scalar

/-- The text of a scalar. -/
def text : Scalar → String
  | .null => "null"
  | .bool value => if value then "true" else "false"
  | .number value => value.text
  | .string value => value

/-- Equality of scalars. -/
def same : Scalar → Scalar → Bool
  | .number a, .number b => a.same b
  | a, b => a = b

end Scalar

end GatewayOperator
