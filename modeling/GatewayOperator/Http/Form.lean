import GatewayOperator.Bytes.Basic

/-!
# Form bodies

## Main Definitions

* `Form.encode` — pairs of names and values as the body of a request.
-/

namespace GatewayOperator.Form

/-- The bytes that stand for themselves. -/
def isPlain (b : UInt8) : Bool :=
  let c := Char.ofNat b.toNat
  b.toNat < 128 && (c.isAlphanum || c = '*' || c = '-' || c = '.' || c = '_')

/-- An upper-case hexadecimal digit. -/
def hexDigit (n : Nat) : Char := (Nat.digitChar n).toUpper

/-- A byte in a form: a space is a plus sign, and what is not plain is written as two digits. -/
def encodeByte (b : UInt8) : List Char :=
  if b = 32 then ['+']
  else if isPlain b then [Char.ofNat b.toNat]
  else ['%', hexDigit (b.toNat / 16), hexDigit (b.toNat % 16)]

/-- A text in a form. -/
def encodeText (s : String) : String := String.ofList ((Bytes.ofText s).flatMap encodeByte)

/-- Pairs of names and values as the body of a request. -/
def encode (pairs : List (String × String)) : String :=
  "&".intercalate (pairs.map fun p => encodeText p.1 ++ "=" ++ encodeText p.2)

end GatewayOperator.Form
