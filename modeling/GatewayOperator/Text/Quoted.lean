import GatewayOperator.Text.Property.Extending
import GatewayOperator.Text.Property.Unprintable

/-!
# Texts between quotes

Diagnostic texts show other texts between double quotes, in a form in which every character can be
seen.

## Main Definitions

* `Text.quoted` — a text between quotes.
* `Text.quotedOption` — an optional text, with the word for its presence.
-/

namespace GatewayOperator.Text

/-- A character by its code point. -/
def codePointEscape (c : Char) : List Char :=
  ['\\', 'u', '\x7b'] ++ Nat.toDigits 16 c.toNat ++ ['\x7d']

/-- A character between quotes: quotes, backslashes and what cannot be seen are escaped. -/
def quotedChar (c : Char) : List Char :=
  if c.toNat = 0 then ['\\', '0']
  else if c = '\t' then ['\\', 't']
  else if c = '\r' then ['\\', 'r']
  else if c = '\n' then ['\\', 'n']
  else if c = '\\' then ['\\', '\\']
  else if c = '"' then ['\\', '"']
  else if Property.extending.holds c || Property.unprintable.holds c then codePointEscape c
  else [c]

/-- A text between quotes. -/
def quoted (s : String) : String :=
  String.ofList ('"' :: s.toList.flatMap quotedChar ++ ['"'])

/-- An optional value, with the word for its presence. -/
def shownOption {α : Type} (shown : α → String) : Option α → String
  | none => "None"
  | some a => "Some(" ++ shown a ++ ")"

/-- An optional text between quotes. -/
def quotedOption (s : Option String) : String := shownOption quoted s

/-- A list between brackets. -/
def shownList (items : List String) : String := "[" ++ ", ".intercalate items ++ "]"

/-- A record with its name and its fields. -/
def shownRecord (name : String) (fields : List (String × String)) : String :=
  name ++ " \x7b " ++ ", ".intercalate (fields.map fun f => f.1 ++ ": " ++ f.2) ++ " \x7d"

/-- A record of which some fields, or all, are left out. -/
def shownPartly (name : String) (fields : List (String × String)) : String :=
  match fields with
  | [] => name ++ " \x7b .. \x7d"
  | _ =>
    name ++ " \x7b " ++ ", ".intercalate (fields.map fun f => f.1 ++ ": " ++ f.2) ++ ", .. \x7d"

/-- A truth value. -/
def shownBool (b : Bool) : String := if b then "true" else "false"

end GatewayOperator.Text
