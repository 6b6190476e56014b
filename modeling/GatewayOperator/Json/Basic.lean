import GatewayOperator.Assoc
import GatewayOperator.Number

/-!
# JSON values

The data format of the cluster, of identity providers and of admission reviews.

## Main Definitions

* `Json` — a value, with the fields of an object in the order of its text.
* `Json.field?` — the value of a field that is present and not null.
* `Json.write` — the compact text of a value.

## Design Notes

A text may hold strings that are no sequence of characters (an unpaired surrogate escape) and
numbers beyond every format.  A reader may skip such a value but never use it, so it is kept as
`Json.illFormed`, which no typed reader accepts.
-/

namespace GatewayOperator

/-- A JSON value. -/
inductive Json where
  /-- The null value. -/
  | null
  /-- A truth value. -/
  | bool (value : Bool)
  /-- A number. -/
  | number (value : Number)
  /-- A string. -/
  | string (value : String)
  /-- A list of values. -/
  | array (items : List Json)
  /-- Named values, in the order of the text. -/
  | object (fields : List (String × Json))
  /-- A value that can be skipped but not used. -/
  | illFormed
  deriving Repr, Inhabited

namespace Json

/-- An integer as a value. -/
def int (n : Int) : Json := .number (.int n)

/-- A natural number as a value. -/
def nat (n : Nat) : Json := .int n

/-- An optional value, null if absent. -/
def ofOption {α : Type} (f : α → Json) : Option α → Json
  | none => .null
  | some a => f a

/-- An object of the fields that are present. -/
def record (fields : List (String × Option Json)) : Json :=
  .object (fields.filterMap fun field => field.2.map (field.1, ·))

/-- The value of a field; the last one of a name counts. -/
def get? (name : String) : Json → Option Json
  | .object fields => Assoc.lookup name fields.reverse
  | _ => none

/-- The value of a field that is present and not null. -/
def field? (name : String) (value : Json) : Option Json :=
  match value.get? name with
  | some .null => none
  | other => other

/-- The fields of an object. -/
def fields? : Json → Option (List (String × Json))
  | .object fields => some fields
  | _ => none

/-- The items of an array. -/
def items? : Json → Option (List Json)
  | .array items => some items
  | _ => none

/-- The text of a string. -/
def string? : Json → Option String
  | .string value => some value
  | _ => none

/-- The truth value. -/
def bool? : Json → Option Bool
  | .bool value => some value
  | _ => none

/-- An integer. -/
def int? : Json → Option Int
  | .number (.int value) => some value
  | _ => none

/-- Whether the value is null. -/
def isNull : Json → Bool
  | .null => true
  | _ => false

/-- A hexadecimal digit. -/
def hexDigit (n : Nat) : Char := (Nat.digitChar n)

/-- A character inside a string of the text: quotes, backslashes and controls are escaped. -/
def escapeChar (c : Char) : List Char :=
  if c = '"' then ['\\', '"']
  else if c = '\\' then ['\\', '\\']
  else if c.toNat = 8 then ['\\', 'b']
  else if c.toNat = 9 then ['\\', 't']
  else if c.toNat = 10 then ['\\', 'n']
  else if c.toNat = 12 then ['\\', 'f']
  else if c.toNat = 13 then ['\\', 'r']
  else if c.toNat < 32 then
    ['\\', 'u', '0', '0', hexDigit (c.toNat / 16), hexDigit (c.toNat % 16)]
  else [c]

/-- A string with its quotes. -/
def quote (s : String) : String :=
  String.ofList ('"' :: s.toList.flatMap escapeChar ++ ['"'])

/-- The text of a number; a fraction without digits has none and is null. -/
def numberText : Number → String
  | .int value => toString value
  | .float value => if value.isFinite then Number.text (.float value) else "null"

mutual

/-- The compact text of a value. -/
def write : Json → String
  | .null => "null"
  | .bool value => if value then "true" else "false"
  | .number value => numberText value
  | .string value => quote value
  | .array items => "[" ++ ",".intercalate (writeItems items) ++ "]"
  | .object fields => "\x7b" ++ ",".intercalate (writeFields fields) ++ "\x7d"
  | .illFormed => "null"

/-- The texts of the items of an array. -/
def writeItems : List Json → List String
  | [] => []
  | item :: rest => write item :: writeItems rest

/-- The texts of the fields of an object. -/
def writeFields : List (String × Json) → List String
  | [] => []
  | (name, value) :: rest => (quote name ++ ":" ++ write value) :: writeFields rest

end

mutual

/-- The value with the fields of each object in key order, the last field of a name counting. -/
def sortFields : Json → Json
  | .array items => .array (sortItems items)
  | .object fields => .object (Assoc.ofList (sortEntries fields))
  | other => other

/-- The items with sorted fields. -/
def sortItems : List Json → List Json
  | [] => []
  | item :: rest => sortFields item :: sortItems rest

/-- The field values with sorted fields. -/
def sortEntries : List (String × Json) → List (String × Json)
  | [] => []
  | (name, value) :: rest => (name, sortFields value) :: sortEntries rest

end

end Json

end GatewayOperator
