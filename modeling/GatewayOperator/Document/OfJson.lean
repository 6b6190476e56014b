import GatewayOperator.Document
import GatewayOperator.Json.Basic

/-!
# Documents from JSON

## Main Definitions

* `Document.ofJson?` — the document of a JSON value, the entries of each object in key order.
-/

namespace GatewayOperator.Document

mutual

/-- The document of a JSON value. -/
def ofJson? : Json → Option Document
  | .null => some (.scalar .null)
  | .bool b => some (.scalar (.bool b))
  | .number n => some (.scalar (.number n))
  | .string s => some (.scalar (.string s))
  | .array items => (itemsOfJson? items).map .sequence
  | .object fields => (entriesOfJson? fields []).map .mapping
  | .illFormed => none

/-- The documents of the items of an array. -/
def itemsOfJson? : List Json → Option (List Document)
  | [] => some []
  | item :: rest =>
    match ofJson? item, itemsOfJson? rest with
    | some item, some rest => some (item :: rest)
    | _, _ => none

/-- The entries of some fields, behind the entries in `done`; the last field of a name counts. -/
def entriesOfJson? (fields : List (String × Json)) (done : List (String × Document)) :
    Option (List (String × Document)) :=
  match fields with
  | [] => some done
  | (name, value) :: rest =>
    match ofJson? value with
    | none => none
    | some child => entriesOfJson? rest (Assoc.insert name child done)

end

end GatewayOperator.Document
