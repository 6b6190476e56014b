import GatewayOperator.Dict
import GatewayOperator.Json.Basic
import GatewayOperator.Powers

/-!
# Reading typed values from JSON

## Main Definitions

* `Json.readText`, `Json.readBool`, `Json.readInt32`, `Json.readInt64` — readers of single values.
* `Json.readList`, `Json.readMap`, `Json.readTextMap` — readers of collections.
* `Json.optional`, `Json.required`, `Json.defaulting`, `Json.lenient` — what a field that is missing
  or null means.
* `Json.members?` — the fields of a record that is checked strictly.

## Design Notes

Two kinds of records are read.  Cluster objects are read leniently: unknown fields are ignored, the
last field of a name counts, and null means missing.  Records of the operator's own resource and of
identity providers are read strictly: a known field may occur only once, null is a value of
optional fields only, and a list of the values in field order is accepted as well.
-/

namespace GatewayOperator.Json

/-- A reader of values. -/
abbrev Read (α : Type) := Json → Option α

/-- A text. -/
def readText : Read String := Json.string?

/-- A truth value. -/
def readBool : Read Bool := Json.bool?

/-- An integer between two bounds. -/
def readIntBetween (low high : Int) : Read Int := fun v =>
  v.int?.filter fun n => decide (low ≤ n ∧ n ≤ high)

/-- A signed 32-bit integer. -/
def readInt32 : Read Int := readIntBetween (-(twoTo 31 : Int)) (twoTo 31 - 1)

/-- A signed 64-bit integer. -/
def readInt64 : Read Int := readIntBetween (-(twoTo 63 : Int)) (twoTo 63 - 1)

/-- A list. -/
def readList {α : Type} (read : Read α) : Read (List α) := fun v =>
  v.items?.bind fun items => items.mapM read

/-- A map from texts; the last value of a key counts. -/
def readMap {α : Type} (read : Read α) : Read (Dict String α) := fun v =>
  v.fields?.bind fun fields =>
    (fields.mapM fun field => (read field.2).map (field.1, ·)).map Dict.ofList

/-- A map from texts to texts. -/
def readTextMap : Read TextMap := readMap readText

/-- A field that may be missing or null. -/
def optional {α : Type} (read : Read α) : Option Json → Option (Option α)
  | none => some none
  | some .null => some none
  | some v => (read v).map some

/-- A field that has to be present. -/
def required {α : Type} (read : Read α) : Option Json → Option α
  | none => none
  | some v => read v

/-- A field with a value of its own where it is missing. -/
def defaulting {α : Type} (default : α) (read : Read α) : Option Json → Option α
  | none => some default
  | some v => read v

/-- A field with a value of its own where it is missing or null. -/
def lenient {α : Type} (default : α) (read : Read α) : Option Json → Option α
  | none => some default
  | some .null => some default
  | some v => read v

/-- The known fields of a record, each at most once; a list gives them in order. -/
def members? (names : List String) : Json → Option (List (String × Json))
  | .object fields =>
    let known := fields.filter fun field => names.contains field.1
    if (known.map (·.1)).Nodup then some known else none
  | .array items => if items.length ≤ names.length then some (names.zip items) else none
  | _ => none

/-- A map as an object. -/
def ofMap {α : Type} (write : α → Json) (d : Dict String α) : Json :=
  .object (d.entries.map fun entry => (entry.1, write entry.2))

/-- A map of texts as an object. -/
def ofTextMap (d : TextMap) : Json := ofMap .string d

/-- A list as an array. -/
def ofList {α : Type} (write : α → Json) (items : List α) : Json := .array (items.map write)

end GatewayOperator.Json
