import GatewayOperator.Json.Basic
import GatewayOperator.Yaml.Value

/-!
# JSON from YAML

## Main Definitions

* `Yaml.Value.toJson?` — the same value in JSON.

## Design Notes

Only a mapping whose keys are different scalars says the same in both notations.
-/

namespace GatewayOperator.Yaml.Value

mutual

/-- The same value in JSON, unless some mapping has a key that is no scalar or a key twice. -/
def toJson? : Value → Option Json
  | .scalar .null => some .null
  | .scalar (.bool b) => some (.bool b)
  | .scalar (.number n) => some (.number n)
  | .scalar (.string s) => some (.string s)
  | .sequence items => (itemsToJson? items).map .array
  | .mapping pairs =>
    match pairsToJson? pairs with
    | some fields => if (fields.map (·.1)).Nodup then some (.object fields) else none
    | none => none

/-- The items of a sequence in JSON. -/
def itemsToJson? : List Value → Option (List Json)
  | [] => some []
  | item :: rest =>
    match toJson? item, itemsToJson? rest with
    | some item, some rest => some (item :: rest)
    | _, _ => none

/-- The pairs of a mapping in JSON. -/
def pairsToJson? : List (Value × Value) → Option (List (String × Json))
  | [] => some []
  | (.scalar key, value) :: rest =>
    match toJson? value, pairsToJson? rest with
    | some value, some rest => some ((key.text, value) :: rest)
    | _, _ => none
  | _ => none

end

end GatewayOperator.Yaml.Value
