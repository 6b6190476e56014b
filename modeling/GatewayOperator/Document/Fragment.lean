import GatewayOperator.Document.Merge
import GatewayOperator.Failure

/-!
# Layers of configuration as text

## Main Definitions

* `Document.parse` — the layer that a text holds.

## Design Notes

Layers are laid on top of each other, so a layer is a mapping.  A text that holds nothing is the
layer without entries.
-/

namespace GatewayOperator.Document

/-- The layer that a text holds; `origin` names the text in failures. -/
def parse (origin text : String) : Except Failure Document :=
  match Yaml.Value.read text with
  | .error fault => .error (.document origin (.notation_ fault))
  | .ok value =>
    match ofValue? value with
    | some (.scalar .null) => .ok empty
    | some (.mapping entries) => .ok (.mapping entries)
    | some _ => .error (.document origin .notMapping)
    | none => .error (.document origin (.notation_ (.keyNotScalar .start)))

end GatewayOperator.Document
