import GatewayOperator.Document.OfJson
import GatewayOperator.Gateway
import GatewayOperator.Gateway.Schema

/-!
# The definition of gateways

Gateways are not among the objects a cluster knows.  It learns of them from a definition, which
holds their names and their schema.

## Main Definitions

* `Gateway.schema` — what a gateway may hold.
* `Gateway.definition` — the definition.
* `Gateway.definitionText` — its text, as it is given to a cluster.
-/

namespace GatewayOperator.Gateway

/-- What a gateway may hold. -/
def schema : Schema :=
  .titled WellKnown.gatewayKind <|
  .described "Auto-generated derived type for ApplicationGatewaySpec via `CustomResource`" <|
  .record [("spec", GatewaySpec.schema), ("status", .optional GatewayStatus.schema)]

/-- A column that is shown in listings of gateways. -/
structure Column where
  /-- Its title. -/
  name : String
  /-- The type of what it shows. -/
  type : String
  /-- Where that is found in a gateway. -/
  path : String

/-- A column in its written form. -/
def Column.toJson (c : Column) : Json :=
  .object [("jsonPath", .string c.path), ("name", .string c.name), ("type", .string c.type)]

/-- The columns. -/
def columns : List Column :=
  [⟨"Replicas", "integer", ".spec.replicas"⟩,
    ⟨"Version", "string", ".status.version"⟩,
    ⟨"Ready", "string", ".status.conditions[?(@.type==\"Ready\")].status"⟩]

/-- The names under which gateways are asked for. -/
def names : Json :=
  .object [("categories", .array []), ("kind", .string WellKnown.gatewayKind),
    ("plural", .string WellKnown.gatewayPlural), ("shortNames", .array [.string "agw"]),
    ("singular", .string "applicationgateway")]

/-- The one version of the definition. -/
def version : Json :=
  .object [("additionalPrinterColumns", Json.ofList Column.toJson columns),
    ("name", .string WellKnown.gatewayVersion),
    ("schema", .object [("openAPIV3Schema", schema.toJson)]),
    ("served", .bool true), ("storage", .bool true),
    ("subresources", .object [("status", .object [])])]

/-- The definition. -/
def definition : Json :=
  .object [("apiVersion", .string "apiextensions.k8s.io/v1"),
    ("kind", .string "CustomResourceDefinition"),
    ("metadata", .object [("name", .string (WellKnown.gatewayPlural ++ "." ++ WellKnown.group))]),
    ("spec", .object [("group", .string WellKnown.group), ("names", names),
      ("scope", .string "Namespaced"), ("versions", .array [version])])]

/-- The text of the definition. -/
def definitionText : String := ((Document.ofJson? definition).map Document.render).getD ""

end GatewayOperator.Gateway
