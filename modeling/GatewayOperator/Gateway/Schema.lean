import GatewayOperator.Gateway.Spec
import GatewayOperator.Gateway.Status

/-!
# Schemas

A schema says what values a field may hold.  The cluster checks every gateway against the schema it
has been given, before the operator sees it.

## Main Definitions

* `Schema` — the values a field may hold, and what is said about the field.
* `Schema.toJson` — a schema in its written form.
* `GatewaySpec.schema`, `GatewayStatus.schema` — what a gateway may ask for and may have become.

## Design Notes

Whether a field must be present follows from its schema: it may be missing if it is optional or has
a default.
-/

namespace GatewayOperator

/-- The values a field may hold, and what is said about the field. -/
inductive Schema where
  /-- Strings. -/
  | text
  /-- Truth values. -/
  | flag
  /-- Integers of a number of bits. -/
  | integer (bits : Nat)
  /-- Some strings. -/
  | choice (names : List String)
  /-- Lists of items of one kind. -/
  | list (item : Schema)
  /-- Objects with some fields, given in order of their names. -/
  | record (members : List (String × Schema))
  /-- The same values, with a title. -/
  | titled (title : String) (schema : Schema)
  /-- The same values, with a description. -/
  | described (description : String) (schema : Schema)
  /-- The same values and null; the field may be missing. -/
  | optional (schema : Schema)
  /-- The same values; a missing field has the default. -/
  | defaulting (default : Json) (schema : Schema)
  /-- The same values; the field may be missing. -/
  | omissible (schema : Schema)
  deriving Inhabited

namespace Schema

/-- Whether a field may be missing. -/
def mayBeMissing : Schema → Bool
  | .optional _ | .defaulting .. | .omissible _ => true
  | .titled _ schema | .described _ schema => schema.mayBeMissing
  | _ => false

/-- The names of the fields that must be present. -/
def required (members : List (String × Schema)) : List String :=
  (members.filter fun member => !member.2.mayBeMissing).map Prod.fst

mutual

/-- The written form of a schema, as fields in order of their names; what is said last about a field
counts. -/
def fields : Schema → List (String × Json)
  | .text => [("type", .string "string")]
  | .flag => [("type", .string "boolean")]
  | .integer bits => [("format", .string ("int" ++ toString bits)), ("type", .string "integer")]
  | .choice names => [("enum", Json.ofList .string names), ("type", .string "string")]
  | .list item => [("items", .object item.fields), ("type", .string "array")]
  | .record members =>
    let properties := ("properties", .object (properties members))
    let type := ("type", .string "object")
    match required members with
    | [] => [properties, type]
    | names => [properties, ("required", Json.ofList .string names), type]
  | .titled title schema => Assoc.insert "title" (.string title) schema.fields
  | .described description schema =>
    Assoc.insert "description" (.string description) schema.fields
  | .optional schema => Assoc.insert "nullable" (.bool true) schema.fields
  | .defaulting value schema => Assoc.insert "default" value schema.fields
  | .omissible schema => schema.fields

/-- The written forms of the schemas of fields. -/
def properties : List (String × Schema) → List (String × Json)
  | [] => []
  | (name, schema) :: rest => (name, .object schema.fields) :: properties rest

end

/-- A schema in its written form. -/
def toJson (s : Schema) : Json := .object s.fields

/-- Lists of items of one kind; a missing one is empty. -/
def listOrEmpty (item : Schema) : Schema := .defaulting (.array []) (.list item)

/-- A text of several lines. -/
def lines (texts : List String) : String := "\n".intercalate texts

end Schema

open Schema

/-- The settings of a health check. -/
def HealthCheckSettings.schema : Schema :=
  .described (lines
    ["Exec health check settings",
      "",
      "Values below their minimum fall back to the defaults applied when the",
      "Deployment is rendered."]) <|
  .record
    [("command", .described "Command executed by the check (default: /sbin/health_check.sh)" <|
        .optional .text),
      ("failureThreshold", .optional (.integer 32)),
      ("initialDelaySeconds", .optional (.integer 32)),
      ("periodSeconds", .optional (.integer 32)),
      ("successThreshold", .optional (.integer 32)),
      ("timeoutSeconds", .optional (.integer 32))]

/-- An annotation. -/
def CustomAnnotation.schema : Schema := .record [("key", .text), ("value", .text)]

/-- The deployment of a gateway. -/
def GatewayDeployment.schema : Schema :=
  .described "Deployment settings of the gateway workload" <|
  .record
    [("customAnnotations", .described "Extra annotations placed on the gateway pod template" <|
        listOrEmpty CustomAnnotation.schema),
      ("generatedConfigMapSuffix", .described (lines
          ["Suffix appended to the resource name for the generated ConfigMap",
            "Default: \"-config-gateway-generated\""]) <|
        .optional .text),
      ("image", .described "Gateway container image" .text),
      ("imagePullPolicy", .described "Image pull policy (Always, Never, IfNotPresent)" <|
        .optional .text),
      ("imagePullSecrets", .described "Secrets used to pull the gateway image" <|
        listOrEmpty (.record [("name", .text)])),
      ("lang", .described "Value of the LANG environment variable inside the gateway" <|
        .defaulting (.string GatewayDeployment.defaultLang) .text),
      ("livenessProbe", .optional HealthCheckSettings.schema),
      ("readinessProbe", .optional HealthCheckSettings.schema),
      ("serviceAccountName", .described "Service account the gateway pods run as" <|
        .optional .text)]

/-- A header of a request. -/
def HeaderEntry.schema : Schema :=
  .described "HTTP header sent with a `web` source request" <|
  .record
    [("name", .text),
      ("secretKey", .optional .text),
      ("type", .choice (HeaderKind.all.map HeaderKind.name)),
      ("value", .text)]

/-- A field of a registration. -/
def PostDataEntry.schema : Schema :=
  .described "Field of the OIDC client registration request body" <|
  .record
    [("name", .text),
      ("value", .optional .text),
      ("values", .optional (.list .text))]

/-- A part of a configuration. -/
def ConfigurationEntry.schema : Schema :=
  .described (lines
    ["One entry of `spec.configuration[]`",
      "",
      "Which fields are required depends on `type`:",
      "- `literal`: `value`",
      "- `configmap`: `name`, `dataKey`",
      "- `web`: `url`, optional `headers`",
      "- `oidc_registration`: " ++
        "`discoveryEndpoint`, `secret`, `postData`"]) <|
  .record
    [("dataKey", .optional .text),
      ("discoveryEndpoint", .optional .text),
      ("headers", .omissible (.list HeaderEntry.schema)),
      ("name", .optional .text),
      ("postData", .omissible (.list PostDataEntry.schema)),
      ("secret", .described
          "Secret holding OIDC client credentials and registration auth material" <|
        .optional .text),
      ("type", .described "Kind of configuration source" <|
        .choice (SourceKind.all.map SourceKind.name)),
      ("url", .optional .text),
      ("value", .optional .text)]

/-- What a gateway may ask for. -/
def GatewaySpec.schema : Schema :=
  .described (lines
    ["ApplicationGateway Custom Resource Definition",
      "",
      "Declares a gateway Deployment together with the ordered list of sources",
      "its configuration document is assembled from.",
      "",
      "# Example",
      "",
      "```yaml",
      "apiVersion: app-gateway.operator.dev/v1",
      "kind: ApplicationGateway",
      "metadata:",
      "  name: edge",
      "  namespace: default",
      "spec:",
      "  replicas: 2",
      "  deployment:",
      "    image: registry.example.com/gateway:24.12",
      "    lang: en_US.utf8",
      "  configuration:",
      "    - type: configmap",
      "      name: edge-base",
      "      dataKey: config.yaml",
      "    - type: literal",
      "      value: |",
      "        server:",
      "          local_applications:",
      "            cred_viewer: \x7bpath_segment: creds\x7d",
      "```"]) <|
  .record
    [("configuration", .described
          "Ordered configuration sources; later entries override earlier ones" <|
        listOrEmpty ConfigurationEntry.schema),
      ("deployment", .described "Container and pod settings for the gateway Deployment"
        GatewayDeployment.schema),
      ("replicas", .described "Number of gateway replicas" <|
        .defaulting (.int GatewaySpec.defaultReplicas) (.integer 32))]

/-- A condition of a gateway. -/
def Condition.schema : Schema :=
  .record
    [("lastTransitionTime", .optional .text),
      ("message", .optional .text),
      ("reason", .optional .text),
      ("status", .text),
      ("type", .text)]

/-- What a gateway may have become. -/
def GatewayStatus.schema : Schema :=
  .described "Status of the ApplicationGateway resource" <|
  .record
    [("conditions", .described "Conditions represent the latest available observations" <|
        listOrEmpty Condition.schema),
      ("configMapName", .described
          "Name of the generated ConfigMap holding the merged document" <|
        .optional .text),
      ("observedGeneration", .described "Observed generation" <| .optional (.integer 64)),
      ("ready", .described "False whenever the last reconciliation failed" <|
        .defaulting (.bool false) .flag),
      ("replicas", .described "Replica count of the live Deployment" <| .optional (.integer 32)),
      ("version", .described "Config version currently rolled out" <| .optional .text)]

end GatewayOperator
