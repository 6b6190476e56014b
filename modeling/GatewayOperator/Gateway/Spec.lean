import GatewayOperator.Gateway.EntryJson

/-!
# What a gateway is to be

## Main Definitions

* `HealthCheckSettings` — the settings of a health check, all of them optional.
* `GatewayDeployment` — how the gateway's workload is to run.
* `GatewaySpec` — the wishes of the custom resource.
* `GatewaySpec.toJson`, `GatewaySpec.ofJson?` — their form in the cluster's interface.

## Design Notes

Every field is written, an unset one as null.  The number of replicas and the language have
defaults where they are missing, but null is no value of theirs.
-/

namespace GatewayOperator

open Json

/-- The settings of a health check. -/
structure HealthCheckSettings where
  /-- The command. -/
  command : Option String
  /-- The seconds before the first check. -/
  initialDelaySeconds : Option Int
  /-- The seconds between checks. -/
  periodSeconds : Option Int
  /-- How many failures in a row count. -/
  failureThreshold : Option Int
  /-- How many successes in a row count. -/
  successThreshold : Option Int
  /-- The seconds after which a check has failed. -/
  timeoutSeconds : Option Int
  deriving DecidableEq, Inhabited

namespace HealthCheckSettings

/-- No setting. -/
def none_ : HealthCheckSettings := ⟨none, none, none, none, none, none⟩

/-- The settings in the cluster's interface. -/
def toJson (h : HealthCheckSettings) : Json :=
  .object
    [("command", ofOption .string h.command),
      ("initialDelaySeconds", ofOption .int h.initialDelaySeconds),
      ("periodSeconds", ofOption .int h.periodSeconds),
      ("failureThreshold", ofOption .int h.failureThreshold),
      ("successThreshold", ofOption .int h.successThreshold),
      ("timeoutSeconds", ofOption .int h.timeoutSeconds)]

/-- The fields of the settings, in order. -/
def fieldNames : List String :=
  ["command", "initialDelaySeconds", "periodSeconds", "failureThreshold", "successThreshold",
    "timeoutSeconds"]

/-- Reads the settings. -/
def ofJson? : Json.Read HealthCheckSettings := fun v => do
  let fields ← v.members? fieldNames
  let command ← optional readText (Assoc.lookup "command" fields)
  let initialDelay ← optional readInt32 (Assoc.lookup "initialDelaySeconds" fields)
  let period ← optional readInt32 (Assoc.lookup "periodSeconds" fields)
  let failures ← optional readInt32 (Assoc.lookup "failureThreshold" fields)
  let successes ← optional readInt32 (Assoc.lookup "successThreshold" fields)
  let timeout ← optional readInt32 (Assoc.lookup "timeoutSeconds" fields)
  return ⟨command, initialDelay, period, failures, successes, timeout⟩

end HealthCheckSettings

/-- An annotation that the pods of a gateway are to carry. -/
structure CustomAnnotation where
  /-- The key. -/
  key : String
  /-- The value. -/
  value : String
  deriving DecidableEq, Inhabited

/-- The annotation in the cluster's interface. -/
def CustomAnnotation.toJson (a : CustomAnnotation) : Json :=
  .object [("key", .string a.key), ("value", .string a.value)]

/-- Reads an annotation. -/
def CustomAnnotation.ofJson? : Json.Read CustomAnnotation := fun v => do
  let fields ← v.members? ["key", "value"]
  let key ← required readText (Assoc.lookup "key" fields)
  let value ← required readText (Assoc.lookup "value" fields)
  return ⟨key, value⟩

/-- The name of a secret with which images are pulled, in the cluster's interface. -/
def pullSecretToJson (name : String) : Json := .object [("name", .string name)]

/-- Reads the name of a secret with which images are pulled. -/
def pullSecretOfJson? : Json.Read String := fun v => do
  let fields ← v.members? ["name"]
  required readText (Assoc.lookup "name" fields)

/-- How the gateway's workload is to run. -/
structure GatewayDeployment where
  /-- The image. -/
  image : String
  /-- When the image is pulled. -/
  imagePullPolicy : Option String
  /-- The secrets with which the image is pulled. -/
  imagePullSecrets : List String
  /-- The account under which the pods act. -/
  serviceAccountName : Option String
  /-- The language of the gateway. -/
  lang : String
  /-- The end of the name of the generated config map. -/
  generatedConfigMapSuffix : Option String
  /-- The check for whether requests can be served. -/
  readinessProbe : Option HealthCheckSettings
  /-- The check for whether the gateway has to be restarted. -/
  livenessProbe : Option HealthCheckSettings
  /-- Annotations that the pods are to carry. -/
  customAnnotations : List CustomAnnotation
  deriving DecidableEq, Inhabited

namespace GatewayDeployment

/-- The language of a gateway that names none. -/
def defaultLang : String := "C"

/-- The deployment settings in the cluster's interface. -/
def toJson (d : GatewayDeployment) : Json :=
  .object
    [("image", .string d.image),
      ("imagePullPolicy", ofOption .string d.imagePullPolicy),
      ("imagePullSecrets", Json.ofList pullSecretToJson d.imagePullSecrets),
      ("serviceAccountName", ofOption .string d.serviceAccountName),
      ("lang", .string d.lang),
      ("generatedConfigMapSuffix", ofOption .string d.generatedConfigMapSuffix),
      ("readinessProbe", ofOption HealthCheckSettings.toJson d.readinessProbe),
      ("livenessProbe", ofOption HealthCheckSettings.toJson d.livenessProbe),
      ("customAnnotations", Json.ofList CustomAnnotation.toJson d.customAnnotations)]

/-- The fields of the deployment settings, in order. -/
def fieldNames : List String :=
  ["image", "imagePullPolicy", "imagePullSecrets", "serviceAccountName", "lang",
    "generatedConfigMapSuffix", "readinessProbe", "livenessProbe", "customAnnotations"]

/-- Reads the deployment settings. -/
def ofJson? : Json.Read GatewayDeployment := fun v => do
  let fields ← v.members? fieldNames
  let image ← required readText (Assoc.lookup "image" fields)
  let policy ← optional readText (Assoc.lookup "imagePullPolicy" fields)
  let secrets ←
    defaulting [] (readList pullSecretOfJson?) (Assoc.lookup "imagePullSecrets" fields)
  let account ← optional readText (Assoc.lookup "serviceAccountName" fields)
  let lang ← defaulting defaultLang readText (Assoc.lookup "lang" fields)
  let suffix ← optional readText (Assoc.lookup "generatedConfigMapSuffix" fields)
  let readiness ← optional HealthCheckSettings.ofJson? (Assoc.lookup "readinessProbe" fields)
  let liveness ← optional HealthCheckSettings.ofJson? (Assoc.lookup "livenessProbe" fields)
  let annotations ←
    defaulting [] (readList CustomAnnotation.ofJson?) (Assoc.lookup "customAnnotations" fields)
  return ⟨image, policy, secrets, account, lang, suffix, readiness, liveness, annotations⟩

end GatewayDeployment

/-- The wishes of the custom resource. -/
structure GatewaySpec where
  /-- The number of pods. -/
  replicas : Int
  /-- How the workload is to run. -/
  deployment : GatewayDeployment
  /-- Where the configuration comes from, the lowest layer first. -/
  configuration : List ConfigurationEntry
  deriving DecidableEq, Inhabited

namespace GatewaySpec

/-- The number of pods of a gateway that asks for none. -/
def defaultReplicas : Int := 1

/-- The wishes in the cluster's interface. -/
def toJson (s : GatewaySpec) : Json :=
  .object
    [("replicas", .int s.replicas), ("deployment", s.deployment.toJson),
      ("configuration", Json.ofList ConfigurationEntry.toJson s.configuration)]

/-- Reads the wishes. -/
def ofJson? : Json.Read GatewaySpec := fun v => do
  let fields ← v.members? ["replicas", "deployment", "configuration"]
  let replicas ← defaulting defaultReplicas readInt32 (Assoc.lookup "replicas" fields)
  let deployment ← required GatewayDeployment.ofJson? (Assoc.lookup "deployment" fields)
  let configuration ←
    defaulting [] (readList ConfigurationEntry.ofJson?) (Assoc.lookup "configuration" fields)
  return ⟨replicas, deployment, configuration⟩

end GatewaySpec

end GatewayOperator
