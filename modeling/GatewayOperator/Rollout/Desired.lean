import GatewayOperator.Gateway
import GatewayOperator.Rollout.HealthCheck
import GatewayOperator.Text.Case

/-!
# The workload a gateway asks for

## Main Definitions

* `pullPolicy` — when images are pulled, from a setting in any spelling.
* `DesiredWorkload` — the workload that a gateway asks for.
* `DesiredWorkload.ofGateway` — read off a gateway, for one version of its configuration.
-/

namespace GatewayOperator

/-- When images are pulled: never, always, or if a node has none yet. -/
def pullPolicy (setting : Option String) : String :=
  match setting.map fun s => Text.lowerLatin (Text.trim s) with
  | some "never" => "Never"
  | some "always" => "Always"
  | _ => "IfNotPresent"

/-- The workload that a gateway asks for. -/
structure DesiredWorkload where
  /-- The name of the workload and of its container. -/
  name : String
  /-- The number of pods. -/
  replicas : Int
  /-- The image. -/
  image : String
  /-- When the image is pulled. -/
  imagePullPolicy : String
  /-- The secrets with which the image is pulled. -/
  imagePullSecrets : List String
  /-- The account under which the pods act. -/
  serviceAccount : Option String
  /-- The language. -/
  lang : String
  /-- The check for whether requests can be served. -/
  readiness : HealthCheck
  /-- The check for whether the container has to be restarted. -/
  liveness : HealthCheck
  /-- The annotations of the pods. -/
  annotations : TextMap
  /-- The version of the configuration. -/
  configVersion : String
  /-- The config map that holds the configuration. -/
  configMapName : String
  deriving DecidableEq

namespace DesiredWorkload

/-- The annotations of the pods: those of the gateway, and the container to attach to unless they
name another one. -/
def podAnnotations (name : String) (custom : List CustomAnnotation) : TextMap :=
  let annotations : TextMap := Dict.ofList (custom.map fun a => (a.key, a.value))
  if annotations.contains WellKnown.defaultContainerAnnotation then annotations
  else annotations.insert WellKnown.defaultContainerAnnotation name

/-- The workload that a gateway asks for, with its configuration in a config map. -/
def ofGateway (g : Gateway) (configVersion configMapName : String) : DesiredWorkload :=
  let d := g.spec.deployment
  { name := g.name
    replicas := g.spec.replicas
    image := d.image
    imagePullPolicy := pullPolicy d.imagePullPolicy
    imagePullSecrets := d.imagePullSecrets
    serviceAccount := d.serviceAccountName.bind Text.nonEmpty?
    lang := d.lang
    readiness := .readiness d.readinessProbe
    liveness := .liveness d.livenessProbe
    annotations := podAnnotations g.name d.customAnnotations
    configVersion
    configMapName }

end DesiredWorkload

end GatewayOperator
