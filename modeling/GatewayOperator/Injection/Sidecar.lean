import GatewayOperator.Injection.Annotations
import GatewayOperator.Injection.Patch
import GatewayOperator.Resource.Data
import GatewayOperator.Resource.Service
import GatewayOperator.Rollout.Workload

/-!
# The injected gateway

## Main Definitions

* `WorkloadKind` — the kinds of workloads into which a gateway is injected.
* `SidecarNames` — the names of what is made for a workload.
* `sidecarContainer`, `sidecarService`, `sidecarConfigMap` — the container, service and config map.
-/

namespace GatewayOperator

/-- The kinds of workloads into which a gateway is injected. -/
inductive WorkloadKind where
  /-- A single workload. -/
  | pod
  /-- A replicated workload. -/
  | deployment
  deriving DecidableEq, Repr, Inhabited

namespace WorkloadKind

/-- The kind of objects. -/
def objectKind : WorkloadKind → ObjectKind
  | .pod => .pod
  | .deployment => .deployment

/-- The kind of a name. -/
def ofName? (name : String) : Option WorkloadKind :=
  [pod, deployment].find? fun kind => kind.objectKind.name = name

/-- Whether the workload is a single one. -/
def isPod : WorkloadKind → Bool
  | .pod => true
  | .deployment => false

/-- Where the wishes for the pods stand in an object. -/
def podPath : WorkloadKind → Pointer
  | .pod => []
  | .deployment => ["spec", "template"]

end WorkloadKind

/-- The names of what is made for a workload. -/
structure SidecarNames where
  /-- The workload. -/
  app : String
  /-- The container. -/
  container : String
  /-- The start of the service's name. -/
  service : String
  /-- The start of the config map's name. -/
  configMap : String
  deriving DecidableEq, Repr, Inhabited

namespace SidecarNames

/-- The names of what is made for a workload. -/
def ofWorkload (name : String) (kind : WorkloadKind) : SidecarNames :=
  let stem := match kind with
    | .pod => name ++ "-pod"
    | .deployment => name
  let sidecar (part : String) := Text.lower (stem ++ "-app-gateway-sidecar-" ++ part)
  ⟨name, sidecar "pod", sidecar "svc", sidecar "configmap"⟩

/-- The labels of what is made for a workload. -/
def labels (names : SidecarNames) : TextMap := Dict.ofList [(WellKnown.appLabel, names.app)]

end SidecarNames

/-- A check that runs the command of the gateway image. -/
def sidecarProbe (initialDelaySeconds periodSeconds : Int) : Probe :=
  { exec := some (some [WellKnown.healthCheckCommand])
    initialDelaySeconds := some initialDelaySeconds
    periodSeconds := some periodSeconds
    failureThreshold := none
    successThreshold := none
    timeoutSeconds := none }

/-- The environment of an injected gateway. -/
def sidecarEnv (a : TextMap) : Option (List EnvVar) :=
  match Annotations.env a with
  | [] => none
  | pairs => some (pairs.map fun v => ⟨v.1, some v.2⟩)

/-- The container of an injected gateway. -/
def sidecarContainer (names : SidecarNames) (a : TextMap) : Except Failure Container :=
  match Annotations.image? a with
  | none => .error (.validation .noImage)
  | some image =>
    .ok
      { name := names.container
        image := some image
        imagePullPolicy := some (pullPolicy (Annotations.imagePullPolicy? a))
        env := sidecarEnv a
        ports := some [⟨WellKnown.sidecarPort, none, none⟩]
        volumeMounts := some [configMount]
        readinessProbe := some (sidecarProbe 5 10)
        livenessProbe := some (sidecarProbe 120 20) }

/-- The port of the nodes at which an injected gateway is offered. -/
def nodePort (port : String) : Int :=
  (Text.readInt32 (Text.trim port)).toOption.getD WellKnown.defaultNodePort

/-- The service at which an injected gateway is offered. -/
def sidecarService (names : SidecarNames) (namespace_ port : String) : Service :=
  { metadata :=
      { generateName := some names.service
        namespace_ := some namespace_
        labels := some names.labels }
    spec := some
      { type := some "NodePort"
        selector := some names.labels
        ports := some
          [{ name := some names.service
             port := WellKnown.servicePort
             nodePort := some (nodePort port)
             protocol := some "TCP"
             targetPort := some (.number WellKnown.servicePort) }] } }

/-- The config map that holds the document of an injected gateway. -/
def sidecarConfigMap (names : SidecarNames) (namespace_ document : String) : ConfigMap :=
  { metadata :=
      { generateName := some names.configMap
        namespace_ := some namespace_
        labels := some names.labels }
    data := some (Dict.ofList [(WellKnown.configKey, document)]) }

end GatewayOperator
