import GatewayOperator.Resource.Metadata

/-!
# Pods

## Main Definitions

* `Container`, `Volume` — the parts of a pod.
* `PodSpec` — what a pod runs.
* `Pod`, `PodTemplate` — a pod, and the pattern of the pods of a larger workload.
-/

namespace GatewayOperator

/-- A variable of a container's environment. -/
structure EnvVar where
  /-- The name. -/
  name : String
  /-- The value. -/
  value : Option String
  deriving DecidableEq, Inhabited

/-- The variable in the cluster's interface. -/
def EnvVar.toJson (e : EnvVar) : Json :=
  .record [("name", some (.string e.name)), ("value", e.value.map .string)]

/-- Reads a variable. -/
def EnvVar.ofJson? : Json.Read EnvVar := fun v => do
  let _ ← v.fields?
  let name ← Json.lenient "" Json.readText (v.get? "name")
  let value ← Json.optional Json.readText (v.get? "value")
  return { name, value }

/-- A port that a container opens. -/
structure ContainerPort where
  /-- The port. -/
  containerPort : Int
  /-- The name of the port. -/
  name : Option String
  /-- The transport protocol. -/
  protocol : Option String
  deriving DecidableEq, Inhabited

/-- The port in the cluster's interface. -/
def ContainerPort.toJson (p : ContainerPort) : Json :=
  .record
    [("containerPort", some (.int p.containerPort)), ("name", p.name.map .string),
      ("protocol", p.protocol.map .string)]

/-- Reads a port. -/
def ContainerPort.ofJson? : Json.Read ContainerPort := fun v => do
  let _ ← v.fields?
  let containerPort ← Json.lenient 0 Json.readInt32 (v.get? "containerPort")
  let name ← Json.optional Json.readText (v.get? "name")
  let protocol ← Json.optional Json.readText (v.get? "protocol")
  return { containerPort, name, protocol }

/-- A volume in a container's file tree. -/
structure VolumeMount where
  /-- The volume. -/
  name : String
  /-- Where it stands. -/
  mountPath : String
  deriving DecidableEq, Inhabited

/-- The mount in the cluster's interface. -/
def VolumeMount.toJson (m : VolumeMount) : Json :=
  .record [("mountPath", some (.string m.mountPath)), ("name", some (.string m.name))]

/-- Reads a mount. -/
def VolumeMount.ofJson? : Json.Read VolumeMount := fun v => do
  let _ ← v.fields?
  let name ← Json.lenient "" Json.readText (v.get? "name")
  let mountPath ← Json.lenient "" Json.readText (v.get? "mountPath")
  return { name, mountPath }

/-- A check of a container's health. -/
structure Probe where
  /-- The command that is run, if one is. -/
  exec : Option (Option (List String))
  /-- The seconds before the first check. -/
  initialDelaySeconds : Option Int
  /-- The seconds between checks. -/
  periodSeconds : Option Int
  /-- How many failures in a row count. -/
  failureThreshold : Option Int
  /-- How many successes in a row count. -/
  successThreshold : Option Int
  /-- The seconds after which a check has failed. -/
  timeoutSeconds : Option Int
  deriving DecidableEq, Inhabited

/-- The check in the cluster's interface. -/
def Probe.toJson (p : Probe) : Json :=
  .record
    [("exec", p.exec.map fun command =>
        .record [("command", command.map (Json.ofList .string))]),
      ("failureThreshold", p.failureThreshold.map .int),
      ("initialDelaySeconds", p.initialDelaySeconds.map .int),
      ("periodSeconds", p.periodSeconds.map .int),
      ("successThreshold", p.successThreshold.map .int),
      ("timeoutSeconds", p.timeoutSeconds.map .int)]

/-- Reads the command of a check. -/
def Probe.readExec : Json.Read (Option (List String)) := fun v => do
  let _ ← v.fields?
  Json.optional (Json.readList Json.readText) (v.get? "command")

/-- Reads a check. -/
def Probe.ofJson? : Json.Read Probe := fun v => do
  let _ ← v.fields?
  let exec ← Json.optional readExec (v.get? "exec")
  let initialDelaySeconds ← Json.optional Json.readInt32 (v.get? "initialDelaySeconds")
  let periodSeconds ← Json.optional Json.readInt32 (v.get? "periodSeconds")
  let failureThreshold ← Json.optional Json.readInt32 (v.get? "failureThreshold")
  let successThreshold ← Json.optional Json.readInt32 (v.get? "successThreshold")
  let timeoutSeconds ← Json.optional Json.readInt32 (v.get? "timeoutSeconds")
  return ⟨exec, initialDelaySeconds, periodSeconds, failureThreshold, successThreshold,
    timeoutSeconds⟩

/-- A container. -/
structure Container where
  /-- The name. -/
  name : String
  /-- The image. -/
  image : Option String := none
  /-- When the image is pulled. -/
  imagePullPolicy : Option String := none
  /-- The environment. -/
  env : Option (List EnvVar) := none
  /-- The ports. -/
  ports : Option (List ContainerPort) := none
  /-- The volumes in the file tree. -/
  volumeMounts : Option (List VolumeMount) := none
  /-- The check for whether requests can be served. -/
  readinessProbe : Option Probe := none
  /-- The check for whether the container has to be restarted. -/
  livenessProbe : Option Probe := none
  deriving DecidableEq, Inhabited

/-- The container in the cluster's interface. -/
def Container.toJson (c : Container) : Json :=
  .record
    [("env", c.env.map (Json.ofList EnvVar.toJson)),
      ("image", c.image.map .string),
      ("imagePullPolicy", c.imagePullPolicy.map .string),
      ("livenessProbe", c.livenessProbe.map Probe.toJson),
      ("name", some (.string c.name)),
      ("ports", c.ports.map (Json.ofList ContainerPort.toJson)),
      ("readinessProbe", c.readinessProbe.map Probe.toJson),
      ("volumeMounts", c.volumeMounts.map (Json.ofList VolumeMount.toJson))]

/-- Reads a container. -/
def Container.ofJson? : Json.Read Container := fun v => do
  let _ ← v.fields?
  let name ← Json.lenient "" Json.readText (v.get? "name")
  let image ← Json.optional Json.readText (v.get? "image")
  let imagePullPolicy ← Json.optional Json.readText (v.get? "imagePullPolicy")
  let env ← Json.optional (Json.readList EnvVar.ofJson?) (v.get? "env")
  let ports ← Json.optional (Json.readList ContainerPort.ofJson?) (v.get? "ports")
  let volumeMounts ← Json.optional (Json.readList VolumeMount.ofJson?) (v.get? "volumeMounts")
  let readinessProbe ← Json.optional Probe.ofJson? (v.get? "readinessProbe")
  let livenessProbe ← Json.optional Probe.ofJson? (v.get? "livenessProbe")
  return ⟨name, image, imagePullPolicy, env, ports, volumeMounts, readinessProbe, livenessProbe⟩

/-- Reads an object of which only one text matters. -/
def readNamed (field : String) : Json.Read (Option String) := fun v => do
  let _ ← v.fields?
  Json.optional Json.readText (v.get? field)

/-- A volume. -/
structure Volume where
  /-- The name. -/
  name : String
  /-- The config map whose entries are its files. -/
  configMap : Option String := none
  /-- An empty directory, and the medium it is kept on. -/
  emptyDir : Option (Option String) := none
  /-- The secret whose entries are its files. -/
  secret : Option (Option String) := none
  deriving DecidableEq, Inhabited

/-- The volume in the cluster's interface. -/
def Volume.toJson (v : Volume) : Json :=
  .record
    [("configMap", v.configMap.map fun name => .object [("name", .string name)]),
      ("emptyDir", v.emptyDir.map fun medium => .record [("medium", medium.map .string)]),
      ("name", some (.string v.name)),
      ("secret", v.secret.map fun name => .record [("secretName", name.map .string)])]

/-- Reads a volume. -/
def Volume.ofJson? : Json.Read Volume := fun v => do
  let _ ← v.fields?
  let name ← Json.lenient "" Json.readText (v.get? "name")
  let configMap ← Json.optional (readNamed "name") (v.get? "configMap")
  let emptyDir ← Json.optional (readNamed "medium") (v.get? "emptyDir")
  let secret ← Json.optional (readNamed "secretName") (v.get? "secret")
  return ⟨name, configMap.map (·.getD ""), emptyDir, secret⟩

/-- What a pod runs. -/
structure PodSpec where
  /-- The containers. -/
  containers : List Container
  /-- The volumes. -/
  volumes : Option (List Volume)
  /-- The account under which the containers act. -/
  serviceAccountName : Option String
  /-- The secrets with which images are pulled. -/
  imagePullSecrets : Option (List String)
  deriving DecidableEq, Inhabited

namespace PodSpec

/-- A pod without containers. -/
def empty : PodSpec := ⟨[], none, none, none⟩

/-- The pod in the cluster's interface. -/
def toJson (p : PodSpec) : Json :=
  .record
    [("containers", some (Json.ofList Container.toJson p.containers)),
      ("imagePullSecrets",
        p.imagePullSecrets.map (Json.ofList fun name => .object [("name", .string name)])),
      ("serviceAccountName", p.serviceAccountName.map .string),
      ("volumes", p.volumes.map (Json.ofList Volume.toJson))]

/-- Reads what a pod runs. -/
def ofJson? : Json.Read PodSpec := fun v => do
  let _ ← v.fields?
  let containers ← Json.lenient [] (Json.readList Container.ofJson?) (v.get? "containers")
  let volumes ← Json.optional (Json.readList Volume.ofJson?) (v.get? "volumes")
  let serviceAccountName ← Json.optional Json.readText (v.get? "serviceAccountName")
  let imagePullSecrets ←
    Json.optional (Json.readList fun v => (readNamed "name" v).map (·.getD ""))
      (v.get? "imagePullSecrets")
  return { containers, volumes, serviceAccountName, imagePullSecrets }

end PodSpec

/-- The pattern of the pods of a workload. -/
structure PodTemplate where
  /-- The metadata of each pod. -/
  metadata : Option Metadata
  /-- What each pod runs. -/
  spec : Option PodSpec
  deriving DecidableEq, Inhabited

namespace PodTemplate

/-- The pattern that says nothing. -/
def empty : PodTemplate := ⟨none, none⟩

/-- The pattern in the cluster's interface. -/
def toJson (t : PodTemplate) : Json :=
  .record [("metadata", t.metadata.map Metadata.toJson), ("spec", t.spec.map PodSpec.toJson)]

/-- Reads a pattern. -/
def ofJson? : Json.Read PodTemplate := fun v => do
  let _ ← v.fields?
  let metadata ← Json.optional Metadata.ofJson? (v.get? "metadata")
  let spec ← Json.optional PodSpec.ofJson? (v.get? "spec")
  return { metadata, spec }

end PodTemplate

/-- A single workload. -/
structure Pod where
  /-- The metadata. -/
  metadata : Metadata
  /-- What it runs. -/
  spec : Option PodSpec
  deriving DecidableEq, Inhabited

namespace Pod

/-- The type of pods. -/
def type : TypeMeta := ⟨"v1", "Pod"⟩

/-- The object in the cluster's interface. -/
def toJson (p : Pod) : Json :=
  .record (type.fields ++
    [("metadata", some p.metadata.toJson), ("spec", p.spec.map PodSpec.toJson)])

/-- Reads a pod. -/
def ofJson? : Json.Read Pod := fun v => do
  let _ ← v.fields?
  guard (type.admits v)
  let metadata ← Json.lenient {} Metadata.ofJson? (v.get? "metadata")
  let spec ← Json.optional PodSpec.ofJson? (v.get? "spec")
  return { metadata, spec }

end Pod

end GatewayOperator
