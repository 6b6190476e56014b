import GatewayOperator.Injection.Changes
import GatewayOperator.Injection.Sidecar
import GatewayOperator.Resolution

/-!
# Admission of workloads

Before a pod or a replicated workload is stored, it is reviewed.  One that asks for a gateway gets a
container and a volume, and a service and a config map are made for it.

## Main Definitions

* `AdmissionRequest`, `AdmissionResponse` — what is asked and what is answered.
* `AdmittedObject` — what is looked at of a workload.
* `review` — what is done to a workload.
* `decideAdmission` — the answer to a request.

## Design Notes

What was made for a request is removed again if the request fails later on, and what was made for
an earlier one is removed only after its successor has been made.
-/

namespace GatewayOperator

/-- What is done with an object. -/
inductive AdmissionOperation where
  /-- It is new. -/
  | create
  /-- It is changed. -/
  | update
  /-- It goes. -/
  | delete
  /-- It is connected to. -/
  | connect
  deriving DecidableEq, Repr, Inhabited

namespace AdmissionOperation

/-- All operations. -/
def all : List AdmissionOperation := [.create, .update, .delete, .connect]

/-- The name of an operation in a request. -/
def name : AdmissionOperation → String
  | .create => "CREATE"
  | .update => "UPDATE"
  | .delete => "DELETE"
  | .connect => "CONNECT"

/-- The label under which an operation is counted. -/
def label : AdmissionOperation → String
  | .create => "create"
  | .update => "update"
  | .delete => "delete"
  | .connect => "connect"

/-- The operation of a name. -/
def ofName? (name : String) : Option AdmissionOperation := all.find? fun o => o.name = name

end AdmissionOperation

/-- What is asked. -/
structure AdmissionRequest where
  /-- The identity of the request. -/
  uid : String
  /-- The kind of the object. -/
  kind : String
  /-- The name of the object. -/
  name : String
  /-- The namespace of the object. -/
  namespace_ : Option String
  /-- What is done with the object. -/
  operation : AdmissionOperation
  /-- The object as it is to be. -/
  object : Option Json
  /-- The object as it was. -/
  oldObject : Option Json

/-- What is answered. -/
inductive AdmissionResponse where
  /-- The object is stored as it is. -/
  | allow
  /-- The object is stored with a patch applied. -/
  | patch (patch : Patch)
  /-- The object is not stored. -/
  | deny (message : String)

/-- What a failure means for the object. -/
inductive FailurePolicy where
  /-- It is not stored. -/
  | fail
  /-- It is stored as it is. -/
  | ignore
  deriving DecidableEq, Repr, Inhabited

namespace FailurePolicy

/-- All policies. -/
def all : List FailurePolicy := [.fail, .ignore]

/-- The name of a policy. -/
def name : FailurePolicy → String
  | .fail => "fail"
  | .ignore => "ignore"

/-- A policy in diagnostic texts. -/
def shown : FailurePolicy → String
  | .fail => "Fail"
  | .ignore => "Ignore"

/-- The policy of a name in any spelling, or why there is none. -/
def read (text : String) : Except UnknownName FailurePolicy :=
  let name := Text.lowerLatin (Text.trim text)
  match all.find? fun p => p.name = name with
  | some policy => .ok policy
  | none => .error ⟨"admission failure policy", name⟩

end FailurePolicy

/-- What is looked at of a workload. -/
structure AdmittedObject where
  /-- The annotations, if there are any. -/
  annotations : Option TextMap
  /-- What its pods run. -/
  pod : PodSpec

namespace AdmittedObject

/-- The metadata and the pod of a workload. -/
def parts? (kind : WorkloadKind) (object : Json) : Option (Metadata × Option PodSpec) :=
  match kind with
  | .pod => (Pod.ofJson? object).map fun pod => (pod.metadata, pod.spec)
  | .deployment => (Deployment.ofJson? object).map fun d => (d.metadata, d.podSpec?)

/-- What is looked at of a workload, if it can be read. -/
def decode (kind : WorkloadKind) (object : Json) : Except Failure AdmittedObject :=
  match parts? kind object with
  | some (metadata, pod) => .ok ⟨metadata.annotations, pod.getD .empty⟩
  | none => .error (.validation (.unreadableObject kind.objectKind "unexpected value"))

/-- The annotations. -/
def allAnnotations (o : AdmittedObject) : TextMap := o.annotations.getD ∅

/-- The volumes. -/
def volumes (o : AdmittedObject) : List Volume := o.pod.volumes.getD []

end AdmittedObject

/-- What is done to a workload. -/
inductive Mutation where
  /-- Nothing. -/
  | allow
  /-- A patch is applied. -/
  | patch (patch : Patch)

/-- Makes a service and answers its name. -/
def makeService (names : SidecarNames) (namespace_ port : String) : Attempt String := do
  let made ← Attempt.ofStore
    (Program.query (.createService namespace_ (sidecarService names namespace_ port)))
  return made.metadata.nameText

/-- Makes a config map with the document of some sources and answers its name. -/
def makeConfigMap (names : SidecarNames) (namespace_ : String) (sources : List Source) :
    Attempt String := do
  let document ← resolve namespace_ sources
  let made ← Attempt.ofStore (Program.query
    (.createConfigMap namespace_ (sidecarConfigMap names namespace_ document.render)))
  return made.metadata.nameText

/-- Removes a service; that this fails is of no consequence. -/
def discardService (namespace_ : String) (name : Option String) : Program Unit :=
  match name.bind Text.nonEmpty? with
  | none => return
  | some name => do
    let _ ← Program.query (.deleteService namespace_ name)

/-- Removes a config map; that this fails is of no consequence. -/
def discardConfigMap (namespace_ : String) (name : Option String) : Program Unit :=
  match name.bind Text.nonEmpty? with
  | none => return
  | some name => do
    let _ ← Program.query (.deleteConfigMap namespace_ name)

/-- The attempt, with something done if it fails. -/
def Attempt.orCleanUp {α : Type} (attempt : Attempt α) (cleanUp : Program Unit) : Attempt α :=
  ExceptT.mk do
    match ← attempt.run with
    | .ok value => return .ok value
    | .error failure =>
      cleanUp
      return .error failure

/-- The list of volumes in an object. -/
def volumesPath (kind : WorkloadKind) : Pointer := kind.podPath ++ ["spec", "volumes"]

/-- The list of containers in an object. -/
def containersPath (kind : WorkloadKind) : Pointer := kind.podPath ++ ["spec", "containers"]

/-- The patch of a new workload: a volume, a container, and the names of what was made for it. -/
def createPatch (kind : WorkloadKind) (target : AdmittedObject) (names : SidecarNames)
    (service : Option String) (configMap : String) : Except Failure Patch := do
  let container ← sidecarContainer names target.allAnnotations
  let recorded : TextMap := Dict.ofList
    [(WellKnown.serviceNameAnnotation, service.getD ""),
      (WellKnown.configMapNameAnnotation, configMap)]
  return [
      .append (volumesPath kind) target.volumes.length (configVolume configMap).toJson,
      .append (containersPath kind) target.pod.containers.length container.toJson,
      .setAnnotations target.annotations recorded]

/-- The change of the volume of a workload, if its configuration was made anew. -/
def volumeUpdate (kind : WorkloadKind) (target : AdmittedObject) (scope : UpdateScope)
    (configMap : Option String) : Patch :=
  match scope.config, configMap with
  | true, some configMap =>
    [.upsert (volumesPath kind)
      (target.volumes.findIdx? fun v => v.name = WellKnown.configVolume)
      target.volumes.length (configVolume configMap).toJson]
  | _, _ => []

/-- The change of the container of a workload. -/
def containerUpdate (kind : WorkloadKind) (target : AdmittedObject) (names : SidecarNames) :
    Except Failure PatchOperation := do
  let container ← sidecarContainer names target.allAnnotations
  return .upsert (containersPath kind)
    (target.pod.containers.findIdx? fun c => c.name = names.container)
    target.pod.containers.length container.toJson

/-- The patch of a changed workload: the parts that were made anew. -/
def updatePatch (kind : WorkloadKind) (target : AdmittedObject) (names : SidecarNames)
    (scope : UpdateScope) (configMap : Option String) (recorded : TextMap) :
    Except Failure Patch :=
  let annotations : Patch :=
    if recorded.isEmpty then [] else [.setAnnotations target.annotations recorded]
  if scope.container then
    (containerUpdate kind target names).map fun operation =>
      volumeUpdate kind target scope configMap ++ [operation] ++ annotations
  else .ok annotations

/-- What is done to a workload that is new and asks for a gateway. -/
def inject (kind : WorkloadKind) (name namespace_ : String) (target : AdmittedObject) :
    Attempt Mutation := do
  let annotations := target.allAnnotations
  let entries ← Attempt.ofExcept (Annotations.validate annotations)
  let sources ← Attempt.ofExcept (Source.ofEntries entries)
  let names := SidecarNames.ofWorkload name kind
  let service ← match Annotations.servicePort? annotations with
    | some port => some <$> makeService names namespace_ port
    | none => pure none
  let configMap ← (makeConfigMap names namespace_ sources).orCleanUp
    (discardService namespace_ service)
  let patch ← (Attempt.ofExcept (createPatch kind target names service configMap)).orCleanUp do
    discardService namespace_ service
    discardConfigMap namespace_ (some configMap)
  return .patch patch

/-- What is done to a new workload. -/
def reviewCreate (request : AdmissionRequest) (kind : WorkloadKind) (namespace_ : String) :
    Attempt Mutation :=
  match request.name, request.object with
  | "", _ => return .allow
  | _, none => return .allow
  | name, some object => do
    let target ← Attempt.ofExcept (AdmittedObject.decode kind object)
    if Annotations.needsMutation target.allAnnotations none kind.isPod then
      inject kind name namespace_ target
    else return .allow

/-- The annotations that record what was made for a changed workload; an empty name says that there
is nothing any more. -/
def recordedNames (scope : UpdateScope) (service configMap : Option String) : TextMap :=
  let withService : TextMap :=
    if scope.service then (∅ : TextMap).insert WellKnown.serviceNameAnnotation (service.getD "")
    else ∅
  match configMap with
  | some name => withService.insert WellKnown.configMapNameAnnotation name
  | none => withService

/-- What is done to a workload whose settings have changed. -/
def refresh (kind : WorkloadKind) (name namespace_ : String) (target : AdmittedObject)
    (previous : TextMap) : Attempt Mutation := do
  let annotations := target.allAnnotations
  let scope := UpdateScope.ofChanges (Annotations.changedKeys annotations previous kind.isPod)
  let entries ← Attempt.ofExcept (Annotations.validate annotations)
  let sources ← Attempt.ofExcept (Source.ofEntries entries)
  let names := SidecarNames.ofWorkload name kind
  let service ←
    match scope.service, Annotations.servicePort? annotations with
    | true, some port => some <$> makeService names namespace_ port
    | _, _ => pure none
  let staleService :=
    (Annotations.serviceName? annotations).or (Annotations.serviceName? previous)
  let currentConfigMap :=
    (Annotations.configMapName? annotations).or (Annotations.configMapName? previous)
  let configMap ←
    if scope.config then
      some <$> (makeConfigMap names namespace_ sources).orCleanUp
        (discardService namespace_ service)
    else pure none
  let recorded := recordedNames scope service configMap
  let patch ←
    (Attempt.ofExcept (updatePatch kind target names scope (configMap.or currentConfigMap)
      recorded)).orCleanUp do
        discardService namespace_ service
        discardConfigMap namespace_ configMap
  if scope.service then
    ExceptT.lift (discardService namespace_ staleService)
  if configMap.isSome then
    ExceptT.lift (discardConfigMap namespace_ currentConfigMap)
  return if patch.isEmpty then .allow else .patch patch

/-- What is done to a changed workload. -/
def reviewUpdate (request : AdmissionRequest) (kind : WorkloadKind) (namespace_ : String) :
    Attempt Mutation :=
  match request.object, request.oldObject with
  | some object, some oldObject => do
    let target ← Attempt.ofExcept (AdmittedObject.decode kind object)
    let live ← Attempt.ofExcept (AdmittedObject.decode kind oldObject)
    if Annotations.needsMutation target.allAnnotations (some live.allAnnotations) kind.isPod then
      refresh kind request.name namespace_ target live.allAnnotations
    else return .allow
  | _, _ => return .allow

/-- Removes what was made for a workload that goes. -/
def reviewDelete (request : AdmissionRequest) (kind : WorkloadKind) (namespace_ : String) :
    Program Unit :=
  match request.oldObject with
  | none => return
  | some oldObject =>
    match AdmittedObject.decode kind oldObject with
    | .error _ => return
    | .ok live => do
      let annotations := live.allAnnotations
      if Annotations.hasSettings annotations then
        discardService namespace_ (Annotations.serviceName? annotations)
        discardConfigMap namespace_ (Annotations.configMapName? annotations)

/-- What is done to a workload. -/
def review (request : AdmissionRequest) : Attempt Mutation :=
  let namespace_ := request.namespace_.getD ""
  match WorkloadKind.ofName? request.kind with
  | none => return .allow
  | some kind =>
    if WellKnown.ignoredNamespaces.contains namespace_ then return .allow
    else
      match request.operation with
      | .create => reviewCreate request kind namespace_
      | .update => reviewUpdate request kind namespace_
      | .delete => do
        ExceptT.lift (reviewDelete request kind namespace_)
        return .allow
      | .connect => return .allow

/-- The answer to a request: what a failure means is a matter of policy. -/
def decideAdmission (policy : FailurePolicy) (request : AdmissionRequest) :
    Program AdmissionResponse := do
  let count (outcome : AdmissionOutcome) : Program Unit :=
    Program.query (.measure (.admission request.operation.label outcome))
  match ← (review request).run with
  | .ok .allow =>
    count .allowed
    return .allow
  | .ok (.patch patch) =>
    count .patched
    return .patch patch
  | .error failure =>
    match policy with
    | .fail =>
      count .denied
      return .deny failure.message
    | .ignore =>
      count .ignored
      return .allow

end GatewayOperator
