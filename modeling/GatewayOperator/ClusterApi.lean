import GatewayOperator.Http.Address
import GatewayOperator.Json.Reader
import GatewayOperator.Powers
import GatewayOperator.Program
import GatewayOperator.WellKnown

/-!
# The interface of a cluster

A cluster is asked over a network: each question is one request, and the reply says whether the
question was carried out.

## Main Definitions

* `ApiRequest`, `ApiReply` — what is sent and what comes back.
* `Exchange` — a request together with what each reply to it means.
* `Query.exchange?` — the exchange by which a question is put to a cluster.

## Design Notes

A reply that reports a failure may say in its body which one; only where it does not, the status of
the reply itself counts.  A missing object is thereby told apart from every other failure.
-/

namespace GatewayOperator

/-- A request to a cluster. -/
structure ApiRequest where
  /-- The method. -/
  method : String
  /-- The path. -/
  path : String
  /-- The body. -/
  body : Option Json := none
  /-- The type of a body that describes a change. -/
  patchType : Option String := none
  deriving Inhabited

/-- A reply of a cluster. -/
structure ApiReply where
  /-- The status. -/
  status : Nat
  /-- The body. -/
  body : String
  deriving DecidableEq, Repr, Inhabited

namespace ApiReply

/-- Whether a reply reports a failure. -/
def isFailure (r : ApiReply) : Bool := 400 ≤ r.status && r.status < 600

/-- The value in the body. -/
def value? (r : ApiReply) : Option Json := (Json.read r.body).toOption

/-- The status in the body of a reply that explains its failure. -/
def explainedStatus? (r : ApiReply) : Option Nat := do
  let fields ← (← r.value?).members? ["status", "message", "reason", "code"]
  let _ ← Json.required Json.readText (Assoc.lookup "status" fields)
  let _ ← Json.defaulting "" Json.readText (Assoc.lookup "message" fields)
  let _ ← Json.defaulting "" Json.readText (Assoc.lookup "reason" fields)
  let code ← Json.required (Json.readIntBetween 0 (twoTo 16 - 1)) (Assoc.lookup "code" fields)
  return code.toNat

/-- The status that counts. -/
def failureStatus (r : ApiReply) : Nat := r.explainedStatus?.getD r.status

end ApiReply

/-- A call to a cluster: what is done, and to what. -/
structure ApiCall where
  /-- What is done. -/
  operation : String
  /-- The kind of the object. -/
  kind : ObjectKind
  /-- The name of the object. -/
  name : String
  deriving DecidableEq, Repr, Inhabited

namespace ApiCall

/-- The failure of a call for a reason that is reported separately. -/
def failed (c : ApiCall) : StoreError := .api c.operation c.kind c.name

/-- What a reply means, if the body of a success is read by `read`. -/
def interpret {α : Type} (c : ApiCall) (read : Json.Read α) (reply : ApiReply) :
    Except StoreError α :=
  if reply.isFailure then
    .error (if reply.failureStatus = 404 then .notFound c.kind c.name else c.failed)
  else
    match reply.value?.bind read with
    | some value => .ok value
    | none => .error c.failed

end ApiCall

/-- A request, if it can be sent, and what each reply to it means. -/
structure Exchange (α : Type) where
  /-- The request. -/
  request : Option ApiRequest
  /-- The answer if there is no request. -/
  unsent : α
  /-- What a reply means. -/
  interpret : ApiReply → α

/-- The answer that an exchange yields. -/
def Exchange.answer {α : Type} (e : Exchange α) (reply : ApiReply) : α :=
  if e.request.isSome then e.interpret reply else e.unsent

namespace ClusterApi

/-- The plural under which the objects of a kind are found, behind the path of their group. -/
def collectionOf : ObjectKind → String × String
  | .configMap => ("/api/v1", "configmaps")
  | .secret => ("/api/v1", "secrets")
  | .service => ("/api/v1", "services")
  | .pod => ("/api/v1", "pods")
  | .deployment => ("/apis/apps/v1", "deployments")
  | .gateway =>
    ("/apis/" ++ WellKnown.group ++ "/" ++ WellKnown.gatewayVersion, WellKnown.gatewayPlural)

/-- The path of the objects of a kind in a namespace. -/
def collectionPath (kind : ObjectKind) (namespace_ : String) : String :=
  let (group, plural) := collectionOf kind
  group ++ "/namespaces/" ++ namespace_ ++ "/" ++ plural

/-- The path of the objects of a kind in a namespace, or in all of them. -/
def scopePath (kind : ObjectKind) : Option String → String
  | some namespace_ => collectionPath kind namespace_
  | none =>
    let (group, plural) := collectionOf kind
    group ++ "/" ++ plural

/-- The path in a request, which ends where a query or a fragment begins. -/
def requestPath? (target : String) : Option String :=
  (Address.readTarget? target).map RequestTarget.path

/-- The path of an object, which needs a name. -/
def objectPath? (kind : ObjectKind) (namespace_ name : String) : Option String :=
  if name.isEmpty then none
  else requestPath? (collectionPath kind namespace_ ++ "/" ++ name)

/-- The exchange of a call that may fail. -/
def exchange {α : Type} (c : ApiCall) (read : Json.Read α) (request : Option ApiRequest) :
    Exchange (Except StoreError α) :=
  ⟨request, .error c.failed, c.interpret read⟩

/-- The name of an object for whom the cluster is to complete one. -/
def givenName (m : Metadata) : String :=
  match m.name, m.generateName with
  | some name, _ => name
  | none, some start => start ++ "*"
  | none, none => ""

/-- The name under which an object is written over. -/
def currentName (m : Metadata) : String := (m.name.orElse fun _ => m.generateName).getD ""

/-- Reads an object. -/
def get {α : Type} (kind : ObjectKind) (read : Json.Read α) (namespace_ name : String) :
    Exchange (Except StoreError α) :=
  exchange ⟨"get", kind, name⟩ read do
    return { method := "GET", path := ← objectPath? kind namespace_ name }

/-- Makes an object. -/
def create {α : Type} (kind : ObjectKind) (read : Json.Read α) (namespace_ : String)
    (metadata : Metadata) (object : Json) : Exchange (Except StoreError α) :=
  exchange ⟨"create", kind, givenName metadata⟩ read do
    let path ← requestPath? (collectionPath kind namespace_)
    return { method := "POST", path, body := some object }

/-- Writes over an object. -/
def replace {α : Type} (kind : ObjectKind) (read : Json.Read α) (namespace_ : String)
    (metadata : Metadata) (object : Json) : Exchange (Except StoreError α) :=
  let name := currentName metadata
  exchange ⟨"update", kind, name⟩ read do
    return { method := "PUT", path := ← objectPath? kind namespace_ name, body := some object }

/-- Reads a report that an object is gone. -/
def readDeletion : Json.Read Unit := fun v => do
  let fields ← v.members? ["status", "code", "message", "reason", "details"]
  let outcome ← Json.optional Json.readText (Assoc.lookup "status" fields)
  guard (outcome.all ["Success", "Failure"].contains)
  let _ ← Json.defaulting 0 (Json.readIntBetween 0 (twoTo 16 - 1)) (Assoc.lookup "code" fields)
  let _ ← Json.defaulting "" Json.readText (Assoc.lookup "message" fields)
  let _ ← Json.defaulting "" Json.readText (Assoc.lookup "reason" fields)

/-- Removes an object; the cluster replies with the object, or reports that it is gone. -/
def delete {α : Type} (kind : ObjectKind) (read : Json.Read α) (namespace_ name : String) :
    Exchange (Except StoreError Unit) :=
  let gone : Json.Read Unit := fun v =>
    if (v.get? "kind").bind Json.string? = some "Status" then readDeletion v
    else (read v).map fun _ => ()
  exchange ⟨"delete", kind, name⟩ gone do
    return {
      method := "DELETE"
      path := ← objectPath? kind namespace_ name
      body := some (.object []) }

/-- Writes the status of a gateway. -/
def patchStatus (namespace_ name : String) (status : GatewayStatus) :
    Exchange (Except StoreError Unit) :=
  exchange ⟨"patch status of", .gateway, name⟩ (fun v => (Gateway.ofJson? v).map fun _ => ()) do
    let _ ← objectPath? .gateway namespace_ name
    return {
      method := "PATCH"
      path := ← requestPath? (collectionPath .gateway namespace_ ++ "/" ++ name ++ "/status")
      body := some (.object [("status", status.toJson)])
      patchType := some "application/merge-patch+json" }

/-- What an event is about. -/
def regarding (g : Gateway) : Json :=
  .record
    [("apiVersion", some (.string Gateway.type.apiVersion)),
      ("kind", some (.string Gateway.type.kind)),
      ("name", g.metadata.name.map .string),
      ("namespace", g.metadata.namespace_.map .string),
      ("resourceVersion", g.metadata.resourceVersion.map .string),
      ("uid", g.metadata.uid.map .string)]

/-- The type of events of a severity. -/
def eventType : Severity → String
  | .normal => "Normal"
  | .warning => "Warning"

/-- The part of an event that the operator chooses; its name and its time are not part of it. -/
def eventBody (g : Gateway) (e : Event) : Json :=
  .object
    [("action", .string "Reconcile"),
      ("metadata", .record [("namespace", g.metadata.namespace_.map .string)]),
      ("note", .string e.note),
      ("reason", .string e.reason),
      ("regarding", regarding g),
      ("reportingController", .string WellKnown.operatorName),
      ("type", .string (eventType e.severity))]

/-- Reports on a gateway; whether the report arrives does not matter. -/
def publish (g : Gateway) (e : Event) : Exchange Unit :=
  let namespace_ := g.metadata.namespace_.getD "default"
  let request : Option ApiRequest := do
    let path ← requestPath? ("/apis/events.k8s.io/v1/namespaces/" ++ namespace_ ++ "/events")
    return { method := "POST", path, body := some (eventBody g e) }
  ⟨request, (), fun _ => ()⟩

end ClusterApi

/-- The exchange by which a question is put to a cluster, if a cluster is asked at all. -/
def Query.exchange? : (q : Query) → Option (Exchange q.Answer)
  | .getConfigMap ns name => some (ClusterApi.get .configMap ConfigMap.ofJson? ns name)
  | .createConfigMap ns object =>
    some (ClusterApi.create .configMap ConfigMap.ofJson? ns object.metadata object.toJson)
  | .replaceConfigMap ns object =>
    some (ClusterApi.replace .configMap ConfigMap.ofJson? ns object.metadata object.toJson)
  | .deleteConfigMap ns name => some (ClusterApi.delete .configMap ConfigMap.ofJson? ns name)
  | .getSecret ns name => some (ClusterApi.get .secret Secret.ofJson? ns name)
  | .replaceSecret ns object =>
    some (ClusterApi.replace .secret Secret.ofJson? ns object.metadata object.toJson)
  | .createService ns object =>
    some (ClusterApi.create .service Service.ofJson? ns object.metadata object.toJson)
  | .deleteService ns name => some (ClusterApi.delete .service Service.ofJson? ns name)
  | .getDeployment ns name => some (ClusterApi.get .deployment Deployment.ofJson? ns name)
  | .createDeployment ns object =>
    some (ClusterApi.create .deployment Deployment.ofJson? ns object.metadata object.toJson)
  | .replaceDeployment ns object =>
    some (ClusterApi.replace .deployment Deployment.ofJson? ns object.metadata object.toJson)
  | .patchStatus ns name status => some (ClusterApi.patchStatus ns name status)
  | .publish gateway event => some (ClusterApi.publish gateway event)
  | .fetch _ | .now | .measure _ => none

end GatewayOperator
