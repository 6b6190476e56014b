import GatewayOperator.Bytes.Base64
import GatewayOperator.Http.MediaType
import GatewayOperator.Injection.Admission
import GatewayOperator.Json.Reader

/-!
# The endpoint for reviews

The cluster sends a review as a message over the network and reads the answer from the reply.

## Main Definitions

* `AdmissionReview`, `AdmissionReview.ofJson?` — the message.
* `ReviewReply`, `AdmissionReview.reply` — the answer to a message.
* `WebhookRequest`, `WebhookRequest.refusal?` — what reaches the endpoint, and what it refuses.
* `serveReview` — the whole exchange.

## Design Notes

A message without a request is answered, because its sender follows the protocol; a message that
cannot be read is not.
-/

namespace GatewayOperator

open Json

/-- Whether the group, the version and the third part of a type are texts. -/
def isTypeName (third : String) (v : Json) : Bool :=
  match v.members? ["group", "version", third] with
  | some fields =>
    ["group", "version", third].all fun name =>
      ((Assoc.lookup name fields).bind string?).isSome
  | none => false

/-- Reads the name of a kind out of its type. -/
def readKind : Json.Read String := fun v =>
  if isTypeName "kind" v then
    (v.members? ["group", "version", "kind"]).bind fun fields =>
      (Assoc.lookup "kind" fields).bind string?
  else none

/-- Reads the type of a resource, of which nothing is used. -/
def readResource : Json.Read Unit := fun v =>
  if isTypeName "resource" v then some () else none

/-- Reads a user, of whom nothing is used. -/
def readUser : Json.Read Unit := fun v => do
  let _ ← v.fields?
  let _ ← optional readText (v.get? "username")
  let _ ← optional readText (v.get? "uid")
  let _ ← optional (readList readText) (v.get? "groups")
  let _ ← optional (readMap (readList readText)) (v.get? "extra")
  return ()

/-- Reads an object of any kind: it may lack its type, but not only the half of it. -/
def readObject : Json.Read Json := fun v => do
  let fields ← v.fields?
  guard ((fields.filter fun field => field.1 = "metadata").length ≤ 1)
  if (v.get? "apiVersion").isSome then
    let _ ← required readText (v.get? "apiVersion")
    let _ ← required readText (v.get? "kind")
  let _ ← defaulting {} Metadata.ofJson? (v.get? "metadata")
  return v

namespace AdmissionRequest

/-- The fields of a request, in order. -/
def fieldNames : List String :=
  ["uid", "kind", "resource", "subResource", "requestKind", "requestResource",
    "requestSubResource", "name", "namespace", "operation", "userInfo", "object", "oldObject",
    "dryRun", "options"]

/-- Reads the name of an operation. -/
def readOperation : Json.Read AdmissionOperation := fun v =>
  v.string?.bind AdmissionOperation.ofName?

/-- Reads a request. -/
def ofJson? : Json.Read AdmissionRequest := fun v => do
  let fields ← v.members? fieldNames
  let field (name : String) := Assoc.lookup name fields
  let uid ← required readText (field "uid")
  let kind ← required readKind (field "kind")
  let _ ← required readResource (field "resource")
  let _ ← optional readText (field "subResource")
  let _ ← optional readKind (field "requestKind")
  let _ ← optional readResource (field "requestResource")
  let _ ← optional readText (field "requestSubResource")
  let name ← defaulting "" readText (field "name")
  let namespace_ ← optional readText (field "namespace")
  let operation ← required readOperation (field "operation")
  let _ ← required readUser (field "userInfo")
  let object ← optional readObject (field "object")
  let oldObject ← optional readObject (field "oldObject")
  let _ ← defaulting false readBool (field "dryRun")
  return { uid, kind, name, namespace_, operation, object, oldObject }

end AdmissionRequest

/-- A message: a request with the type under which it was sent. -/
structure AdmissionReview where
  /-- The type of the message. -/
  type : TypeMeta
  /-- The request, if there is one. -/
  request : Option AdmissionRequest

namespace AdmissionReview

/-- Reads the answer in a message, of which nothing is used. -/
def readAnswer : Json.Read Unit := fun v => do
  let _ ← required readText (v.get? "uid")
  let _ ← required readBool (v.get? "allowed")
  return ()

/-- Reads a message. -/
def ofJson? : Json.Read AdmissionReview := fun v => do
  let _ ← v.fields?
  let fields ← v.members? ["apiVersion", "kind", "request", "response"]
  let apiVersion ← required readText (Assoc.lookup "apiVersion" fields)
  let kind ← required readText (Assoc.lookup "kind" fields)
  let request ← optional AdmissionRequest.ofJson? (Assoc.lookup "request" fields)
  let _ ← optional readAnswer (Assoc.lookup "response" fields)
  return ⟨⟨apiVersion, kind⟩, request⟩

end AdmissionReview

/-- The answer to a message. -/
structure ReviewReply where
  /-- The type of the message. -/
  type : TypeMeta
  /-- The identity of the request. -/
  uid : String
  /-- The answer. -/
  response : AdmissionResponse

namespace ReviewReply

/-- The answer in the form of a message. -/
def toJson (r : ReviewReply) : Json :=
  let (allowed, message, patch) : Bool × Option String × Option Patch := match r.response with
    | .allow => (true, none, none)
    | .patch p => (true, none, some p)
    | .deny message => (false, some message, none)
  .object
    [("apiVersion", .string r.type.apiVersion), ("kind", .string r.type.kind),
      ("response", .record
        [("uid", some (.string r.uid)), ("allowed", some (.bool allowed)),
          ("status", message.map fun m => .object [("message", .string m)]),
          ("patch", patch.map fun p => .string (Base64.encode (Bytes.ofText p.toJson.write))),
          ("patchType", patch.map fun _ => .string "JSONPatch")])]

/-- The answer to a message without a request. -/
def withoutRequest : ReviewReply :=
  ⟨⟨"admission.k8s.io/v1beta1", "AdmissionReview"⟩, "",
    .deny "failed to convert AdmissionReview into AdmissionRequest"⟩

end ReviewReply

/-- The answer to a message. -/
def AdmissionReview.reply (policy : FailurePolicy) (review : AdmissionReview) :
    Program ReviewReply :=
  match review.request with
  | none => return .withoutRequest
  | some request => do
    let response ← decideAdmission policy request
    return ⟨review.type, request.uid, response⟩

/-- What reaches the endpoint. -/
structure WebhookRequest where
  /-- The method. -/
  method : String
  /-- The path, with what follows it. -/
  target : String
  /-- The type of the body. -/
  contentType : Option String
  /-- The body. -/
  body : String
  deriving DecidableEq, Repr, Inhabited

/-- The path of a target, without what follows it. -/
def pathOf (target : String) : String := String.ofList (target.toList.takeWhile (· ≠ '?'))

namespace WebhookRequest

/-- The path of the endpoint. -/
def path : String := "/mutate"

/-- The status with which a request is refused before its body is looked at. -/
def refusal? (r : WebhookRequest) : Option Nat :=
  if pathOf r.target ≠ path then some 404
  else if r.method ≠ "POST" then some 405
  else if ((r.contentType.bind MediaType.parse?).map MediaType.isJson).getD false then none
  else some 415

/-- The status with which a body is refused that is no JSON text: what it begins with is looked at
before what makes it fail. -/
def brokenStatus (body : String) : Nat :=
  match Json.readFirst? body with
  | some value => if (AdmissionReview.ofJson? value).isSome then 400 else 422
  | none => if (Json.readableTokens body).head? matches some .openArray then 422 else 400

/-- The message in a request, or the status with which it is refused. -/
def review (r : WebhookRequest) : Except Nat AdmissionReview :=
  match r.refusal? with
  | some status => .error status
  | none =>
    match Json.read r.body with
    | .error _ => .error (brokenStatus r.body)
    | .ok value =>
      match AdmissionReview.ofJson? value with
      | some review => .ok review
      | none => .error 422

end WebhookRequest

/-- The answer to a request, or the status with which it is refused. -/
def serveReview (policy : FailurePolicy) (r : WebhookRequest) :
    Program (Except Nat ReviewReply) :=
  match r.review with
  | .error status => return .error status
  | .ok review => do
    return .ok (← review.reply policy)

end GatewayOperator
