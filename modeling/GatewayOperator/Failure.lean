import GatewayOperator.Gateway.Entry
import GatewayOperator.WellKnown
import GatewayOperator.Yaml.Fault

/-!
# Failures

Everything that can go wrong while a configuration is resolved, a client registered or an object
written, by its cause.

## Main Definitions

* `ObjectKind` — the kinds of cluster objects that are read and written.
* `StoreError` — why the cluster did not carry out a call.
* `Failure` — why an operation failed.
* `Failure.kind`, `Failure.message` — its label and its wording.

## Design Notes

A validation failure is found before anything is written or fetched.  An object that does not
exist is kept apart from every other refusal of the cluster, because many callers can go on
without it.
-/

namespace GatewayOperator

/-- The kinds of cluster objects that are read and written. -/
inductive ObjectKind where
  /-- Configuration data. -/
  | configMap
  /-- Confidential data. -/
  | secret
  /-- A network service. -/
  | service
  /-- A replicated workload. -/
  | deployment
  /-- A single workload. -/
  | pod
  /-- The custom resource. -/
  | gateway
  deriving DecidableEq, Repr, Inhabited

/-- The name of a kind. -/
def ObjectKind.name : ObjectKind → String
  | .configMap => "ConfigMap"
  | .secret => "Secret"
  | .service => "Service"
  | .deployment => "Deployment"
  | .pod => "Pod"
  | .gateway => WellKnown.gatewayKind

/-- Why the cluster did not carry out a call. -/
inductive StoreError where
  /-- The object does not exist. -/
  | notFound (kind : ObjectKind) (name : String)
  /-- The call was refused. -/
  | rejected (operation : String) (kind : ObjectKind) (name reason : String)
  /-- The call failed at the cluster's interface, which reports its reason separately. -/
  | api (operation : String) (kind : ObjectKind) (name : String)
  deriving DecidableEq, Repr, Inhabited

/-- The wording of a store error. -/
def StoreError.message : StoreError → String
  | .notFound kind name => kind.name ++ " " ++ name ++ " not found"
  | .rejected operation kind name reason =>
    "failed to " ++ operation ++ " " ++ kind.name ++ " " ++ name ++ ": " ++ reason
  | .api operation kind name => "failed to " ++ operation ++ " " ++ kind.name ++ " " ++ name

/-- Whether an object was missing. -/
def StoreError.isNotFound : StoreError → Bool
  | .notFound .. => true
  | _ => false

/-- Why an input was refused before anything was done. -/
inductive Invalid where
  /-- An entry lacks a field that its kind requires. -/
  | missingField (kind : SourceKind) (field : String)
  /-- A header lacks its name or its value. -/
  | incompleteHeader
  /-- A header that is read from a secret names no data entry. -/
  | headerWithoutKey (name : String)
  /-- A registration field has no name. -/
  | postDataWithoutName
  /-- A registration field has no value. -/
  | postDataWithoutValue (name : String)
  /-- More than one source is a registration. -/
  | severalRegistrations (count : Nat)
  /-- More than one annotated entry is a registration. -/
  | severalAnnotatedRegistrations
  /-- An annotated entry has no type. -/
  | entryWithoutType (name : String)
  /-- An annotated entry has a type that does not exist. -/
  | unknownType (unknown : UnknownName)
  /-- An annotated entry has an order that is no integer. -/
  | invalidOrder (name order : String)
  /-- An annotated header has a type that does not exist. -/
  | invalidHeaderType (name : String)
  /-- The annotations hold no entry. -/
  | noEntries
  /-- The annotations name no image. -/
  | noImage
  /-- The object under admission cannot be read. -/
  | unreadableObject (kind : ObjectKind) (reason : String)
  /-- A secret holds nothing with which a token could be requested. -/
  | noTokenCredentials (secret : String)
  deriving DecidableEq, Repr, Inhabited

/-- The wording of a refused input. -/
def Invalid.message : Invalid → String
  | .missingField kind field => kind.name ++ " configuration entry requires '" ++ field ++ "'"
  | .incompleteHeader => "web header requires both 'name' and 'value'"
  | .headerWithoutKey name => "secret header '" ++ name ++ "' requires 'secretKey'"
  | .postDataWithoutName => "post data entry requires 'name'"
  | .postDataWithoutValue name => "post data entry '" ++ name ++ "' requires 'value' or 'values'"
  | .severalRegistrations count =>
    "multiple OIDC sources configured (" ++ toString count ++
      "); at most one oidc_registration entry is allowed"
  | .severalAnnotatedRegistrations =>
    "multiple OIDC sources configured; at most one oidc_registration entry is allowed"
  | .entryWithoutType name => "configuration entry '" ++ name ++ "' has no type"
  | .unknownType unknown => unknown.message
  | .invalidOrder name order =>
    "configuration entry '" ++ name ++ "' has an invalid order value '" ++ order ++ "'"
  | .invalidHeaderType name =>
    "configuration entry has an invalid header type '" ++ name ++ "'"
  | .noEntries => "no configuration entries specified in the annotations"
  | .noImage => "no gateway image has been specified"
  | .unreadableObject kind reason => "invalid " ++ kind.name ++ ": " ++ reason
  | .noTokenCredentials secret =>
    "secret " ++ secret ++ " has no token retrieval client credentials"

/-- Why a request did not yield what it was sent for. -/
inductive FetchCause where
  /-- There was no answer. -/
  | unreachable (reason : String)
  /-- The answer to a configuration request reports a failure. -/
  | status (code : Nat)
  /-- The answer of an identity provider reports a failure. -/
  | statusWithBody (code : Nat) (body : String)
  /-- The answer of an identity provider cannot be read. -/
  | invalidJson (reason : String)
  /-- The provider's description names no place for registrations. -/
  | noRegistrationEndpoint
  /-- The provider's description names no place for tokens. -/
  | noTokenEndpoint
  /-- The answer to a token request holds no token. -/
  | noAccessToken
  /-- The answer to a registration holds no complete credentials. -/
  | noClientCredentials
  deriving DecidableEq, Repr, Inhabited

/-- The wording of a failed request. -/
def FetchCause.message : FetchCause → String
  | .unreachable reason => reason
  | .status code => "unexpected status " ++ toString code
  | .statusWithBody code body => "unexpected status " ++ toString code ++ ": " ++ body
  | .invalidJson reason => "invalid JSON response: " ++ reason
  | .noRegistrationEndpoint => "discovery document has no registration_endpoint"
  | .noTokenEndpoint => "discovery document has no token_endpoint"
  | .noAccessToken => "token response has no access_token"
  | .noClientCredentials => "registration response is missing client_id or client_secret"

/-- Why a text is no layer of configuration. -/
inductive DocumentCause where
  /-- The text is no document. -/
  | notation_ (fault : Yaml.Fault)
  /-- The document is not a mapping. -/
  | notMapping
  deriving DecidableEq, Repr, Inhabited

/-- The wording of a refused text. -/
def DocumentCause.message : DocumentCause → String
  | .notation_ fault => fault.message
  | .notMapping => "top level of a configuration fragment must be a mapping"

/-- What a configuration refers to and the cluster does not hold. -/
inductive Missing where
  /-- An object. -/
  | object (kind : ObjectKind) (name : String)
  /-- A data entry of an object that exists. -/
  | entry (kind : ObjectKind) (name key : String)
  deriving DecidableEq, Repr, Inhabited

/-- The words for what is missing. -/
def Missing.text : Missing → String
  | .object kind name => kind.name ++ " " ++ name
  | .entry kind name key => kind.name ++ " key " ++ name ++ "/" ++ key

/-- Why an operation failed. -/
inductive Failure where
  /-- The input was refused before anything was done. -/
  | validation (cause : Invalid)
  /-- A request failed. -/
  | fetch (url : String) (cause : FetchCause)
  /-- A text is no layer of configuration. -/
  | document (origin : String) (cause : DocumentCause)
  /-- Something does not exist. -/
  | notFound (missing : Missing)
  /-- The cluster did not carry out a call. -/
  | persistence (cause : StoreError)
  deriving DecidableEq, Repr, Inhabited

namespace Failure

/-- The label of a failure, used for events and measurements. -/
def kind : Failure → String
  | .validation _ => "validation"
  | .fetch .. => "fetch"
  | .document .. => "document"
  | .notFound _ => "not_found"
  | .persistence _ => "persistence"

/-- The wording of a failure. -/
def message : Failure → String
  | .validation cause => "validation failed: " ++ cause.message
  | .fetch url cause => "fetch from " ++ url ++ " failed: " ++ cause.message
  | .document origin cause =>
    "invalid configuration document from " ++ origin ++ ": " ++ cause.message
  | .notFound missing => missing.text ++ " not found"
  | .persistence cause => "persistence failure: " ++ cause.message

/-- A store error as a failure: a missing object is not a refusal. -/
def ofStore : StoreError → Failure
  | .notFound kind name => .notFound (.object kind name)
  | cause => .persistence cause

end Failure

end GatewayOperator
