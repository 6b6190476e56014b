import GatewayOperator.Document.Merge
import GatewayOperator.Json.Basic
import GatewayOperator.Text.Blank

/-!
# Client registrations

A gateway can be registered as a client with an identity provider.  The registration says where the
provider describes itself, which secret holds the credentials, and what is sent.

## Main Definitions

* `Registration` — a client registration.
* `Registration.tokenScopes` — the scopes asked for when a token has to be requested first.
* `Registration.body` — what is sent to the provider.
* `Registration.applyTo` — a document with its identity section pointing at the client.

## Design Notes

The document only ever holds references to the entries of the secret, never their values.
-/

namespace GatewayOperator

/-- The value of a registration field. -/
inductive FieldValue where
  /-- One text. -/
  | single (value : String)
  /-- A list of texts. -/
  | multiple (values : List String)
  deriving DecidableEq, Repr, Inhabited

/-- A field of a registration. -/
structure RegistrationField where
  /-- The name of the field. -/
  name : String
  /-- Its value. -/
  value : FieldValue
  deriving DecidableEq, Repr, Inhabited

/-- A client registration. -/
structure Registration where
  /-- The address of the provider's description. -/
  discoveryEndpoint : String
  /-- The secret that holds the credentials. -/
  secretName : String
  /-- What is sent to the provider. -/
  postData : List RegistrationField
  deriving DecidableEq, Repr, Inhabited

/-- The data entry of a secret that holds the name of the registered client. -/
def clientIdKey : String := "client_id"

/-- The data entry of a secret that holds the password of the registered client. -/
def clientSecretKey : String := "client_secret"

namespace FieldValue

/-- The items between the commas of a value. -/
def items : FieldValue → List String
  | .single value => Text.splitOnChar ',' value
  | .multiple values => values.flatMap (Text.splitOnChar ',')

/-- The value as it is sent. -/
def toJson : FieldValue → Json
  | .single value => .string value
  | .multiple values => .array (values.map .string)

end FieldValue

namespace Registration

/-- The name of the field that holds scopes. -/
def scopesField : String := "scopes"

/-- A scope between quotes, without those it already has. -/
def quoteScope (scope : String) : String :=
  "\"" ++ Text.trimBy (· = '"') scope ++ "\""

/-- The scopes of a value, quoted and joined by commas; none if it holds only blanks. -/
def scopesOf (value : FieldValue) : Option String :=
  match (value.items.map Text.trim).filter (fun scope => !scope.isEmpty) with
  | [] => none
  | scopes => some (",".intercalate (scopes.map quoteScope))

/-- The scopes asked for when a token has to be requested first. -/
def tokenScopes (r : Registration) : Option String :=
  (r.postData.find? fun field => field.name = scopesField).bind fun field => scopesOf field.value

/-- What is sent to the provider: the fields in key order, the last one of a name counting. -/
def body (r : Registration) : Json :=
  .object (Assoc.ofList (r.postData.map fun field => (field.name, field.value.toJson)))

/-- A reference to a data entry of the registration's secret. -/
def reference (r : Registration) (key : String) : String :=
  "secret:" ++ r.secretName ++ "/" ++ key

/-- The entries of the identity section. -/
def identityEntries (r : Registration) : List (String × Document) :=
  [("discovery_endpoint", .text r.discoveryEndpoint),
    (clientIdKey, .text (r.reference clientIdKey)),
    (clientSecretKey, .text (r.reference clientSecretKey))]

/-- The keys under which the identity section stands. -/
def identityPath : List String := ["identity", "oidc"]

/-- The layer that holds only the identity section. -/
def identityLayer (r : Registration) : Document :=
  .mapping [("identity", .mapping [("oidc", .mapping (Assoc.ofList r.identityEntries))])]

/-- The document with its identity section pointing at the registered client: an existing section
is filled in place, and otherwise the section is merged as a layer. -/
def applyTo (r : Registration) (d : Document) : Document :=
  match d.lookup identityPath with
  | some (.mapping entries) =>
    let section_ := Document.mapping (Assoc.insertAll r.identityEntries entries)
    (d.replaceAt section_ identityPath).getD d
  | _ => d.merge r.identityLayer

end Registration

end GatewayOperator
