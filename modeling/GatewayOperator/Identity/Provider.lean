import GatewayOperator.Failure
import GatewayOperator.Http.Request
import GatewayOperator.Json.Decode
import GatewayOperator.Json.Reader
import GatewayOperator.Text.Blank
import GatewayOperator.Text.Quoted

/-!
# Answers of an identity provider

## Main Definitions

* `ProviderDescription`, `TokenAnswer`, `RegistrationAnswer` — what is read from the answers.
* `readAnswer` — the reading of an answer, which has to report success.

## Design Notes

Every field may be missing; what a missing or empty field means is decided where it is needed.
-/

namespace GatewayOperator

/-- Where a provider registers clients and gives out tokens. -/
structure ProviderDescription where
  /-- Where clients are registered. -/
  registrationEndpoint : Option String
  /-- Where tokens are given out. -/
  tokenEndpoint : Option String
  deriving DecidableEq, Repr, Inhabited

/-- Reads the description of a provider. -/
def ProviderDescription.ofJson? : Json.Read ProviderDescription := fun v => do
  let fields ← v.members? ["registration_endpoint", "token_endpoint"]
  let registration ← Json.optional Json.readText (Assoc.lookup "registration_endpoint" fields)
  let token ← Json.optional Json.readText (Assoc.lookup "token_endpoint" fields)
  return ⟨registration, token⟩

/-- The answer to a request for a token. -/
structure TokenAnswer where
  /-- The token. -/
  accessToken : Option String
  deriving DecidableEq, Repr, Inhabited

/-- Reads the answer to a request for a token. -/
def TokenAnswer.ofJson? : Json.Read TokenAnswer := fun v => do
  let fields ← v.members? ["access_token"]
  let token ← Json.optional Json.readText (Assoc.lookup "access_token" fields)
  return ⟨token⟩

/-- The answer to a registration. -/
structure RegistrationAnswer where
  /-- The name of the client. -/
  clientId : Option String
  /-- The password of the client. -/
  clientSecret : Option String
  deriving DecidableEq, Repr, Inhabited

namespace RegistrationAnswer

/-- Reads the answer to a registration. -/
def ofJson? : Json.Read RegistrationAnswer := fun v => do
  let fields ← v.members? ["client_id", "client_secret"]
  let clientId ← Json.optional Json.readText (Assoc.lookup "client_id" fields)
  let clientSecret ← Json.optional Json.readText (Assoc.lookup "client_secret" fields)
  return ⟨clientId, clientSecret⟩

/-- The name and the password, if both are there. -/
def credentials? (a : RegistrationAnswer) : Option (String × String) :=
  match a.clientId.bind Text.nonEmpty?, a.clientSecret.bind Text.nonEmpty? with
  | some id, some secret => some (id, secret)
  | _, _ => none

/-- The answer in diagnostic texts, without the password. -/
def shown (a : RegistrationAnswer) : String :=
  Text.shownRecord "RegistrationResponse"
    [("client_id", Text.quotedOption a.clientId),
      ("client_secret", Text.quotedOption (a.clientSecret.map fun _ => redacted))]

end RegistrationAnswer

/-- The reading of an answer from `url`, which has to report success. -/
def readAnswer {α : Type} (read : Json.Read α) (url : String) (response : HttpResponse) :
    Except Failure α :=
  if !response.isSuccess then
    .error (.fetch url (.statusWithBody response.status response.body))
  else
    match Json.read response.body with
    | .error fault => .error (.fetch url (.invalidJson fault.problem))
    | .ok value =>
      match read value with
      | some answer => .ok answer
      | none => .error (.fetch url (.invalidJson "unexpected value"))

end GatewayOperator
