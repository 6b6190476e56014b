import GatewayOperator.Http.Form
import GatewayOperator.Identity.Credential
import GatewayOperator.Identity.Provider
import GatewayOperator.Program

/-!
# Registering a client

## Main Definitions

* `Registration.ensureClient` — makes sure that the secret of a registration holds a client.
* `ProvisioningStage` — the stages of a registration.

## Design Notes

The secret is written once, with the last step, so a second run finds the client and does nothing.
A token that cannot be had is no reason to give up: the provider may register clients of senders
that do not identify themselves.
-/

namespace GatewayOperator

/-- The stages of a registration. -/
inductive ProvisioningStage where
  /-- Nothing has been sent. -/
  | idle
  /-- The provider is asked to describe itself. -/
  | discovering
  /-- A token is asked for. -/
  | tokenAcquisition
  /-- The client is being registered. -/
  | registering
  /-- The secret holds the client. -/
  | persisted
  deriving DecidableEq, Repr, Inhabited

namespace ProvisioningStage

/-- All stages, in order. -/
def all : List ProvisioningStage :=
  [.idle, .discovering, .tokenAcquisition, .registering, .persisted]

/-- The name of a stage. -/
def name : ProvisioningStage → String
  | .idle => "Idle"
  | .discovering => "Discovering"
  | .tokenAcquisition => "TokenAcquisition"
  | .registering => "Registering"
  | .persisted => "Persisted"

/-- The label of a stage. -/
def label : ProvisioningStage → String
  | .idle => "idle"
  | .discovering => "discovering"
  | .tokenAcquisition => "token_acquisition"
  | .registering => "registering"
  | .persisted => "persisted"

end ProvisioningStage

/-- What a run has found or done. -/
inductive ProvisionOutcome where
  /-- The secret held a client. -/
  | alreadyRegistered
  /-- A client has been registered. -/
  | registered (clientId : String)
  deriving DecidableEq, Repr, Inhabited

namespace Registration

/-- Asks the provider to describe itself. -/
def discover (r : Registration) (insecureTls : Bool) : Attempt ProviderDescription := do
  let response ← Attempt.fetch { method := .get, url := r.discoveryEndpoint, insecureTls }
  Attempt.ofExcept (readAnswer ProviderDescription.ofJson? r.discoveryEndpoint response)

/-- Where the provider registers clients. -/
def registrationEndpoint (r : Registration) (provider : ProviderDescription) :
    Except Failure String :=
  match provider.registrationEndpoint.bind Text.nonEmpty? with
  | some endpoint => .ok endpoint
  | none => .error (.fetch r.discoveryEndpoint .noRegistrationEndpoint)

/-- Where the provider gives out tokens. -/
def tokenEndpoint (r : Registration) (provider : ProviderDescription) : Except Failure String :=
  match provider.tokenEndpoint.bind Text.nonEmpty? with
  | some endpoint => .ok endpoint
  | none => .error (.fetch r.discoveryEndpoint .noTokenEndpoint)

/-- The name and the password with which a token is asked for. -/
def tokenClient (c : Credential) : Except Failure (String × String) :=
  match c.tokenClientId, c.tokenClientSecret with
  | some id, some secret => .ok (id, secret)
  | _, _ => .error (.validation (.noTokenCredentials c.secretName))

/-- The body of a request for a token. -/
def tokenForm (r : Registration) (client : String × String) : String :=
  Form.encode <|
    [("grant_type", "client_credentials"), (clientIdKey, client.1), (clientSecretKey, client.2)] ++
      (r.tokenScopes.map fun scopes => ("scope", scopes)).toList

/-- Asks for a token. -/
def acquireToken (r : Registration) (provider : ProviderDescription) (c : Credential) :
    Attempt String := do
  let endpoint ← Attempt.ofExcept (r.tokenEndpoint provider)
  let client ← Attempt.ofExcept (tokenClient c)
  let response ← Attempt.fetch
    { method := .post
      url := endpoint
      body := some (r.tokenForm client)
      insecureTls := c.insecureTls }
  let answer ← Attempt.ofExcept (readAnswer TokenAnswer.ofJson? endpoint response)
  match answer.accessToken.bind Text.nonEmpty? with
  | some token => return token
  | none => throw (.fetch endpoint .noAccessToken)

/-- How the registration identifies itself; a token that cannot be had is done without. -/
def authorize (r : Registration) (provider : ProviderDescription) (c : Credential) :
    Attempt (Option Authorization) :=
  match c.authorization? with
  | some authorization => return some authorization
  | none =>
    ExceptT.mk do
      match ← (r.acquireToken provider c).run with
      | .ok token => return .ok (some (.bearer token))
      | .error _ => return .ok none

/-- Registers a client and answers its name and its password. -/
def register (r : Registration) (endpoint : String) (authorization : Option Authorization)
    (insecureTls : Bool) : Attempt (String × String) := do
  let response ← Attempt.fetch
    { method := .post, url := endpoint, body := some r.body.write, authorization, insecureTls }
  let answer ← Attempt.ofExcept (readAnswer RegistrationAnswer.ofJson? endpoint response)
  match answer.credentials? with
  | some credentials => return credentials
  | none => throw (.fetch endpoint .noClientCredentials)

/-- The secret with a client in it. -/
def secretWithClient (s : Secret) (client : String × String) : Secret :=
  (s.setEntry clientIdKey client.1).setEntry clientSecretKey client.2

/-- Makes sure that the secret of the registration holds a client. -/
def ensureClient (r : Registration) (namespace_ : String) : Attempt ProvisionOutcome := do
  let secret ← Attempt.ofStore (Program.query (.getSecret namespace_ r.secretName))
  let credential := Credential.ofSecret r.secretName secret
  if credential.isRegistered then
    return .alreadyRegistered
  let provider ← r.discover credential.insecureTls
  let endpoint ← Attempt.ofExcept (r.registrationEndpoint provider)
  let authorization ← r.authorize provider credential
  let client ← r.register endpoint authorization credential.insecureTls
  match ← ExceptT.lift
      (Program.query (.replaceSecret namespace_ (secretWithClient secret client))) with
  | .ok _ =>
    Attempt.measure .registration
    return .registered client.1
  | .error cause => throw (.persistence cause)

end Registration

end GatewayOperator
