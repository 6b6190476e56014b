import GatewayOperator.Http.Request
import GatewayOperator.Registration
import GatewayOperator.Resource.Data
import GatewayOperator.Text.Case

/-!
# Credentials of a client

The secret of a registration holds the credentials of the registered client, once there is one, and
whatever the provider asks for before it registers one.

## Main Definitions

* `Credential` — what is read from the secret of a registration.
* `Credential.isRegistered` — whether there is a client already.
* `Credential.authorization?` — how a registration identifies itself without asking for a token.
* `Credential.shown` — the credentials in diagnostic texts, without any password or token.
-/

namespace GatewayOperator

/-- What is read from the secret of a registration. -/
structure Credential where
  /-- The name of the secret. -/
  secretName : String
  /-- The name of the registered client. -/
  clientId : Option String
  /-- The password of the registered client. -/
  clientSecret : Option String
  /-- Whether the provider may show any certificate. -/
  insecureTls : Bool
  /-- The name with which a registration identifies itself. -/
  username : Option String
  /-- The password with which a registration identifies itself. -/
  password : Option String
  /-- The token with which a registration identifies itself. -/
  initialAccessToken : Option String
  /-- The name with which such a token is asked for. -/
  tokenClientId : Option String
  /-- The password with which such a token is asked for. -/
  tokenClientSecret : Option String
  deriving DecidableEq, Repr, Inhabited

namespace Credential

/-- The text of a data entry that is not empty. -/
def entry? (s : Secret) (key : String) : Option String := (s.value? key).bind Text.nonEmpty?

/-- The text of a data entry without line ends at its end, if anything is left. -/
def trimmedEntry? (s : Secret) (key : String) : Option String :=
  ((s.value? key).map (Text.trimEndBy fun c => c = '\n' || c = '\r')).bind Text.nonEmpty?

/-- Whether a data entry says yes. -/
def flag (s : Secret) (key : String) : Bool :=
  match s.value? key with
  | some text => Text.lowerLatin (Text.trim text) = "true"
  | none => false

/-- The credentials in a secret. -/
def ofSecret (name : String) (s : Secret) : Credential :=
  { secretName := name
    clientId := entry? s clientIdKey
    clientSecret := entry? s clientSecretKey
    insecureTls := flag s "insecureTLS"
    username := entry? s "baUsername"
    password := entry? s "baPassword"
    initialAccessToken := trimmedEntry? s "initialAccessToken"
    tokenClientId := trimmedEntry? s "tokenRetrievalClientId"
    tokenClientSecret := trimmedEntry? s "tokenRetrievalClientSecret" }

/-- Whether there is a client already. -/
def isRegistered (c : Credential) : Bool := c.clientId.isSome && c.clientSecret.isSome

/-- How a registration identifies itself without asking for a token: a name with a password goes
before a token. -/
def authorization? (c : Credential) : Option Authorization :=
  match c.username, c.password with
  | some username, some password => some (.basic username password)
  | _, _ => c.initialAccessToken.map .bearer

/-- The credentials in diagnostic texts. -/
def shown (c : Credential) : String :=
  Text.shownPartly "OidcCredential"
    [("secret_name", Text.quoted c.secretName), ("client_id", Text.quotedOption c.clientId),
      ("registered", Text.shownBool c.isRegistered),
      ("insecure_tls", Text.shownBool c.insecureTls),
      ("basic_auth", Text.shownBool c.username.isSome),
      ("initial_access_token", Text.shownBool c.initialAccessToken.isSome)]

end Credential

end GatewayOperator
