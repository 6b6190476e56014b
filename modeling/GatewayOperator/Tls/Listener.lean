import GatewayOperator.Settings
import GatewayOperator.Tls.Certificate
import GatewayOperator.Tls.PrivateKey

/-!
# Opening the endpoint for reviews

The endpoint at which workloads are reviewed is encrypted if a certificate and its key are given.

## Main Definitions

* `ListenerFault` — why the endpoint cannot be opened, with its wording.
* `loadIdentity` — the reading of a certificate and its key.
* `Settings.openEndpoint` — the opening of the endpoint.
* `spoilsTrust` — whether a file of further certificates keeps requests from being sent.
-/

namespace GatewayOperator

/-- Why a certificate and its key cannot be used. -/
inductive IdentityFault where
  /-- A file cannot be opened. -/
  | unopened (path : String)
  /-- The file of the certificates has a fault. -/
  | malformedCertificates (path : String)
  /-- The file of the certificates holds none. -/
  | noCertificate (path : String)
  /-- The file of the key has a fault. -/
  | malformedKey (path : String)
  /-- The file of the key holds none. -/
  | noKey (path : String)
  /-- The key is not that of the first certificate. -/
  | mismatch
  deriving DecidableEq, Repr, Inhabited

/-- The wording of a fault. -/
def IdentityFault.message : IdentityFault → String
  | .unopened path => "Failed to open " ++ path
  | .malformedCertificates path => "Failed to parse certificates in " ++ path
  | .noCertificate path => "No certificate found in " ++ path
  | .malformedKey path => "Failed to parse private key in " ++ path
  | .noKey path => "No private key found in " ++ path
  | .mismatch => "Certificate and key do not match"

/-- Why the endpoint cannot be opened. -/
inductive ListenerFault where
  /-- Only one of the certificate and the key is given. -/
  | halfGiven
  /-- The certificate and its key cannot be used. -/
  | identity (cause : IdentityFault)
  /-- The port is in use. -/
  | portTaken (port : Nat)
  deriving DecidableEq, Repr, Inhabited

/-- The wordings of a fault, the most general first. -/
def ListenerFault.messages : ListenerFault → List String
  | .halfGiven => ["WEBHOOK_TLS_CERT and WEBHOOK_TLS_KEY must be set together"]
  | .identity cause => ["Failed to load webhook TLS material", cause.message]
  | .portTaken port => ["Failed to bind webhook listener on 0.0.0.0:" ++ toString port]

/-- The wording of a fault in general. -/
def ListenerFault.message (f : ListenerFault) : String := f.messages.headD ""

/-- The contents of a file. -/
def openFile (files : Files) (path : String) : Except IdentityFault String :=
  match files.get? path with
  | some text => .ok text
  | none => .error (.unopened path)

/-- A certificate and the key that belongs to it. -/
structure TlsIdentity where
  /-- The certificates, beginning with that of the endpoint. -/
  chain : List Bytes
  /-- The key. -/
  key : PemBlock
  deriving DecidableEq, Inhabited

/-- The reading of a certificate and its key. -/
def loadIdentity (files : Files) (certificatePath keyPath : String) :
    Except IdentityFault TlsIdentity := do
  let certificateText ← openFile files certificatePath
  let keyText ← openFile files keyPath
  match (PemFile.read certificateText).certificates? with
  | none => throw (.malformedCertificates certificatePath)
  | some [] => throw (.noCertificate certificatePath)
  | some (first :: others) =>
    let keyFile := PemFile.read keyText
    match keyFile.key? with
    | none => throw (if keyFile.sound then .noKey keyPath else .malformedKey keyPath)
    | some key =>
      match Certificate.publicKey? first, PrivateKey.publicKey? key with
      | some stated, some expected =>
        if stated = expected then return ⟨first :: others, key⟩ else throw .mismatch
      | _, _ => throw .mismatch

/-- The opening of the endpoint; without a certificate and a key it is not encrypted. -/
def Settings.openEndpoint (s : Settings) (files : Files) (portIsFree : Bool) :
    Except ListenerFault (Option TlsIdentity) := do
  let identity ← match s.certificateFile, s.keyFile with
    | some certificate, some key =>
      ((loadIdentity files certificate key).map some).mapError .identity
    | none, none => .ok none
    | _, _ => .error .halfGiven
  if portIsFree then return identity else throw (.portTaken s.webhookPort)

/-- Whether a file of certificates keeps requests from being sent: one of the certificates cannot
be read.  A file that has a fault is left alone. -/
def spoilsTrust (text : String) : Bool :=
  match (PemFile.read text).certificates? with
  | some certificates => certificates.any fun c => (Certificate.publicKey? c).isNone
  | none => false

end GatewayOperator
