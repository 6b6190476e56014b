import GatewayOperator.Tls.Der

/-!
# Certificates

## Main Definitions

* `Certificate.publicKey?` — the public key in a certificate, with its kind.

## Design Notes

Of a certificate only the key matters here, but one that is not well formed throughout is refused.
An extension that has to be understood is understood only if it is one of the standard ones.
-/

namespace GatewayOperator.Certificate

open Der

/-- An extension of a certificate. -/
structure Extension where
  /-- The identifier. -/
  identifier : Bytes
  /-- Whether it has to be understood. -/
  critical : Bool
  /-- The contents. -/
  contents : Bytes
  deriving DecidableEq, Inhabited

/-- Reads an extension. -/
def readExtension : Reader Extension :=
  within sequence do
    let identifier ← expect identifier
    let critical ← match ← optional boolean with
      | none => pure false
      | some [0xFF] => pure true
      | some [0x00] => pure false
      | some _ => failure
    return ⟨identifier, critical, ← expect octetString⟩

/-- The number of a standard extension that is understood. -/
def standardNumber? : Bytes → Option UInt8
  | [0x55, 0x1D, n] => if [15, 17, 19, 30, 31, 37].contains n then some n else none
  | _ => none

/-- The number of the extension that says what a key may be used for. -/
def usageNumber : UInt8 := 15

/-- Whether an extension is understood or may be passed over. -/
def Extension.isAcceptable (e : Extension) : Bool :=
  match standardNumber? e.identifier with
  | none => !e.critical
  | some n => n = usageNumber || (all (expect sequence) e.contents).isSome

/-- Whether extensions are acceptable and no standard one occurs twice. -/
def areAcceptable (extensions : List Extension) : Bool :=
  extensions.all Extension.isAcceptable &&
    decide (extensions.filterMap fun e => standardNumber? e.identifier).Nodup

/-- Reads elements until nothing is left; each takes at least a byte, so `fuel` of them suffice. -/
def readMany {α : Type} (reader : Reader α) : Nat → Reader (List α)
  | 0 => return []
  | fuel + 1 => do
    if ← atEnd then return []
    return (← reader) :: (← readMany reader fuel)

/-- Reads the extensions. -/
def readExtensions : Reader (List Extension) :=
  within (tagged 3) (within sequence do readMany readExtension (← get).length)

/-- Reads the part of a certificate that is signed, and yields the public key; `algorithm` is that
of the signature. -/
def readSigned (algorithm : Bytes) : Reader Bytes := do
  let version ← within (tagged 0) readNatural
  guard (version = 2)
  let _serial ← expect integer
  guard ((← expect sequence) = algorithm)
  let _issuer ← expect sequence
  let _validity ← expect sequence
  let _subject ← expect sequence
  let key ← expect sequence
  unless ← atEnd do
    guard (areAcceptable (← readExtensions))
  return key

/-- Reads a certificate, and yields the public key. -/
def readCertificate : Reader Bytes :=
  within sequence do
    let signed ← expect sequence
    let algorithm ← expect sequence
    let _signature ← readBits
    match all (readSigned algorithm) signed with
    | some key => return key
    | none => failure

/-- The public key in a certificate, with its kind. -/
def publicKey? (certificate : Bytes) : Option Bytes := all readCertificate certificate

end GatewayOperator.Certificate
