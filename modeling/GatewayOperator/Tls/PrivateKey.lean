import GatewayOperator.Powers
import GatewayOperator.Tls.Der
import GatewayOperator.Tls.Pem

/-!
# Private keys

## Main Definitions

* `Curve` — the elliptic curves on which keys are used.
* `PrivateKey.publicKey?` — the public key that belongs to a private one, as it stands in
  certificates.

## Design Notes

A key on a curve is stored together with its public key; a key made of primes contains it.
-/

namespace GatewayOperator

/-- The elliptic curves on which keys are used. -/
inductive Curve where
  /-- The curve over a field of 256 bits. -/
  | p256
  /-- The curve over a field of 384 bits. -/
  | p384
  deriving DecidableEq, Repr, Inhabited

namespace Curve

/-- All curves. -/
def all : List Curve := [p256, p384]

/-- The identifier of a curve. -/
def identifier : Curve → Bytes
  | p256 => [0x2A, 0x86, 0x48, 0xCE, 0x3D, 0x03, 0x01, 0x07]
  | p384 => [0x2B, 0x81, 0x04, 0x00, 0x22]

/-- The number of bytes of a coordinate. -/
def size : Curve → Nat
  | p256 => 32
  | p384 => 48

end Curve

namespace PrivateKey

open Der

/-- The identifier of keys on curves. -/
def curveKeys : Bytes := [0x2A, 0x86, 0x48, 0xCE, 0x3D, 0x02, 0x01]

/-- The identifier of keys made of primes. -/
def primeKeys : Bytes := [0x2A, 0x86, 0x48, 0x86, 0xF7, 0x0D, 0x01, 0x01, 0x01]

/-- The kind of the keys on a curve. -/
def curveAlgorithm (c : Curve) : Bytes :=
  encode identifier curveKeys ++ encode identifier c.identifier

/-- The kind of the keys made of primes. -/
def primeAlgorithm : Bytes := encode identifier primeKeys ++ [0x05, 0x00]

/-- A public key with its kind. -/
def withAlgorithm (algorithm key : Bytes) : Bytes :=
  encode sequence algorithm ++ encode bitString (0 :: key)

/-- Reads a key on a curve, and yields its public key. -/
def readCurveKey (c : Curve) : Reader Bytes :=
  within sequence do
    guard ((← readNatural) = 1)
    let secret ← expect octetString
    guard (secret.length = c.size)
    match ← optional (tagged 0) with
    | none => pure ()
    | some parameters => guard (parameters = encode identifier c.identifier)
    let point ← within (tagged 1) readBits
    guard (point.length = 2 * c.size + 1 ∧ point.head? = some 0x04)
    return point

/-- The public key of a key on one of the curves. -/
def ofCurveKey? (key : Bytes) : Option Bytes :=
  Curve.all.findSome? fun c =>
    (all (readCurveKey c) key).map (withAlgorithm (curveAlgorithm c))

/-- The bits of a number, in whole bytes. -/
def wholeBits (n : Nat) : Nat := (n.log2 + 8) / 8 * 8

/-- Whether numbers make up a key: the modulus is the product of the primes, and all are of an
admitted size. -/
def isPrimeKey (n e p q inverse : Nat) : Bool :=
  p * q = n && q < p && inverse * q % p = 1 && 2048 ≤ wholeBits n && wholeBits n ≤ 4096 &&
    e % 2 = 1 && 65537 ≤ e && e < twoTo 33

/-- Reads a key made of primes, and yields its public key. -/
def readPrimeKey : Reader Bytes :=
  within sequence do
    guard ((← readNatural) = 0)
    let modulus ← get
    let n ← readNatural
    let e ← readNatural
    let rest ← get
    let _d ← readNatural
    let p ← readNatural
    let q ← readNatural
    let _dp ← readNatural
    let _dq ← readNatural
    let inverse ← readNatural
    guard (isPrimeKey n e p q inverse)
    return encode sequence (modulus.take (modulus.length - rest.length))

/-- The public key of a key made of primes. -/
def ofPrimeKey? (key : Bytes) : Option Bytes :=
  (all readPrimeKey key).map (withAlgorithm primeAlgorithm)

/-- Reads a key with its kind: the kind and the key. -/
def readWrapped : Reader (Bytes × Bytes) :=
  within sequence do
    guard ((← readNatural) = 0)
    let algorithm ← expect sequence
    let key ← expect octetString
    let _attributes ← optional (tagged 0)
    return (algorithm, key)

/-- The public key of a key with its kind. -/
def ofWrapped? (bytes : Bytes) : Option Bytes := do
  let (algorithm, key) ← all readWrapped bytes
  if algorithm = primeAlgorithm then ofPrimeKey? key
  else
    let c ← Curve.all.find? fun c => algorithm = curveAlgorithm c
    return withAlgorithm algorithm (← all (readCurveKey c) key)

/-- The public key that belongs to the private key in a block. -/
def publicKey? (block : PemBlock) : Option Bytes :=
  match block.label with
  | .privateKey => ofWrapped? block.bytes
  | .curveKey => ofCurveKey? block.bytes
  | .primeKey => ofPrimeKey? block.bytes
  | .certificate | .other => none

end PrivateKey

end GatewayOperator
