import GatewayOperator.Bytes.Base64
import GatewayOperator.Text.Blank

/-!
# Armoured files

Certificates and keys are kept in text files: each is a block between a line that begins it and one
that ends it, and whatever stands outside of blocks is commentary.

## Main Definitions

* `PemLabel` — what a block may hold.
* `PemBlock` — a block and its bytes.
* `PemFile` — the blocks of a file up to the first fault.
* `PemFile.read` — the reading of a file.

## Design Notes

A block of another label is passed over unread, so its contents are of no consequence.  A line
that begins a block inside another one begins anew, but what has been collected stays.
-/

namespace GatewayOperator

/-- What a block may hold. -/
inductive PemLabel where
  /-- A certificate. -/
  | certificate
  /-- A private key with its kind. -/
  | privateKey
  /-- A private key on an elliptic curve. -/
  | curveKey
  /-- A private key made of prime numbers. -/
  | primeKey
  /-- Something that is neither a certificate nor a private key. -/
  | other
  deriving DecidableEq, Repr, Inhabited

namespace PemLabel

/-- The labels whose blocks are read. -/
def all : List (String × PemLabel) :=
  [("CERTIFICATE", certificate), ("PRIVATE KEY", privateKey), ("EC PRIVATE KEY", curveKey),
    ("RSA PRIVATE KEY", primeKey), ("PUBLIC KEY", other), ("X509 CRL", other),
    ("CERTIFICATE REQUEST", other), ("ECHCONFIG", other)]

/-- The label of a name. -/
def ofName? (name : String) : Option PemLabel := (all.find? fun l => l.1 = name).map (·.2)

/-- Whether a block holds a private key. -/
def isKey : PemLabel → Bool
  | privateKey | curveKey | primeKey => true
  | certificate | other => false

end PemLabel

/-- A block. -/
structure PemBlock where
  /-- What it holds. -/
  label : PemLabel
  /-- Its bytes. -/
  bytes : Bytes
  deriving DecidableEq, Inhabited

/-- The blocks of a file up to the first fault. -/
structure PemFile where
  /-- The blocks. -/
  blocks : List PemBlock
  /-- Whether there is no fault. -/
  sound : Bool
  deriving DecidableEq, Inhabited

namespace PemFile

/-- The file without a block. -/
def empty : PemFile := ⟨[], true⟩

/-- The file that has a fault at its beginning. -/
def faulty : PemFile := ⟨[], false⟩

/-- The file with one more block at its beginning. -/
def cons (block : PemBlock) (rest : PemFile) : PemFile := ⟨block :: rest.blocks, rest.sound⟩

/-- Whether a character ends a line. -/
def endsLine (c : Char) : Bool := c = '\n' || c = '\r'

/-- The lines of a text. -/
def lines : List Char → List (List Char)
  | [] => [[]]
  | c :: rest =>
    if endsLine c then [] :: lines rest
    else match lines rest with
      | [] => [[c]]
      | line :: others => (c :: line) :: others

/-- The characters between which a label stands. -/
def dashes : List Char := "-----".toList

/-- What a line is good for. -/
inductive LineRole where
  /-- It begins a block with the name of a label. -/
  | opening (name : String)
  /-- It begins a block, but not properly. -/
  | badOpening
  /-- It is any other line. -/
  | content
  deriving DecidableEq, Repr, Inhabited

/-- The characters of a line up to the dashes at its end, if there are five of them. -/
def beforeDashes? (line : List Char) : Option (List Char) :=
  let tail := line.reverse.takeWhile fun c => c = '-' || c = ' '
  if (tail.filter (· = '-')).length = 5 then
    some (line.take (line.length - (Text.dropEnd (· = ' ') tail).length))
  else none

/-- What a line is good for. -/
def role (line : List Char) : LineRole :=
  match Text.dropPrefix? "-----BEGIN ".toList line with
  | none => .content
  | some _ =>
    match beforeDashes? line with
    | some start => .opening (String.ofList (start.drop 11))
    | none => .badOpening

/-- Whether a line ends a block. -/
def ends (name : String) (line : List Char) : Bool :=
  (Text.dropPrefix? ("-----END ".toList ++ name.toList ++ dashes) line).isSome

/-- The characters that are passed over within a block. -/
def isFiller (c : Char) : Bool := (9 ≤ c.toNat && c.toNat ≤ 13) || c = ' '

/-- The bytes of the collected lines, the last of them first. -/
def bytes? (collected : List (List Char)) : Option Bytes :=
  Base64.decodeChars? (collected.reverse.flatten.filter (!isFiller ·))

/-- The file that some lines make up; `opened` is the name of the block they stand in. -/
def ofLines : Option String → List (List Char) → List (List Char) → PemFile
  | none, _, [] => empty
  | some _, _, [] => faulty
  | opened, collected, line :: rest =>
    match role line, opened with
    | .badOpening, _ => faulty
    | .opening name, _ => ofLines (some name) collected rest
    | .content, none => ofLines none collected rest
    | .content, some name =>
      if ends name line then
        match PemLabel.ofName? name with
        | none => ofLines none [] rest
        | some label =>
          match bytes? collected with
          | some bytes => cons ⟨label, bytes⟩ (ofLines none [] rest)
          | none => faulty
      else ofLines (some name) (line :: collected) rest

/-- The reading of a file. -/
def read (text : String) : PemFile := ofLines none [] (lines text.toList)

/-- The certificates, if the file has no fault. -/
def certificates? (f : PemFile) : Option (List Bytes) :=
  if f.sound then
    some ((f.blocks.filter fun b => b.label = .certificate).map (·.bytes))
  else none

/-- The first private key before any fault. -/
def key? (f : PemFile) : Option PemBlock := f.blocks.find? (·.label.isKey)

end PemFile

end GatewayOperator
