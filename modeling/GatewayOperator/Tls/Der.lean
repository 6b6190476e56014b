import GatewayOperator.Bytes.Basic

/-!
# Tagged elements

Certificates and keys are trees of elements; each element is a tag, a length and its contents.

## Main Definitions

* `Der.Reader` — a reader of the elements at the beginning of some bytes.
* `Der.element` — reads the next element, `Der.expect` one with a given tag.
* `Der.all` — what a reader makes of some bytes, all of which it has to read.
* `Der.encode` — an element with a tag.

## Design Notes

Every length has one form, the shortest, so an element and its contents determine each other.
-/

namespace GatewayOperator.Der

/-- A reader of the elements at the beginning of some bytes. -/
abbrev Reader (α : Type) := StateT Bytes Option α

/-- The tag of a truth value. -/
def boolean : UInt8 := 0x01
/-- The tag of an integer. -/
def integer : UInt8 := 0x02
/-- The tag of a string of bits. -/
def bitString : UInt8 := 0x03
/-- The tag of a string of bytes. -/
def octetString : UInt8 := 0x04
/-- The tag of an identifier. -/
def identifier : UInt8 := 0x06
/-- The tag of a sequence. -/
def sequence : UInt8 := 0x30
/-- The tag of the element with a number in its surroundings. -/
def tagged (n : UInt8) : UInt8 := 0xA0 + n

/-- The number whose digits to the base 256 are some bytes. -/
def natural (digits : Bytes) : Nat := digits.foldl (fun n d => n * 256 + d.toNat) 0

/-- The length of the contents that the bytes after a tag state, and what follows it. -/
def length? : Bytes → Option (Nat × Bytes)
  | [] => none
  | first :: rest =>
    if first < 0x80 then some (first.toNat, rest)
    else
      let count := first.toNat - 0x80
      let digits := rest.take count
      let n := natural digits
      if count = 1 ∧ digits.length = 1 ∧ 0x80 ≤ n then some (n, rest.drop count)
      else if count = 2 ∧ digits.length = 2 ∧ 0x100 ≤ n then some (n, rest.drop count)
      else none

/-- The length that contents may not reach. -/
def lengthLimit : Nat := 0xFFFF

/-- Splits the first element off: its tag, its contents and what follows. -/
def split? : Bytes → Option (UInt8 × Bytes × Bytes)
  | [] => none
  | tag :: rest =>
    if tag &&& 0x1F = 0x1F then none
    else match length? rest with
      | none => none
      | some (n, rest) =>
        if n < lengthLimit ∧ n ≤ rest.length then some (tag, rest.take n, rest.drop n) else none

/-- Reads the next element: its tag and its contents. -/
def element : Reader (UInt8 × Bytes) := fun bytes =>
  (split? bytes).map fun (tag, contents, rest) => ((tag, contents), rest)

/-- Reads the contents of the next element, which has to have a tag. -/
def expect (tag : UInt8) : Reader Bytes := do
  let (found, contents) ← element
  guard (found = tag)
  return contents

/-- Reads the contents of the next element if it has a tag. -/
def optional (tag : UInt8) : Reader (Option Bytes) := fun bytes =>
  if bytes.head? = some tag then
    (expect tag bytes).map fun (contents, rest) => (some contents, rest)
  else some (none, bytes)

/-- Whether nothing is left. -/
def atEnd : Reader Bool := do return (← get).isEmpty

/-- What a reader makes of some bytes, all of which it has to read. -/
def all {α : Type} (reader : Reader α) (bytes : Bytes) : Option α :=
  match reader.run bytes with
  | some (a, []) => some a
  | _ => none

/-- Reads the next element, which has to have a tag, with a reader of its contents. -/
def within {α : Type} (tag : UInt8) (reader : Reader α) : Reader α := do
  match all reader (← expect tag) with
  | some a => return a
  | none => failure

/-- Reads a natural number in its shortest form. -/
def readNatural : Reader Nat := do
  match ← expect integer with
  | [] => failure
  | [d] => if d < 0x80 then return d.toNat else failure
  | first :: second :: rest =>
    guard (first < 0x80 ∧ (first = 0 → 0x80 ≤ second))
    return natural (first :: second :: rest)

/-- Reads a string of bits that fills its bytes. -/
def readBits : Reader Bytes := do
  match ← expect bitString with
  | 0 :: bytes => return bytes
  | _ => failure

/-- The bytes that state a length. -/
def encodeLength (n : Nat) : Bytes :=
  if n < 0x80 then [UInt8.ofNat n]
  else if n < 0x100 then [0x81, UInt8.ofNat n]
  else [0x82, UInt8.ofNat (n / 256), UInt8.ofNat (n % 256)]

/-- An element with a tag. -/
def encode (tag : UInt8) (contents : Bytes) : Bytes :=
  tag :: encodeLength contents.length ++ contents

end GatewayOperator.Der
