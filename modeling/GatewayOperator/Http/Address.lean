import GatewayOperator.Text.Blank

/-!
# Addresses

An address says where a request is sent and what is asked for there.

## Main Definitions

* `Address` — the parts of an address.
* `Address.read?` — the address that a text holds.
* `Address.readTarget?` — what is asked for, as it stands behind the place that is asked.

## Design Notes

A fragment is no part of a request, so it is dropped and may hold anything.  Letters beyond the
basic ones stand for themselves in a path and a query, but never in the name of a place.
-/

namespace GatewayOperator

/-- What is asked for at a place. -/
structure RequestTarget where
  /-- The path. -/
  path : String
  /-- The query. -/
  query : Option String
  deriving DecidableEq, Repr, Inhabited

/-- Where a request is sent and what is asked for there. -/
structure Address where
  /-- How the place is spoken to. -/
  scheme : Option String
  /-- The place, with a port and an account if they matter; it may be left open. -/
  authority : String
  /-- What is asked for. -/
  target : RequestTarget
  deriving DecidableEq, Repr, Inhabited

namespace Address

/-- Whether a character may stand in a path. -/
def isPathChar (c : Char) : Bool :=
  let n := c.toNat
  n = 0x21 || n = 0x22 || (0x24 ≤ n && n ≤ 0x3B) || n = 0x3D || (0x40 ≤ n && n ≤ 0x5F) || 0x61 ≤ n

/-- Whether a character may stand in a query. -/
def isQueryChar (c : Char) : Bool :=
  let n := c.toNat
  n = 0x21 || (0x24 ≤ n && n ≤ 0x3B) || n = 0x3D || 0x3F ≤ n

/-- Reads what is asked for: a path, and a query behind a question mark. -/
def readTarget (cs : List Char) : Option RequestTarget :=
  let cs := cs.takeWhile (· ≠ '#')
  let path := cs.takeWhile (· ≠ '?')
  if path.all isPathChar then
    match cs.drop path.length with
    | [] => some ⟨String.ofList path, none⟩
    | _ :: query =>
      if query.all isQueryChar then some ⟨String.ofList path, some (String.ofList query)⟩ else none
  else none

/-- What is asked for, as it stands behind the place that is asked. -/
def readTarget? (s : String) : Option RequestTarget := readTarget s.toList

/-- Whether a character may stand in a scheme. -/
def isSchemeChar (c : Char) : Bool :=
  c.isAlphanum || c = '+' || c = '-' || c = '.'

/-- The most characters of a scheme. -/
def schemeLimit : Nat := 64

/-- Splits off the scheme, if there is one; a scheme that is too long is refused. -/
def splitScheme (cs : List Char) : Option (Option String × List Char) :=
  let scheme := cs.takeWhile isSchemeChar
  match cs.drop scheme.length with
  | ':' :: '/' :: '/' :: rest =>
    if schemeLimit < scheme.length then none else some (some (String.ofList scheme), rest)
  | _ => some (none, cs)

/-- Whether a character may stand in the name of a place, outside of an escape. -/
def isPlaceChar (c : Char) : Bool :=
  c.isAlphanum || "!$&'()*+,-.;=_~".toList.contains c

/-- Whether a character stands behind the name of a place. -/
def endsPlace (c : Char) : Bool := c = '/' || c = '?' || c = '#'

/-- What is known about the name of a place while it is read. -/
structure PlaceState where
  /-- The number of colons that may stand before a port. -/
  colons : Nat := 0
  /-- Whether a bracket was opened. -/
  opened : Bool := false
  /-- Whether it was closed. -/
  closed : Bool := false
  /-- Whether there was an escape outside of an account. -/
  escaped : Bool := false
  deriving DecidableEq, Repr, Inhabited

/-- The most colons: those of a numeric place, and one before the port. -/
def colonLimit : Nat := 8

/-- What is known after one more character. -/
def PlaceState.step (s : PlaceState) (c : Char) : Option PlaceState :=
  match c with
  | ':' => if colonLimit ≤ s.colons then none else some { s with colons := s.colons + 1 }
  | '[' => if s.escaped || s.opened then none else some { s with opened := true }
  | ']' =>
    if !s.opened || s.closed then none
    else some { s with closed := true, colons := 0, escaped := false }
  | '@' => some { s with colons := 0, escaped := false }
  | '%' => some { s with escaped := true }
  | c => if isPlaceChar c then some s else none

/-- Whether a text names a place, or nothing. -/
def isPlace (cs : List Char) : Bool :=
  match cs.foldlM PlaceState.step {} with
  | none => false
  | some s =>
    s.opened == s.closed && s.colons ≤ 1 && !s.escaped && cs.getLast? != some '@'

/-- The most bytes of an address. -/
def lengthLimit : Nat := 65534

/-- The address of some characters. -/
def readChars (cs : List Char) : Option Address := do
  let (scheme, rest) ← splitScheme cs
  let place := rest.takeWhile fun c => !endsPlace c
  guard (isPlace place)
  let rest := rest.drop place.length
  guard (if scheme.isSome then !place.isEmpty else rest.isEmpty)
  return ⟨scheme, String.ofList place, ← readTarget rest⟩

/-- The address that a text holds: a place with a scheme and a target, a place alone, or a target
alone. -/
def read? (s : String) : Option Address :=
  if lengthLimit < s.utf8ByteSize then none
  else match s.toList with
    | [] => none
    | ['*'] => some ⟨none, "", ⟨"*", none⟩⟩
    | '/' :: cs => (readTarget ('/' :: cs)).map fun target => ⟨none, "", target⟩
    | cs => readChars cs

end Address

end GatewayOperator
