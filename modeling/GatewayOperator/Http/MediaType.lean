import GatewayOperator.Text.Case

/-!
# Media types

## Main Definitions

* `MediaType` — the type of a body, without its parameters.
* `MediaType.parse?` — reads the value of a header.
* `MediaType.isJson` — whether a body is written in JSON.
-/

namespace GatewayOperator

/-- The type of a body. -/
structure MediaType where
  /-- The general type. -/
  type : String
  /-- The particular type, up to its suffix. -/
  subtype : String
  /-- The notation on which the particular type is built. -/
  suffix : Option String
  deriving DecidableEq, Repr, Inhabited

namespace MediaType

/-- The characters of a name. -/
def isTokenChar (c : Char) : Bool :=
  c.isAlphanum || "!#$%&'*+-.^_\x60|~".toList.contains c

/-- The characters between quotes. -/
def isQuotedChar (c : Char) : Bool := 32 ≤ c.toNat && c.toNat < 127

/-- What follows the closing quote of a value: blanks, and the mark before a further parameter. -/
def afterQuote : List Char → Option (List Char)
  | [] => some []
  | ';' :: rest => some rest
  | ' ' :: rest => afterQuote rest
  | _ => none

/-- What follows a value between quotes, of which at least one character has been read if `begun`
is true. -/
def afterQuoted (begun : Bool) : List Char → Option (List Char)
  | [] => none
  | c :: rest =>
    if c = '"' && begun then afterQuote rest
    else if isQuotedChar c then afterQuoted true rest
    else none

/-- What follows the value of a parameter. -/
def afterValue : List Char → Option (List Char)
  | '"' :: rest => afterQuoted false rest
  | cs =>
    match cs.takeWhile isTokenChar, cs.dropWhile isTokenChar with
    | _, [] => some []
    | _ :: _, ';' :: rest => some rest
    | _, _ => none

/-- What follows a parameter. -/
def afterParameter (cs : List Char) : Option (List Char) :=
  match cs.takeWhile isTokenChar, cs.dropWhile isTokenChar with
  | _ :: _, '=' :: rest => afterValue rest
  | _, _ => none

/-- Whether a list of parameters is well-formed; `bound` is at least its length. -/
def parametersOk : Nat → List Char → Bool
  | _, [] => true
  | 0, _ => false
  | bound + 1, ' ' :: rest => parametersOk bound rest
  | bound + 1, cs =>
    match afterParameter cs with
    | some rest => parametersOk bound rest
    | none => false

/-- The name of a particular type and its suffix: what follows the last plus sign that is not the
first character. -/
def splitSuffix (cs : List Char) : List Char × Option (List Char) :=
  match cs.reverse.dropWhile (· ≠ '+') with
  | _ :: (c :: before) =>
    ((c :: before).reverse, some (cs.reverse.takeWhile (· ≠ '+')).reverse)
  | _ => (cs, none)

/-- Reads the value of a header. -/
def parse? (s : String) : Option MediaType :=
  let cs := s.toList.map Char.toLower
  match cs.takeWhile isTokenChar, cs.dropWhile isTokenChar with
  | _ :: _, '/' :: rest =>
    let name := splitSuffix (rest.takeWhile isTokenChar)
    let sound := match rest.takeWhile isTokenChar, rest.dropWhile isTokenChar with
      | _, [] => true
      | _ :: _, ';' :: parameters => parametersOk parameters.length parameters
      | _, _ => false
    if sound then
      some ⟨String.ofList (cs.takeWhile isTokenChar), String.ofList name.1,
        name.2.map String.ofList⟩
    else none
  | _, _ => none

/-- Whether a body is written in JSON. -/
def isJson (m : MediaType) : Bool :=
  m.type = "application" && (m.subtype = "json" || m.suffix = some "json")

end MediaType

end GatewayOperator
