import GatewayOperator.Powers
import GatewayOperator.Yaml.Token.Scalar

/-!
# Tags, names and directives in text

## Main Definitions

* `Yaml.Cursor.readName` — the name of an anchor or alias.
* `Yaml.Cursor.readTag` — a tag: a handle and what is appended to its meaning.
* `Yaml.Cursor.readDirective` — a line that begins with a percent sign.
-/

namespace GatewayOperator.Yaml.Cursor

/-- A character that may follow the name of an anchor or alias. -/
def endsName : List Char → Bool
  | [] => true
  | c :: _ =>
    isBlank c || isBreak c || c = '?' || c = ':' || c = ',' || c = ']' || c = '\x7d' || c = '%' ||
      c = '@' || c = '\x60'

/-- Reads the name behind an ampersand or asterisk, which is the next character. -/
def readName (isAlias : Bool) (c : Cursor) : Except Fault (Token × Cursor) :=
  let start := c.mark
  let (name, c) := c.skip.takeWhile isNameChar
  if name.isEmpty ∨ !endsName c.rest then
    .error (c.fault "did not find expected alphabetic or numeric character"
      (some ⟨if isAlias then "while scanning an alias" else "while scanning an anchor", start⟩))
  else
    let name := String.ofList name
    .ok (⟨if isAlias then .alias name else .anchor name, start, c.mark⟩, c)

/-- The context of faults in a tag or in a directive. -/
def tagContext (inDirective : Bool) (start : Mark) : Option Context :=
  some ⟨if inDirective then "while parsing a %TAG directive" else "while parsing a tag", start⟩

/-- A character that stands for itself in the suffix of a tag. -/
def isSuffixChar (bracketsToo : Bool) (c : Char) : Bool :=
  isNameChar c || c = ';' || c = '/' || c = '?' || c = ':' || c = '@' || c = '&' || c = '=' ||
    c = '+' || c = '$' || c = '.' || c = '!' || c = '~' || c = '*' || c = '\'' || c = '(' ||
    c = ')' || (bracketsToo && (c = ',' || c = '[' || c = ']'))

/-- The number of bytes of a character whose encoding begins with this byte. -/
def encodedLength? (byte : Nat) : Option Nat :=
  if byte < 0x80 then some 1
  else if byte / 32 = 6 then some 2
  else if byte / 16 = 14 then some 3
  else if byte / 8 = 30 then some 4
  else none

/-- The bits of a character that its first byte holds. -/
def leadingBits (byte length : Nat) : Nat :=
  if length = 1 then byte else byte % twoTo (7 - length)

/-- Reads one byte written as a percent sign and two digits. -/
def readEscapedByte (inDirective : Bool) (start : Mark) (c : Cursor) :
    Except Fault (Nat × Cursor) :=
  match c.rest with
  | '%' :: rest =>
    match readHex? 2 0 rest with
    | some byte => .ok (byte, c.skipMany 3)
    | none => .error (c.fault "did not find URI escaped octet" (tagContext inDirective start))
  | _ => .error (c.fault "did not find URI escaped octet" (tagContext inDirective start))

/-- Reads the remaining `n` bytes of an escaped character. -/
def readTrailingBytes (inDirective : Bool) (start : Mark) :
    Nat → Nat → Cursor → Except Fault (Nat × Cursor)
  | 0, acc, c => .ok (acc, c)
  | n + 1, acc, c => do
    let (byte, after) ← c.readEscapedByte inDirective start
    if byte / 64 ≠ 2 then
      throw (c.fault "found an incorrect trailing UTF-8 octet" (tagContext inDirective start))
    readTrailingBytes inDirective start n (acc * 64 + byte % 64) after

/-- Reads a character written as escaped bytes. -/
def readEscapedChar (inDirective : Bool) (start : Mark) (c : Cursor) :
    Except Fault (Char × Cursor) := do
  let (byte, after) ← c.readEscapedByte inDirective start
  match encodedLength? byte with
  | none => throw (c.fault "found an incorrect leading UTF-8 octet" (tagContext inDirective start))
  | some length =>
    let (code, after) ←
      readTrailingBytes inDirective start (length - 1) (leadingBits byte length) after
    return (Char.ofNat code, after)

/-- Reads the characters of a suffix. -/
def readSuffixChars (bracketsToo inDirective : Bool) (start : Mark) :
    Nat → List Char → Cursor → Except Fault (List Char × Cursor)
  | 0, text, c => .ok (text, c)
  | fuel + 1, text, c =>
    match c.rest with
    | [] => .ok (text, c)
    | d :: _ =>
      if d = '%' then do
        let (e, c) ← c.readEscapedChar inDirective start
        readSuffixChars bracketsToo inDirective start fuel (text ++ [e]) c
      else if isSuffixChar bracketsToo d then
        readSuffixChars bracketsToo inDirective start fuel (text ++ [d]) c.skip
      else .ok (text, c)

/-- Reads the suffix of a tag, which begins with what follows the `head` of its handle; it may be
empty only if there is a head. -/
def readSuffix (bracketsToo inDirective : Bool) (head : List Char) (start : Mark) (c : Cursor) :
    Except Fault (List Char × Cursor) := do
  let (text, c) ←
    readSuffixChars bracketsToo inDirective start (c.rest.length + 1) head.tail c
  if text.isEmpty ∧ head.isEmpty then
    throw (c.fault "did not find expected tag URI" (tagContext inDirective start))
  return (text, c)

/-- Reads a tag handle: an exclamation mark, or a name between two of them. -/
def readHandle (inDirective : Bool) (start : Mark) (c : Cursor) :
    Except Fault (List Char × Cursor) :=
  let context : Option Context :=
    some ⟨if inDirective then "while scanning a directive" else "while scanning a tag", start⟩
  if !startsWith (· = '!') c.rest then .error (c.fault "did not find expected '!'" context)
  else
    let (name, c) := c.skip.takeWhile isNameChar
    if startsWith (· = '!') c.rest then .ok ('!' :: name ++ ['!'], c.skip)
    else if inDirective ∧ !name.isEmpty then
      .error (c.fault "did not find expected '!'"
        (some ⟨"while parsing a tag directive", start⟩))
    else .ok ('!' :: name, c)

/-- Reads a tag up to its end: its handle and suffix. -/
def readTagParts (start : Mark) (c : Cursor) : Except Fault (List Char × List Char × Cursor) :=
  match c.rest with
  | '!' :: '<' :: _ => do
    let (suffix, c) ← c.skip.skip.readSuffix true false [] start
    if !startsWith (· = '>') c.rest then
      throw (c.fault "did not find the expected '>'" (some ⟨"while scanning a tag", start⟩))
    return ([], suffix, c.skip)
  | _ => do
    let (handle, c) ← c.readHandle false start
    if 2 ≤ handle.length ∧ handle.getLast? = some '!' then
      let (suffix, c) ← c.readSuffix false false [] start
      return (handle, suffix, c)
    else
      let (suffix, c) ← c.readSuffix false false handle start
      if suffix.isEmpty then return ([], ['!'], c) else return (['!'], suffix, c)

/-- Reads the tag whose exclamation mark is the next character. -/
def readTag (inFlow : Bool) (c : Cursor) : Except Fault (Token × Cursor) := do
  let start := c.mark
  let (handle, suffix, c) ← c.readTagParts start
  if !(inFlow ∧ startsWith (· = ',') c.rest) ∧ !atGap c.rest then
    throw (c.fault "did not find expected whitespace or line break"
      (some ⟨"while scanning a tag", start⟩))
  return (⟨.tag (String.ofList handle) (String.ofList suffix), start, c.mark⟩, c)

/-- Reads a number of a version, of at most nine digits. -/
def readVersionNumber (start : Mark) (c : Cursor) : Except Fault (Nat × Cursor) :=
  let context : Option Context := some ⟨"while scanning a %YAML directive", start⟩
  let (digits, after) := c.takeWhile Char.isDigit
  if 9 < digits.length then .error (c.fault "found extremely long version number" context)
  else if digits.isEmpty then .error (c.fault "did not find expected version number" context)
  else .ok (digits.foldl (fun acc d => acc * 10 + (d.toNat - 48)) 0, after)

/-- Reads the value of a version directive. -/
def readVersion (start : Mark) (c : Cursor) : Except Fault (TokenKind × Cursor) := do
  let (major, c) ← (c.skipWhile isBlank).readVersionNumber start
  if !startsWith (· = '.') c.rest then
    throw (c.fault "did not find expected digit or '.' character"
      (some ⟨"while scanning a %YAML directive", start⟩))
  let (minor, c) ← c.skip.readVersionNumber start
  return (.versionDirective major minor, c)

/-- Reads the value of a tag directive. -/
def readTagDirective (start : Mark) (c : Cursor) : Except Fault (TokenKind × Cursor) := do
  let context : Option Context := some ⟨"while scanning a %TAG directive", start⟩
  let (handle, c) ← (c.skipWhile isBlank).readHandle true start
  if !startsWith isBlank c.rest then
    throw (c.fault "did not find expected whitespace" context)
  let (expansion, c) ← (c.skipWhile isBlank).readSuffix true true [] start
  if !atGap c.rest then
    throw (c.fault "did not find expected whitespace or line break" context)
  return (.tagDirective (String.ofList handle) (String.ofList expansion), c)

/-- Reads the directive whose percent sign is the next character. -/
def readDirective (c : Cursor) : Except Fault (Token × Cursor) := do
  let start := c.mark
  let context : Option Context := some ⟨"while scanning a directive", start⟩
  let (name, c) := c.skip.takeWhile isNameChar
  if name.isEmpty then throw (c.fault "could not find expected directive name" context)
  if !atGap c.rest then throw (c.fault "found unexpected non-alphabetical character" context)
  let (kind, c) ←
    if name = "YAML".toList then c.readVersion start
    else if name = "TAG".toList then c.readTagDirective start
    else throw (c.fault "found unknown directive name" context)
  let stop := c.mark
  let c := (c.skipWhile isBlank).skipComment
  if !atLineEnd c.rest then
    throw (c.fault "did not find expected comment or line break" context)
  return (⟨kind, start, stop⟩, c.skipLine)

end GatewayOperator.Yaml.Cursor
