import GatewayOperator.Yaml.Fault

/-!
# Reading characters with their places

## Main Definitions

* `Yaml.Cursor` — the characters still to be read, and the place of the first of them.
* `Yaml.Cursor.skip`, `Yaml.Cursor.skipLine`, `Yaml.Cursor.takeWhile` — moving on.
* `Yaml.isBlank`, `Yaml.isBreak`, `Yaml.isNameChar` — the character classes of the notation.

## Design Notes

Five characters end a line; a carriage return followed by a line feed counts as one end.  Three of
the line ends are kept as a line feed, the line and paragraph separators as themselves.
-/

namespace GatewayOperator.Yaml

/-- A space or a tab. -/
def isBlank (c : Char) : Bool := c = ' ' || c = '\t'

/-- A character that ends a line. -/
def isBreak (c : Char) : Bool :=
  c = '\n' || c = '\r' || c.toNat = 0x85 || c.toNat = 0x2028 || c.toNat = 0x2029

/-- A character of names: a letter or digit of ASCII, a dash or an underscore. -/
def isNameChar (c : Char) : Bool :=
  ('0' ≤ c && c ≤ '9') || ('A' ≤ c && c ≤ 'Z') || ('a' ≤ c && c ≤ 'z') || c = '-' || c = '_'

/-- Whether a list is empty or begins with a blank or the end of a line. -/
def atGap : List Char → Bool
  | [] => true
  | c :: _ => isBlank c || isBreak c

/-- Whether a list is empty or begins with the end of a line. -/
def atLineEnd : List Char → Bool
  | [] => true
  | c :: _ => isBreak c

/-- Whether a list begins with a character satisfying `p`. -/
def startsWith (p : Char → Bool) : List Char → Bool
  | [] => false
  | c :: _ => p c

/-- The characters still to be read, and the place of the first of them. -/
structure Cursor where
  /-- The characters still to be read. -/
  rest : List Char
  /-- The place of the first of them. -/
  mark : Mark
  deriving Inhabited

namespace Cursor

/-- Behind the first character of a line that goes on. -/
def skip (c : Cursor) : Cursor :=
  ⟨c.rest.tail, ⟨c.mark.index + 1, c.mark.line, c.mark.column + 1⟩⟩

/-- Behind the next `n` characters of a line. -/
def skipMany : Nat → Cursor → Cursor
  | 0, c => c
  | n + 1, c => skipMany n c.skip

/-- Behind the end of the line, and the character kept for it; nothing is read elsewhere. -/
def readLineEnd (c : Cursor) : List Char × Cursor :=
  match c.rest with
  | '\r' :: '\n' :: rest => (['\n'], ⟨rest, ⟨c.mark.index + 2, c.mark.line + 1, 0⟩⟩)
  | d :: rest =>
    let after : Cursor := ⟨rest, ⟨c.mark.index + 1, c.mark.line + 1, 0⟩⟩
    if d = '\n' ∨ d = '\r' ∨ d.toNat = 0x85 then (['\n'], after)
    else if isBreak d then ([d], after)
    else ([], c)
  | [] => ([], c)

/-- Behind the end of the line. -/
def skipLine (c : Cursor) : Cursor := c.readLineEnd.2

/-- The longest run of characters satisfying `p`, and the cursor behind it. -/
def takeWhile (p : Char → Bool) (c : Cursor) : List Char × Cursor :=
  let run := c.rest.takeWhile p
  (run, ⟨c.rest.dropWhile p, ⟨c.mark.index + run.length, c.mark.line, c.mark.column + run.length⟩⟩)

/-- Behind the longest run of characters satisfying `p`. -/
def skipWhile (p : Char → Bool) (c : Cursor) : Cursor := (c.takeWhile p).2

/-- Behind the rest of the line, at its end. -/
def skipToLineEnd (c : Cursor) : Cursor := c.skipWhile fun d => !isBreak d

/-- Behind a comment, if one stands here. -/
def skipComment (c : Cursor) : Cursor :=
  if startsWith (· = '#') c.rest then c.skipToLineEnd else c

/-- Whether one of the two marks between documents stands at the start of this line. -/
def atDocumentMark (c : Cursor) : Bool :=
  c.mark.column = 0 &&
    match c.rest with
    | '-' :: '-' :: '-' :: rest => atGap rest
    | '.' :: '.' :: '.' :: rest => atGap rest
    | _ => false

/-- A fault at this place. -/
def fault (c : Cursor) (problem : String) (context : Option Context) : Fault :=
  .malformed problem c.mark context

end Cursor

end GatewayOperator.Yaml
