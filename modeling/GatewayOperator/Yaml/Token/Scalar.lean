import GatewayOperator.Yaml.Token

/-!
# Scalars in text

How the characters of a block, quoted or plain scalar become its text: which line ends are kept,
which become a space, and what the escapes stand for.

## Main Definitions

* `Yaml.Cursor.readBlockScalar`, `Yaml.Cursor.readQuoted`, `Yaml.Cursor.readPlain` — the three
  readers, each from the first character of the scalar.
* `Yaml.Fold` — the line ends between two lines of a scalar.

## Design Notes

A run of line ends between two lines folds to a space if it is one plain line feed, and loses its
first line feed otherwise; a separator of another kind is never folded.  Each reader takes as fuel
the number of characters left, since every round of it reads at least one.
-/

namespace GatewayOperator.Yaml

/-- The line ends between two lines of a scalar. -/
structure Fold where
  /-- The first line end. -/
  first : List Char
  /-- The line ends after it. -/
  others : List Char

/-- What the line ends between two lines of a folded scalar become. -/
def Fold.joined (f : Fold) : List Char :=
  if f.first.head? = some '\n' then (if f.others.isEmpty then [' '] else f.others)
  else f.first ++ f.others

namespace Cursor

/-! ### Block scalars -/

/-- What happens to the line ends behind a block scalar. -/
inductive Chomping where
  /-- All are dropped. -/
  | strip
  /-- One is kept. -/
  | clip
  /-- All are kept. -/
  | keep
  deriving DecidableEq

/-- The context of faults in a block scalar. -/
def blockContext (start : Mark) : Option Context := some ⟨"while scanning a block scalar", start⟩

/-- Reads a chomping indicator. -/
def readChomping (c : Cursor) : Option Chomping × Cursor :=
  match c.rest with
  | '+' :: _ => (some .keep, c.skip)
  | '-' :: _ => (some .strip, c.skip)
  | _ => (none, c)

/-- Reads an indentation indicator; zero stands for none. -/
def readIncrement (c : Cursor) (start : Mark) : Except Fault (Nat × Cursor) :=
  match c.rest with
  | d :: _ =>
    if d = '0' then
      .error (.malformed "found an indentation indicator equal to 0" c.mark (blockContext start))
    else if '1' ≤ d ∧ d ≤ '9' then .ok (d.toNat - 48, c.skip)
    else .ok (0, c)
  | [] => .ok (0, c)

/-- Reads the indicators of a block scalar, which may stand in either order. -/
def readHeader (c : Cursor) (start : Mark) : Except Fault (Chomping × Nat × Cursor) :=
  match c.readChomping with
  | (some chomping, c) => do
    let (increment, c) ← c.readIncrement start
    return (chomping, increment, c)
  | (none, c) => do
    let (increment, c) ← c.readIncrement start
    if increment = 0 then return (.clip, 0, c)
    let (chomping, c) := c.readChomping
    return (chomping.getD .clip, increment, c)

/-- Skips spaces while the column is below the indentation; zero stands for any indentation. -/
def skipIndent (indent : Nat) (c : Cursor) : Cursor :=
  if indent = 0 then c.skipWhile (· = ' ')
  else c.skipMany (min (indent - c.mark.column) (c.rest.takeWhile (· = ' ')).length)

/-- The empty lines before the next line of a block scalar, the widest indentation seen, and the
end of the last of them. -/
def readEmptyLines (indent : Nat) (start : Mark) :
    Nat → Nat → List Char → Mark → Cursor → Except Fault (Nat × List Char × Mark × Cursor)
  | 0, widest, breaks, stop, c => .ok (widest, breaks, stop, c)
  | fuel + 1, widest, breaks, stop, c =>
    let c := c.skipIndent indent
    let widest := max widest c.mark.column
    if (indent = 0 ∨ c.mark.column < indent) ∧ startsWith (· = '\t') c.rest then
      .error (c.fault "found a tab character where an indentation space is expected"
        (blockContext start))
    else if startsWith isBreak c.rest then
      let (kept, c) := c.readLineEnd
      readEmptyLines indent start fuel widest (breaks ++ kept) c.mark c
    else .ok (widest, breaks, stop, c)

/-- The empty lines before the next line, and the indentation, which the first line decides if
the header does not. -/
def readBlockBreaks (parent : Int) (indent : Nat) (start : Mark) (c : Cursor) :
    Except Fault (Nat × List Char × Mark × Cursor) := do
  let (widest, breaks, stop, c) ←
    readEmptyLines indent start (c.rest.length + 1) 0 [] c.mark c
  let indent := if indent = 0 then max (max widest (parent + 1).toNat) 1 else indent
  return (indent, breaks, stop, c)

/-- The lines of a block scalar: `text` is what has been read, `leading` the end of its last line,
`trailing` the empty lines after it, `indented` whether that line began with a blank. -/
def readBlockLines (literal : Bool) (parent : Int) (indent : Nat) (start : Mark) :
    Nat → List Char → List Char → List Char → Bool → Mark → Cursor →
      Except Fault (List Char × List Char × List Char × Mark × Cursor)
  | 0, text, leading, trailing, _, stop, c => .ok (text, leading, trailing, stop, c)
  | fuel + 1, text, leading, trailing, indented, stop, c =>
    if c.mark.column = indent ∧ !c.rest.isEmpty then do
      let blank := startsWith isBlank c.rest
      let joined :=
        if !literal ∧ leading.head? = some '\n' ∧ !indented ∧ !blank then
          (if trailing.isEmpty then [' '] else [])
        else leading
      let (line, c) := c.takeWhile fun d => !isBreak d
      let (leading, c) := c.readLineEnd
      let text' := text ++ joined ++ trailing ++ line
      let (_, trailing, stop, c) ← readBlockBreaks parent indent start c
      readBlockLines literal parent indent start fuel text' leading trailing blank stop c
    else .ok (text, leading, trailing, stop, c)

/-- Reads a block scalar inside a collection with indentation `parent`. -/
def readBlockScalar (literal : Bool) (parent : Int) (c : Cursor) :
    Except Fault (Token × Cursor) := do
  let start := c.mark
  let (chomping, increment, c) ← c.skip.readHeader start
  let c := (c.skipWhile isBlank).skipComment
  if !atLineEnd c.rest then
    throw (c.fault "did not find expected comment or line break" (blockContext start))
  let c := c.skipLine
  let indent := if increment = 0 then 0 else (max parent 0).toNat + increment
  let (indent, trailing, stop, c) ← readBlockBreaks parent indent start c
  let (text, leading, trailing, stop, c) ←
    readBlockLines literal parent indent start (c.rest.length + 1) [] [] trailing false stop c
  let text := match chomping with
    | .strip => text
    | .clip => text ++ leading
    | .keep => text ++ leading ++ trailing
  let style := if literal then ScalarStyle.literal else .folded
  return (⟨.scalar (String.ofList text) style, start, stop⟩, c)

/-! ### Quoted scalars -/

/-- The context of faults in a quoted scalar. -/
def quotedContext (start : Mark) : Option Context := some ⟨"while scanning a quoted scalar", start⟩

/-- The character of an escape that stands for itself or a control. -/
def simpleEscape? (d : Char) : Option Char :=
  match d with
  | '0' => some (Char.ofNat 0)
  | 'a' => some (Char.ofNat 7)
  | 'b' => some (Char.ofNat 8)
  | 't' => some '\t'
  | '\t' => some '\t'
  | 'n' => some '\n'
  | 'v' => some (Char.ofNat 11)
  | 'f' => some (Char.ofNat 12)
  | 'r' => some '\r'
  | 'e' => some (Char.ofNat 27)
  | ' ' => some ' '
  | '"' => some '"'
  | '/' => some '/'
  | '\\' => some '\\'
  | 'N' => some (Char.ofNat 0x85)
  | '_' => some (Char.ofNat 0xA0)
  | 'L' => some (Char.ofNat 0x2028)
  | 'P' => some (Char.ofNat 0x2029)
  | _ => none

/-- The number of hexadecimal digits behind an escape. -/
def escapeLength? (d : Char) : Option Nat :=
  match d with
  | 'x' => some 2
  | 'u' => some 4
  | 'U' => some 8
  | _ => none

/-- The value of a hexadecimal digit. -/
def hexValue? (d : Char) : Option Nat :=
  if '0' ≤ d ∧ d ≤ '9' then some (d.toNat - 48)
  else if 'a' ≤ d ∧ d ≤ 'f' then some (d.toNat - 87)
  else if 'A' ≤ d ∧ d ≤ 'F' then some (d.toNat - 55)
  else none

/-- The value of exactly `n` hexadecimal digits. -/
def readHex? : Nat → Nat → List Char → Option Nat
  | 0, acc, _ => some acc
  | _ + 1, _, [] => none
  | n + 1, acc, d :: rest =>
    match hexValue? d with
    | none => none
    | some v => readHex? n (acc * 16 + v) rest

/-- Reads the escape whose backslash is the next character. -/
def readEscape (start : Mark) (c : Cursor) : Except Fault (Char × Cursor) :=
  let context : Option Context := some ⟨"while parsing a quoted scalar", start⟩
  match c.rest with
  | _ :: d :: digits =>
    match simpleEscape? d with
    | some result => .ok (result, c.skip.skip)
    | none =>
      match escapeLength? d with
      | none => .error (c.fault "found unknown escape character" context)
      | some n =>
        match readHex? n 0 digits with
        | none => .error (c.skip.skip.fault "did not find expected hexdecimal number" context)
        | some v =>
          if (0xD800 ≤ v ∧ v ≤ 0xDFFF) ∨ 0x10FFFF < v then
            .error (c.skip.skip.fault "found invalid Unicode character escape code" context)
          else .ok (Char.ofNat v, c.skip.skip.skipMany n)
  | _ => .error (c.fault "found unknown escape character" context)

/-- The characters of a quoted scalar up to the next gap or its closing quote, and whether a
backslash at the end of a line ended them. -/
def readQuotedRun (quote : Char) (start : Mark) :
    Nat → List Char → Cursor → Except Fault (List Char × Bool × Cursor)
  | 0, text, c => .ok (text, false, c)
  | fuel + 1, text, c =>
    if atGap c.rest then .ok (text, false, c)
    else match c.rest with
      | [] => .ok (text, false, c)
      | d :: after =>
        if quote = '\'' ∧ d = '\'' ∧ startsWith (· = '\'') after then
          readQuotedRun quote start fuel (text ++ ['\'']) c.skip.skip
        else if d = quote then .ok (text, false, c)
        else if quote = '"' ∧ d = '\\' then
          if startsWith isBreak after then .ok (text, true, c.skip.skipLine)
          else do
            let (e, c) ← c.readEscape start
            readQuotedRun quote start fuel (text ++ [e]) c
        else readQuotedRun quote start fuel (text ++ [d]) c.skip

/-- What separates two runs of a quoted or plain scalar. -/
structure Gap where
  /-- Blanks, as long as no line has ended. -/
  blanks : List Char
  /-- The line ends. -/
  ends : Fold
  /-- Whether a line has ended. -/
  broken : Bool

/-- The gap before anything has been read, in a line that may have ended already. -/
def Gap.start (broken : Bool) : Gap := ⟨[], ⟨[], []⟩, broken⟩

/-- What a gap becomes in the text of the scalar. -/
def Gap.joined (g : Gap) : List Char := if g.broken then g.ends.joined else g.blanks

/-- Reads blanks and line ends; a tab left of `indent` on a new line is refused. -/
def readGap (indent : Nat) (context : Option Context) :
    Nat → Gap → Cursor → Except Fault (Gap × Cursor)
  | 0, g, c => .ok (g, c)
  | fuel + 1, g, c =>
    match c.rest with
    | [] => .ok (g, c)
    | d :: _ =>
      if isBlank d then
        if g.broken ∧ c.mark.column < indent ∧ d = '\t' then
          .error (c.fault "found a tab character that violates indentation" context)
        else if g.broken then readGap indent context fuel g c.skip
        else readGap indent context fuel { g with blanks := g.blanks ++ [d] } c.skip
      else if isBreak d then
        let (kept, after) := c.readLineEnd
        if g.broken then
          readGap indent context fuel
            { g with ends := { g.ends with others := g.ends.others ++ kept } } after
        else readGap indent context fuel ⟨[], ⟨kept, []⟩, true⟩ after
      else .ok (g, c)

/-- The text of a quoted scalar from its first character on. -/
def readQuotedText (quote : Char) (start : Mark) :
    Nat → List Char → Cursor → Except Fault (List Char × Cursor)
  | 0, text, c => .ok (text, c)
  | fuel + 1, text, c =>
    if c.atDocumentMark then
      .error (c.fault "found unexpected document indicator" (quotedContext start))
    else if c.rest.isEmpty then
      .error (c.fault "found unexpected end of stream" (quotedContext start))
    else do
      let (run, broken, c) ← readQuotedRun quote start (c.rest.length + 1) [] c
      if startsWith (· = quote) c.rest then return (text ++ run, c.skip)
      else
        let (gap, c) ← readGap 0 none (c.rest.length + 1) (.start broken) c
        readQuotedText quote start fuel (text ++ run ++ gap.joined) c

/-- Reads a scalar between quotes. -/
def readQuoted (quote : Char) (c : Cursor) : Except Fault (Token × Cursor) := do
  let start := c.mark
  let (text, c) ← readQuotedText quote start (c.rest.length + 1) [] c.skip
  let style := if quote = '"' then ScalarStyle.doubleQuoted else .singleQuoted
  return (⟨.scalar (String.ofList text) style, start, c.mark⟩, c)

/-! ### Plain scalars -/

/-- The context of faults in a plain scalar. -/
def plainContext (start : Mark) : Option Context := some ⟨"while scanning a plain scalar", start⟩

/-- The characters that end a plain scalar inside brackets. -/
def isFlowMark (d : Char) : Bool :=
  d = ',' || d = '[' || d = ']' || d = '\x7b' || d = '\x7d'

/-- The characters of a plain scalar up to the next gap or indicator. -/
def readPlainRun (inFlow : Bool) (start : Mark) :
    Nat → List Char → Cursor → Except Fault (List Char × Cursor)
  | 0, text, c => .ok (text, c)
  | fuel + 1, text, c =>
    if atGap c.rest then .ok (text, c)
    else match c.rest with
      | [] => .ok (text, c)
      | d :: after =>
        if inFlow ∧ d = ':' ∧ startsWith (fun e => isFlowMark e || e = '?') after then
          .error (c.fault "found unexpected ':'" (plainContext start))
        else if d = ':' ∧ atGap after then .ok (text, c)
        else if inFlow ∧ isFlowMark d then .ok (text, c)
        else readPlainRun inFlow start fuel (text ++ [d]) c.skip

/-- The text of a plain scalar, its end, whether a line ended behind it, and the cursor.  `gap`
is what has been read since the last character of the text. -/
def readPlainText (inFlow : Bool) (indent : Nat) (start : Mark) :
    Nat → List Char → Gap → Mark → Cursor → Except Fault (List Char × Bool × Mark × Cursor)
  | 0, text, gap, stop, c => .ok (text, gap.broken, stop, c)
  | fuel + 1, text, gap, stop, c =>
    if c.atDocumentMark then .ok (text, gap.broken, stop, c)
    else if startsWith (· = '#') c.rest then .ok (text, gap.broken, stop, c)
    else do
      let (run, after) ← readPlainRun inFlow start (c.rest.length + 1) [] c
      let (text, gap, stop) :=
        if run.isEmpty then (text, gap, stop)
        else (text ++ gap.joined ++ run, Gap.start false, after.mark)
      if atGap after.rest ∧ !after.rest.isEmpty then
        let (gap, c) ← readGap indent (plainContext start) (after.rest.length + 1) gap after
        if !inFlow ∧ c.mark.column < indent then return (text, gap.broken, stop, c)
        else readPlainText inFlow indent start fuel text gap stop c
      else return (text, gap.broken, stop, after)

/-- Reads a plain scalar inside a collection with indentation `parent`; the answer also says
whether a line ended behind it. -/
def readPlain (inFlow : Bool) (parent : Int) (c : Cursor) :
    Except Fault (Token × Bool × Cursor) := do
  let start := c.mark
  let (text, broken, stop, c) ←
    readPlainText inFlow (parent + 1).toNat start (c.rest.length + 1) [] (.start false) start c
  return (⟨.scalar (String.ofList text) .plain, start, stop⟩, broken, c)

end Cursor

end GatewayOperator.Yaml
