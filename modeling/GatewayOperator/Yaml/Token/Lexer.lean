import GatewayOperator.Yaml.Token.Property

/-!
# From text to tokens

Indentation and the places of keys are settled while the tokens are read: a key is recognised only
by the colon behind it, so the tokens that announce it are put in front of it afterwards.

## Main Definitions

* `Yaml.Lexer` — the cursor, the open collections and the keys that may still turn up.
* `Yaml.Lexer.next` — reads one more token.
* `Yaml.Tokens` — the tokens of a text and the fault, if any, that ends them.
* `Yaml.tokens` — lexes a text.

## Design Notes

A reader of the tokens is handed a token only when it is certain that no key begins at it.  So a
fault takes with it the tokens from the first place on at which a key was still possible when the
faulty token was begun; `Lexer.settled` is the number of tokens before that place.
-/

namespace GatewayOperator.Yaml

/-- A place at which a key may turn out to begin. -/
structure KeyPlace where
  /-- Whether nothing but a key may stand here. -/
  required : Bool
  /-- The number of tokens before it. -/
  tokenNumber : Nat
  /-- The place. -/
  mark : Mark

/-- The state of reading tokens. -/
structure Lexer where
  /-- The characters still to be read. -/
  cursor : Cursor
  /-- The tokens so far. -/
  tokens : Array Token
  /-- The indentation of the innermost block collection. -/
  indent : Int
  /-- The indentations around it, from inside out. -/
  outer : List Int
  /-- For each open bracket, from inside out, and for the block context at last, the place at
  which a key may begin. -/
  keys : List (Option KeyPlace)
  /-- Whether a key may begin at the cursor. -/
  keyAllowed : Bool

namespace Lexer

/-- The start of a text. -/
def start (cs : List Char) : Lexer :=
  { cursor := ⟨cs, .start⟩
    tokens := #[⟨.streamStart, .start, .start⟩]
    indent := -1
    outer := []
    keys := [none]
    keyAllowed := true }

/-- The number of open brackets. -/
def flowLevel (l : Lexer) : Nat := l.keys.length - 1

/-- Whether a bracket is open. -/
def inFlow (l : Lexer) : Bool := 0 < l.flowLevel

/-- The longest key that is recognised by its colon, in characters. -/
def keyLimit : Nat := 1024

/-- The fault of a place at which a key had to stand. -/
def missingColon (place : Mark) (at_ : Mark) : Fault :=
  .malformed "could not find expected ':'" at_ (some ⟨"while scanning a simple key", place⟩)

/-- Gives up a place that lies on an earlier line or too far back. -/
def expireKey (at_ : Mark) : Option KeyPlace → Except Fault (Option KeyPlace)
  | none => .ok none
  | some key =>
    if key.mark.line < at_.line ∨ key.mark.index + keyLimit < at_.index then
      if key.required then .error (missingColon key.mark at_) else .ok none
    else .ok (some key)

/-- Gives up the places that have become impossible, from outside in. -/
def expireKeys (l : Lexer) : Except Fault Lexer := do
  let keys ← l.keys.reverse.mapM (expireKey l.cursor.mark)
  return { l with keys := keys.reverse }

/-- Gives up the innermost place. -/
def removeKey (l : Lexer) : Except Fault Lexer :=
  match l.keys with
  | some key :: rest =>
    if key.required then .error (missingColon key.mark l.cursor.mark)
    else .ok { l with keys := none :: rest }
  | _ => .ok l

/-- Notes that a key may begin at the cursor, if one is allowed there. -/
def saveKey (l : Lexer) : Except Fault Lexer :=
  if l.keyAllowed then do
    let required := !l.inFlow && l.indent = (l.cursor.mark.column : Int)
    let l ← l.removeKey
    return { l with keys := some ⟨required, l.tokens.size, l.cursor.mark⟩ :: l.keys.tail }
  else .ok l

/-- The number of tokens before the first place at which a key may still begin. -/
def settled (l : Lexer) : Nat :=
  l.keys.foldl (fun least key => match key with
    | some key => min least key.tokenNumber
    | none => least) l.tokens.size

/-- Adds a token. -/
def push (l : Lexer) (kind : TokenKind) (start stop : Mark) : Lexer :=
  { l with tokens := l.tokens.push ⟨kind, start, stop⟩ }

/-- Puts a token behind the first `n` tokens. -/
def insertAt (l : Lexer) (n : Nat) (kind : TokenKind) (mark : Mark) : Lexer :=
  { l with
    tokens := (l.tokens.extract 0 n).push ⟨kind, mark, mark⟩ ++ l.tokens.extract n l.tokens.size }

/-- Adds the token of the next `width` characters. -/
def pushMark (l : Lexer) (kind : TokenKind) (width : Nat) : Lexer :=
  let after := l.cursor.skipMany width
  { l.push kind l.cursor.mark after.mark with cursor := after }

/-- Opens a block collection if the column is beyond the indentation; its token goes behind the
first `n` tokens. -/
def indentTo (l : Lexer) (column n : Nat) (kind : TokenKind) (mark : Mark) : Lexer :=
  if !l.inFlow ∧ l.indent < column then
    { l.insertAt n kind mark with indent := column, outer := l.indent :: l.outer }
  else l

/-- Closes the block collections whose indentation, given from inside out, is beyond the column. -/
def unindent (column : Int) (mark : Mark) :
    Array Token → Int → List Int → Array Token × Int × List Int
  | tokens, indent, [] => (tokens, indent, [])
  | tokens, indent, next :: outer =>
    if column < indent then unindent column mark (tokens.push ⟨.blockEnd, mark, mark⟩) next outer
    else (tokens, indent, next :: outer)

/-- Closes the block collections that end before the column. -/
def unindentTo (l : Lexer) (column : Int) : Lexer :=
  if l.inFlow then l
  else
    let (tokens, indent, outer) := unindent column l.cursor.mark l.tokens l.indent l.outer
    { l with tokens, indent, outer }

/-- Skips blanks, comments and line ends.  Tabs count as blanks only where no key may begin. -/
def skipGaps : Nat → Lexer → Lexer
  | 0, l => l
  | fuel + 1, l =>
    let c := l.cursor
    let c := if c.mark.index = 0 ∧ startsWith (·.toNat = 0xFEFF) c.rest then c.skip else c
    let tabs := l.inFlow || !l.keyAllowed
    let c := (c.skipWhile fun d => d = ' ' || (tabs && d = '\t')).skipComment
    if startsWith isBreak c.rest then
      skipGaps fuel { l with cursor := c.skipLine, keyAllowed := l.keyAllowed || !l.inFlow }
    else { l with cursor := c }

/-- Closes everything at the boundary of a document. -/
def closeAll (l : Lexer) : Except Fault Lexer := do
  let l ← (l.unindentTo (-1)).removeKey
  return { l with keyAllowed := false }

/-- The end of the text. -/
def readEnd (l : Lexer) : Except Fault Lexer := do
  let m := l.cursor.mark
  let mark := if m.column = 0 then m else ⟨m.index, m.line + 1, 0⟩
  let l ← { l with cursor := { l.cursor with mark } }.closeAll
  return l.push .streamEnd mark mark

/-- A directive. -/
def readDirective (l : Lexer) : Except Fault Lexer := do
  let l ← l.closeAll
  let (token, cursor) ← l.cursor.readDirective
  return { l with tokens := l.tokens.push token, cursor }

/-- A mark between documents. -/
def readDocumentMark (l : Lexer) (kind : TokenKind) : Except Fault Lexer := do
  return (← l.closeAll).pushMark kind 3

/-- An opening bracket. -/
def readOpen (l : Lexer) (kind : TokenKind) : Except Fault Lexer := do
  let l ← l.saveKey
  return { l with keys := none :: l.keys, keyAllowed := true }.pushMark kind 1

/-- A closing bracket. -/
def readClose (l : Lexer) (kind : TokenKind) : Except Fault Lexer := do
  let l ← l.removeKey
  let keys := match l.keys with
    | _ :: next :: rest => next :: rest
    | keys => keys
  return { l with keys, keyAllowed := false }.pushMark kind 1

/-- A comma. -/
def readFlowEntry (l : Lexer) : Except Fault Lexer := do
  let l ← l.removeKey
  return { l with keyAllowed := true }.pushMark .flowEntry 1

/-- Opens a block collection at the cursor, where one has to be allowed. -/
def openBlock (l : Lexer) (kind : TokenKind) (problem : String) : Except Fault Lexer :=
  if l.inFlow then .ok l
  else if !l.keyAllowed then .error (l.cursor.fault problem none)
  else .ok (l.indentTo l.cursor.mark.column l.tokens.size kind l.cursor.mark)

/-- A dash before an item. -/
def readBlockEntry (l : Lexer) : Except Fault Lexer := do
  let l ← l.openBlock .blockSequenceStart
    "block sequence entries are not allowed in this context"
  let l ← l.removeKey
  return { l with keyAllowed := true }.pushMark .blockEntry 1

/-- A question mark before a key. -/
def readKey (l : Lexer) : Except Fault Lexer := do
  let l ← l.openBlock .blockMappingStart "mapping keys are not allowed in this context"
  let l ← l.removeKey
  return { l with keyAllowed := !l.inFlow }.pushMark .key 1

/-- A colon before a value; the key before it, if there is one, is announced now. -/
def readValue (l : Lexer) : Except Fault Lexer :=
  match l.keys with
  | some key :: rest =>
    let l := l.insertAt key.tokenNumber .key key.mark
    let l := l.indentTo key.mark.column key.tokenNumber .blockMappingStart key.mark
    .ok ({ l with keys := none :: rest, keyAllowed := false }.pushMark .value 1)
  | _ => do
    let l ← l.openBlock .blockMappingStart "mapping values are not allowed in this context"
    return { l with keyAllowed := !l.inFlow }.pushMark .value 1

/-- A token that can begin a key and is read by `read`. -/
def readSimple (l : Lexer) (read : Cursor → Except Fault (Token × Cursor)) :
    Except Fault Lexer := do
  let l ← l.saveKey
  let (token, cursor) ← read l.cursor
  return { l with tokens := l.tokens.push token, cursor, keyAllowed := false }

/-- A block scalar. -/
def readBlockScalar (l : Lexer) (literal : Bool) : Except Fault Lexer := do
  let l ← l.removeKey
  let (token, cursor) ← l.cursor.readBlockScalar literal l.indent
  return { l with tokens := l.tokens.push token, cursor, keyAllowed := true }

/-- A plain scalar; a key may begin behind it only on a new line. -/
def readPlain (l : Lexer) : Except Fault Lexer := do
  let l ← l.saveKey
  let (token, broken, cursor) ← l.cursor.readPlain l.inFlow l.indent
  return { l with tokens := l.tokens.push token, cursor, keyAllowed := broken }

/-- The marks that cannot begin a plain scalar. -/
def isIndicator (c : Char) : Bool :=
  "-?:,[]\x7b\x7d#&*!|>'\"%@\x60".toList.contains c

/-- Reads the token at the cursor, which stands behind all gaps. -/
def readToken (l : Lexer) : Except Fault Lexer :=
  let c := l.cursor
  match c.rest with
  | [] => l.readEnd
  | d :: after =>
    let gapAfter := atGap after
    if c.mark.column = 0 ∧ d = '%' then l.readDirective
    else if c.atDocumentMark then
      l.readDocumentMark (if d = '-' then .documentStart else .documentEnd)
    else if d = '[' then l.readOpen .flowSequenceStart
    else if d = '\x7b' then l.readOpen .flowMappingStart
    else if d = ']' then l.readClose .flowSequenceEnd
    else if d = '\x7d' then l.readClose .flowMappingEnd
    else if d = ',' then l.readFlowEntry
    else if d = '-' ∧ gapAfter then l.readBlockEntry
    else if d = '?' ∧ (l.inFlow ∨ gapAfter) then l.readKey
    else if d = ':' ∧ (l.inFlow ∨ gapAfter) then l.readValue
    else if d = '*' then l.readSimple (·.readName true)
    else if d = '&' then l.readSimple (·.readName false)
    else if d = '!' then l.readSimple (·.readTag l.inFlow)
    else if d = '|' ∧ !l.inFlow then l.readBlockScalar true
    else if d = '>' ∧ !l.inFlow then l.readBlockScalar false
    else if d = '\'' ∨ d = '"' then l.readSimple (·.readQuoted d)
    else if !(isBlank d || isBreak d || isIndicator d) ∨ (d = '-' ∧ !gapAfter) ∨
        (!l.inFlow ∧ (d = '?' ∨ d = ':') ∧ !gapAfter) then l.readPlain
    else
      .error (c.fault "found character that cannot start any token"
        (some ⟨"while scanning for the next token", c.mark⟩))

/-- Reads one more token. -/
def next (l : Lexer) : Except Fault Lexer := do
  let l ← (l.skipGaps (l.cursor.rest.length + 1)).expireKeys
  (l.unindentTo l.cursor.mark.column).readToken

end Lexer

/-- The tokens of a text and the fault, if any, that ends them. -/
structure Tokens where
  /-- The tokens. -/
  tokens : List Token
  /-- Why there are no more. -/
  fault : Option Fault
  deriving Inhabited

/-- Whether the end of the text has been read. -/
def Lexer.ended (l : Lexer) : Bool :=
  match l.tokens.back? with
  | some token => token.kind = .streamEnd
  | none => false

/-- Reads tokens to the end of the text. -/
def Lexer.run : Nat → Lexer → Tokens
  | 0, l => ⟨l.tokens.toList, some .unfinished⟩
  | fuel + 1, l =>
    if l.ended then ⟨l.tokens.toList, none⟩
    else
      match l.expireKeys with
      | .error fault => ⟨(l.tokens.extract 0 l.settled).toList, some fault⟩
      | .ok l =>
        match l.next with
        | .error fault => ⟨(l.tokens.extract 0 l.settled).toList, some fault⟩
        | .ok after => after.run fuel

/-- Whether a character may occur in a document. -/
def isAllowed (c : Char) : Bool :=
  let n := c.toNat
  n = 9 || n = 10 || n = 13 || (0x20 ≤ n && n ≤ 0x7E) || n = 0x85 || (0xA0 ≤ n && n ≤ 0xD7FF) ||
    (0xE000 ≤ n && n ≤ 0xFFFD) || 0x10000 ≤ n

/-- The tokens of a text; a forbidden character anywhere leaves none. -/
def tokens (text : String) : Tokens :=
  let cs := text.toList
  match cs.find? fun c => !isAllowed c with
  | some c =>
    let before := cs.takeWhile isAllowed
    ⟨[], some (.forbidden c.toNat (String.ofList before).utf8ByteSize)⟩
  | none => (Lexer.start cs).run (cs.length + 3)

end GatewayOperator.Yaml
