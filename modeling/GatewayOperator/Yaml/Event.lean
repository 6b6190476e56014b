import GatewayOperator.Yaml.Token.Lexer

/-!
# From tokens to events

The events of a text say where each document, sequence and mapping begins and ends, and give every
scalar with its properties; what the indentation and the brackets meant is no longer visible.

## Main Definitions

* `Yaml.Event` — a boundary, a scalar or an alias.
* `Yaml.Parser.step` — the next event, from what the parser is in the middle of.
* `Yaml.Stream` — the events of a text and the fault, if any, that ends them.
* `Yaml.events` — parses a text.

## Design Notes

The parser keeps what it is in the middle of on a stack of `Expectation`s, and each step answers
one event.  Every token lets at most a handful of events appear, which bounds the number of steps.
-/

namespace GatewayOperator.Yaml

/-- The anchor and tag of a node. -/
structure Properties where
  /-- The name under which aliases refer to the node. -/
  anchor : Option String
  /-- The tag, with its handle replaced. -/
  tag : Option String
  deriving DecidableEq, Repr, Inhabited

/-- What an event is. -/
inductive EventKind where
  /-- The start of the text. -/
  | streamStart
  /-- The end of the text. -/
  | streamEnd
  /-- The start of a document. -/
  | documentStart
  /-- The end of a document. -/
  | documentEnd
  /-- A reference to an anchored node. -/
  | alias (name : String)
  /-- A scalar. -/
  | scalar (properties : Properties) (text : String) (style : ScalarStyle)
  /-- The start of a sequence. -/
  | sequenceStart (properties : Properties)
  /-- The end of a sequence. -/
  | sequenceEnd
  /-- The start of a mapping. -/
  | mappingStart (properties : Properties)
  /-- The end of a mapping. -/
  | mappingEnd
  deriving DecidableEq, Repr, Inhabited

/-- An event and where it begins. -/
structure Event where
  /-- What it is. -/
  kind : EventKind
  /-- Where it begins. -/
  mark : Mark
  deriving DecidableEq, Repr, Inhabited

/-- What the parser is in the middle of. -/
inductive Expectation where
  /-- The start of the text. -/
  | stream
  /-- The first document, which needs no mark. -/
  | firstDocument
  /-- A further document. -/
  | document
  /-- The node of a document whose mark has been read. -/
  | documentContent
  /-- The end of a document. -/
  | documentEnd
  /-- A node in block context. -/
  | blockNode
  /-- The next item of an indented sequence; `first` if its start is still to be skipped. -/
  | blockItem (first : Bool) (start : Mark)
  /-- The next item of a sequence at the indentation of its key. -/
  | indentlessItem
  /-- The next key of an indented mapping. -/
  | blockKey (first : Bool) (start : Mark)
  /-- The value of an indented mapping. -/
  | blockValue (start : Mark)
  /-- The next item of a bracketed sequence. -/
  | flowItem (first : Bool) (start : Mark)
  /-- The key of a pair that is an item of a bracketed sequence. -/
  | flowPairKey (start : Mark)
  /-- The value of such a pair. -/
  | flowPairValue (start : Mark)
  /-- The end of such a pair. -/
  | flowPairEnd (start : Mark)
  /-- The next key of a braced mapping. -/
  | flowKey (first : Bool) (start : Mark)
  /-- The value of a braced mapping; `empty` if its key had no mark. -/
  | flowValue (empty : Bool) (start : Mark)
  /-- Nothing. -/
  | nothing
  deriving Inhabited

/-- The state of parsing. -/
structure Parser where
  /-- The tokens still to be read. -/
  rest : List Token
  /-- The fault behind the last token. -/
  fault : Option Fault
  /-- What comes next. -/
  state : Expectation
  /-- What comes after it, from inside out. -/
  states : List Expectation
  /-- The meanings of the tag handles. -/
  handles : List (String × String)

/-- A step answers an event and the state behind it. -/
abbrev Step := Except Fault (Event × Parser)

namespace Parser

/-- The next token. -/
def peek (p : Parser) : Except Fault Token :=
  match p.rest with
  | token :: _ => .ok token
  | [] => .error (p.fault.getD .unfinished)

/-- Behind the next token. -/
def skip (p : Parser) : Parser := { p with rest := p.rest.tail }

/-- In the state that was put off last. -/
def pop (p : Parser) : Parser :=
  match p.states with
  | state :: states => { p with state, states }
  | [] => { p with state := .nothing }

/-- With a state put off. -/
def pushState (p : Parser) (state : Expectation) : Parser := { p with states := state :: p.states }

/-- In a given state. -/
def goto (p : Parser) (state : Expectation) : Parser := { p with state }

/-- An event that begins at a place. -/
def emit (p : Parser) (kind : EventKind) (mark : Mark) : Step := .ok (⟨kind, mark⟩, p)

/-- A node without properties. -/
def bare : Properties := ⟨none, none⟩

/-- The node that is left out at a place. -/
def emitEmpty (p : Parser) (mark : Mark) : Step := p.emit (.scalar bare "" .plain) mark

/-- The handles that need no directive. -/
def defaultHandles : List (String × String) := [("!", "!"), ("!!", "tag:yaml.org,2002:")]

/-- The fault at a token. -/
def complain (token : Token) (problem : String) (context : Option Context) : Fault :=
  .malformed problem token.start context

/-- The meaning of a tag. -/
def resolveTag (p : Parser) (handle suffix : String) (start mark : Mark) :
    Except Fault String :=
  if handle.isEmpty then .ok suffix
  else match p.handles.find? (·.1 = handle) with
    | some (_, expansion) => .ok (expansion ++ suffix)
    | none =>
      .error (.malformed "found undefined tag handle" mark (some ⟨"while parsing a node", start⟩))

/-- The properties before a node: an anchor and a tag in either order, each at most once. -/
def readProperties (p : Parser) : Except Fault (Properties × Parser) := do
  let first ← p.peek
  match first.kind with
  | .anchor name =>
    let p := p.skip
    let second ← p.peek
    match second.kind with
    | .tag handle suffix =>
      let p := p.skip
      let _ ← p.peek
      let tag ← p.resolveTag handle suffix first.start second.start
      return (⟨some name, some tag⟩, p)
    | _ => return (⟨some name, none⟩, p)
  | .tag handle suffix =>
    let p := p.skip
    let second ← p.peek
    match second.kind with
    | .anchor name =>
      let p := p.skip
      let _ ← p.peek
      let tag ← p.resolveTag handle suffix first.start first.start
      return (⟨some name, some tag⟩, p)
    | _ =>
      let tag ← p.resolveTag handle suffix first.start first.start
      return (⟨none, some tag⟩, p)
  | _ => return (bare, p)

/-- The tag of a scalar: a lone exclamation mark says nothing. -/
def scalarTag (tag : Option String) : Option String :=
  if tag = some "!" then none else tag

/-- A node whose properties stand alone is empty; without properties there is none. -/
def rejectOrEmpty (p : Parser) (first token : Token) (properties : Properties) (block : Bool) :
    Step :=
  if properties.anchor.isSome ∨ properties.tag.isSome then
    p.pop.emit (.scalar { properties with tag := scalarTag properties.tag } "" .plain) first.start
  else
    let activity := if block then "while parsing a block node" else "while parsing a flow node"
    .error (complain token "did not find expected node content" (some ⟨activity, first.start⟩))

/-- Parses a node.  An indented sequence may begin at its key's indentation if `indentless`. -/
def parseNode (p : Parser) (block indentless : Bool) : Step := do
  let first ← p.peek
  match first.kind with
  | .alias name => p.skip.pop.emit (.alias name) first.start
  | _ => do
    let (properties, p) ← p.readProperties
    let token ← p.peek
    match token.kind with
    | .blockEntry =>
      if indentless then (p.goto .indentlessItem).emit (.sequenceStart properties) first.start
      else p.rejectOrEmpty first token properties block
    | .scalar text style =>
      p.skip.pop.emit (.scalar { properties with tag := scalarTag properties.tag } text style)
        first.start
    | .flowSequenceStart =>
      (p.goto (.flowItem true token.start)).emit (.sequenceStart properties) first.start
    | .flowMappingStart =>
      (p.goto (.flowKey true token.start)).emit (.mappingStart properties) first.start
    | .blockSequenceStart =>
      if block then
        (p.goto (.blockItem true token.start)).emit (.sequenceStart properties) first.start
      else p.rejectOrEmpty first token properties block
    | .blockMappingStart =>
      if block then
        (p.goto (.blockKey true token.start)).emit (.mappingStart properties) first.start
      else p.rejectOrEmpty first token properties block
    | _ => p.rejectOrEmpty first token properties block

/-- Reads the directives before a document. -/
def readDirectives : Nat → Bool → List (String × String) → Parser →
    Except Fault (List (String × String) × Parser)
  | 0, _, own, p => .ok (own, p)
  | fuel + 1, versioned, own, p => do
    let token ← p.peek
    match token.kind with
    | .versionDirective major minor =>
      if versioned then throw (complain token "found duplicate %YAML directive" none)
      if major ≠ 1 ∨ (minor ≠ 1 ∧ minor ≠ 2) then
        throw (complain token "found incompatible YAML document" none)
      readDirectives fuel true own p.skip
    | .tagDirective handle expansion =>
      if own.any (·.1 = handle) then
        throw (complain token "found duplicate %TAG directive" none)
      readDirectives fuel versioned (own ++ [(handle, expansion)]) p.skip
    | _ => return (own, p)

/-- Whether a token belongs to the boundary of a document. -/
def isBoundary : TokenKind → Bool
  | .versionDirective .. | .tagDirective .. | .documentStart | .documentEnd | .streamEnd => true
  | _ => false

/-- Skips the marks behind a document. -/
def skipDocumentEnds : Nat → Parser → Except Fault Parser
  | 0, p => .ok p
  | fuel + 1, p => do
    let token ← p.peek
    if token.kind = .documentEnd then skipDocumentEnds fuel p.skip else return p

/-- The start of a document, or the end of the text; the first document needs no mark. -/
def parseDocument (p : Parser) (first : Bool) : Step := do
  let p ← if first then pure p else skipDocumentEnds (p.rest.length + 1) p
  let token ← p.peek
  if token.kind = .streamEnd then (p.skip.goto .nothing).emit .streamEnd token.start
  else if first ∧ (token.kind = .documentEnd ∨ !isBoundary token.kind) then
    let p := { p with handles := defaultHandles }
    ((p.pushState .documentEnd).goto .blockNode).emit .documentStart token.start
  else do
    let (own, p) ← readDirectives (p.rest.length + 1) false [] p
    let p := { p with handles := own ++ defaultHandles }
    let mark ← p.peek
    if mark.kind ≠ .documentStart then
      throw (complain mark "did not find expected <document start>" none)
    ((p.pushState .documentEnd).goto .documentContent).skip.emit .documentStart token.start

/-- The end of a document. -/
def parseDocumentEnd (p : Parser) : Step := do
  let token ← p.peek
  let p := if token.kind = .documentEnd then p.skip else p
  ({ p with handles := [] }.goto .document).emit .documentEnd token.start

/-- The node behind a dash, colon or question mark, unless a token satisfying `ends` follows. -/
def parseContent (p : Parser) (ends : TokenKind → Bool) (after : Expectation)
    (block indentless : Bool) (gap : Mark) : Step := do
  let token ← p.peek
  if ends token.kind then (p.goto after).emitEmpty gap
  else (p.pushState after).parseNode block indentless

/-- A token that ends an empty item of an indented sequence. -/
def endsBlockItem (kind : TokenKind) : Bool := kind = .blockEntry || kind = .blockEnd

/-- A token that ends an empty key or value of an indented mapping. -/
def endsBlockPair (kind : TokenKind) : Bool :=
  kind = .key || kind = .value || kind = .blockEnd

/-- The next item of an indented sequence. -/
def parseBlockItem (p : Parser) (start : Mark) : Step := do
  let token ← p.peek
  if token.kind = .blockEntry then
    p.skip.parseContent endsBlockItem (.blockItem false start) true false token.stop
  else if token.kind = .blockEnd then p.skip.pop.emit .sequenceEnd token.start
  else throw (complain token "did not find expected '-' indicator"
    (some ⟨"while parsing a block collection", start⟩))

/-- The next item of a sequence at the indentation of its key. -/
def parseIndentlessItem (p : Parser) : Step := do
  let token ← p.peek
  if token.kind = .blockEntry then
    p.skip.parseContent (fun kind => endsBlockItem kind || endsBlockPair kind) .indentlessItem
      true false token.stop
  else p.pop.emit .sequenceEnd token.start

/-- The next key of an indented mapping. -/
def parseBlockKey (p : Parser) (start : Mark) : Step := do
  let token ← p.peek
  if token.kind = .key then
    p.skip.parseContent endsBlockPair (.blockValue start) true true token.stop
  else if token.kind = .blockEnd then p.skip.pop.emit .mappingEnd token.start
  else throw (complain token "did not find expected key"
    (some ⟨"while parsing a block mapping", start⟩))

/-- The value of an indented mapping. -/
def parseBlockValue (p : Parser) (start : Mark) : Step := do
  let token ← p.peek
  if token.kind = .value then
    p.skip.parseContent endsBlockPair (.blockKey false start) true true token.stop
  else (p.goto (.blockKey false start)).emitEmpty token.start

/-- A token that ends an empty part of a pair in a bracketed sequence. -/
def endsFlowPair (kind : TokenKind) : Bool := kind = .flowEntry || kind = .flowSequenceEnd

/-- A token that ends an empty part of a braced mapping. -/
def endsFlowEntry (kind : TokenKind) : Bool := kind = .flowEntry || kind = .flowMappingEnd

/-- Behind the comma that has to stand before an item other than the first. -/
def skipComma (p : Parser) (first : Bool) (problem activity : String) (start : Mark) :
    Except Fault Parser := do
  let token ← p.peek
  if first then return p
  else if token.kind = .flowEntry then return p.skip
  else throw (complain token problem (some ⟨activity, start⟩))

/-- The next item of a bracketed sequence. -/
def parseFlowItem (p : Parser) (first : Bool) (start : Mark) : Step := do
  let p := if first then p.skip else p
  let token ← p.peek
  if token.kind = .flowSequenceEnd then p.skip.pop.emit .sequenceEnd token.start
  else do
    let p ← p.skipComma first "did not find expected ',' or ']'"
      "while parsing a flow sequence" start
    let token ← p.peek
    if token.kind = .key then
      (p.skip.goto (.flowPairKey start)).emit (.mappingStart bare) token.start
    else if token.kind = .flowSequenceEnd then p.skip.pop.emit .sequenceEnd token.start
    else (p.pushState (.flowItem false start)).parseNode false false

/-- The key of a pair in a bracketed sequence.  The token that stands in place of a missing key is
taken with it. -/
def parseFlowPairKey (p : Parser) (start : Mark) : Step := do
  let token ← p.peek
  if token.kind = .value ∨ endsFlowPair token.kind then
    (p.skip.goto (.flowPairValue start)).emitEmpty token.stop
  else (p.pushState (.flowPairValue start)).parseNode false false

/-- The value of a pair in a bracketed sequence. -/
def parseFlowPairValue (p : Parser) (start : Mark) : Step := do
  let token ← p.peek
  if token.kind = .value then do
    let p := p.skip
    let token ← p.peek
    p.parseContent endsFlowPair (.flowPairEnd start) false false token.start
  else (p.goto (.flowPairEnd start)).emitEmpty token.start

/-- The next key of a braced mapping. -/
def parseFlowKey (p : Parser) (first : Bool) (start : Mark) : Step := do
  let p := if first then p.skip else p
  let token ← p.peek
  if token.kind = .flowMappingEnd then p.skip.pop.emit .mappingEnd token.start
  else do
    let p ← p.skipComma first "did not find expected ',' or '\x7d'"
      "while parsing a flow mapping" start
    let token ← p.peek
    if token.kind = .key then do
      let p := p.skip
      let token ← p.peek
      p.parseContent (fun kind => kind = .value || endsFlowEntry kind) (.flowValue false start)
        false false token.start
    else if token.kind = .flowMappingEnd then p.skip.pop.emit .mappingEnd token.start
    else (p.pushState (.flowValue true start)).parseNode false false

/-- The value of a braced mapping. -/
def parseFlowValue (p : Parser) (empty : Bool) (start : Mark) : Step := do
  let token ← p.peek
  if !empty ∧ token.kind = .value then do
    let p := p.skip
    let token ← p.peek
    p.parseContent endsFlowEntry (.flowKey false start) false false token.start
  else (p.goto (.flowKey false start)).emitEmpty token.start

/-- The next event. -/
def step (p : Parser) : Step :=
  match p.state with
  | .stream => do
    let token ← p.peek
    (p.skip.goto .firstDocument).emit .streamStart token.start
  | .firstDocument => p.parseDocument true
  | .document => p.parseDocument false
  | .documentContent => do
    let token ← p.peek
    if isBoundary token.kind then p.pop.emitEmpty token.start else p.parseNode true false
  | .documentEnd => p.parseDocumentEnd
  | .blockNode => p.parseNode true false
  | .blockItem first start => (if first then p.skip else p).parseBlockItem start
  | .indentlessItem => p.parseIndentlessItem
  | .blockKey first start => (if first then p.skip else p).parseBlockKey start
  | .blockValue start => p.parseBlockValue start
  | .flowItem first start => p.parseFlowItem first start
  | .flowPairKey start => p.parseFlowPairKey start
  | .flowPairValue start => p.parseFlowPairValue start
  | .flowPairEnd start => do
    let token ← p.peek
    (p.goto (.flowItem false start)).emit .mappingEnd token.start
  | .flowKey first start => p.parseFlowKey first start
  | .flowValue empty start => p.parseFlowValue empty start
  | .nothing => .error .unfinished

end Parser

/-- The events of a text and the fault, if any, that ends them. -/
structure Stream where
  /-- The events. -/
  events : List Event
  /-- Why there are no more. -/
  fault : Option Fault
  deriving Inhabited

/-- Puts an event in front. -/
def Stream.cons (event : Event) (s : Stream) : Stream := { s with events := event :: s.events }

/-- The events from a state on. -/
def Parser.run : Nat → Parser → Stream
  | 0, _ => ⟨[], some .unfinished⟩
  | fuel + 1, p =>
    match p.step with
    | .error fault => ⟨[], some fault⟩
    | .ok (event, next) =>
      if event.kind = .streamEnd then ⟨[event], none⟩ else (next.run fuel).cons event

/-- The events of a text. -/
def events (text : String) : Stream :=
  let lexed := tokens text
  Parser.run (6 * lexed.tokens.length + 8) ⟨lexed.tokens, lexed.fault, .stream, [], []⟩

end GatewayOperator.Yaml
