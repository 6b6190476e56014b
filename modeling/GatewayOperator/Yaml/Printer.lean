import GatewayOperator.Yaml.Style
import GatewayOperator.Yaml.Value

/-!
# Writing configuration text

## Main Definitions

* `Yaml.Pen` — the text so far and the place at which it ends.
* `Yaml.Value.put` — writes a value in block style.
* `Yaml.Value.render` — the text of a value as a document.

## Design Notes

A collection indents by two columns, except that a sequence under a key begins at the column of the
key.  A new line is begun only where the current one holds more than indentation and dashes, which
is how a nested item comes to stand on the line of its dash.
-/

namespace GatewayOperator.Yaml

/-- The text so far and the place at which it ends. -/
structure Pen where
  /-- The text so far. -/
  out : String
  /-- The number of characters in the current line. -/
  column : Nat
  /-- Whether the text ends with a blank, as far as separation is concerned. -/
  spaced : Bool
  /-- Whether the current line holds only indentation and indicators of items and keys. -/
  indenting : Bool

namespace Pen

/-- Nothing written yet. -/
def start : Pen := ⟨"", 0, true, true⟩

/-- Writes a character. -/
def put (p : Pen) (c : Char) : Pen :=
  { p with out := p.out.push c, column := if isBreak c then 0 else p.column + 1 }

/-- Writes some characters. -/
def putAll (p : Pen) (cs : List Char) : Pen := cs.foldl put p

/-- Begins a new line unless the current one can still be indented, and fills it up to `indent`. -/
def indentTo (p : Pen) (indent : Nat) : Pen :=
  let p := if !p.indenting ∨ indent < p.column ∨ (p.column = indent ∧ !p.spaced) then p.put '\n'
    else p
  let p := p.putAll (List.replicate (indent - p.column) ' ')
  { p with spaced := true, indenting := true }

/-- Writes an indicator, behind a blank if it needs one. -/
def indicator (p : Pen) (mark : List Char) (needsSpace indenting : Bool) : Pen :=
  let p := if needsSpace ∧ !p.spaced then p.put ' ' else p
  { p.putAll mark with spaced := false, indenting := p.indenting && indenting }

/-- Writes the two brackets of an empty collection. -/
def brackets (p : Pen) (opening closing : Char) : Pen :=
  (p.indicator [opening] true false).indicator [closing] false false

/-- Behind the text of a scalar. -/
def endScalar (p : Pen) : Pen := { p with spaced := false, indenting := false }

/-- Writes text whose line ends stand for themselves, doubling the first line feed of a run, as a
reader folds it. `quote` is doubled too. -/
def putFolded (quote : Option Char) (indent : Nat) : Bool → List Char → Pen → Bool × Pen
  | broken, [], p => (broken, p)
  | broken, c :: rest, p =>
    if c = ' ' then putFolded quote indent broken rest (p.put c)
    else if isBreak c then
      let p := if !broken ∧ c = '\n' then p.put '\n' else p
      putFolded quote indent true rest { p.put c with indenting := true }
    else
      let p := if broken then p.indentTo indent else p
      let p := if quote = some c then p.put c else p
      putFolded quote indent false rest { p.put c with indenting := false }

/-- Writes a text without quotes. -/
def putPlain (p : Pen) (indent : Nat) (cs : List Char) : Pen :=
  let p := if p.spaced then p else p.put ' '
  (putFolded none indent false cs p).2.endScalar

/-- Writes a text between apostrophes. -/
def putSingleQuoted (p : Pen) (indent : Nat) (cs : List Char) : Pen :=
  let (broken, p) := putFolded (some '\'') indent false cs (p.indicator ['\''] true false)
  let p := if broken then p.indentTo indent else p
  (p.indicator ['\''] false false).endScalar

/-- The digits of a number in base sixteen, at least `width` of them. -/
def hexDigits (width n : Nat) : List Char :=
  let digits := (Nat.toDigits 16 n).map Char.toUpper
  List.replicate (width - digits.length) '0' ++ digits

/-- The escape of a character. -/
def escape (c : Char) : List Char :=
  match c.toNat with
  | 0 => ['\\', '0']
  | 7 => ['\\', 'a']
  | 8 => ['\\', 'b']
  | 9 => ['\\', 't']
  | 10 => ['\\', 'n']
  | 11 => ['\\', 'v']
  | 12 => ['\\', 'f']
  | 13 => ['\\', 'r']
  | 27 => ['\\', 'e']
  | 34 => ['\\', '"']
  | 92 => ['\\', '\\']
  | 0x85 => ['\\', 'N']
  | 0xA0 => ['\\', '_']
  | 0x2028 => ['\\', 'L']
  | 0x2029 => ['\\', 'P']
  | n =>
    if n ≤ 0xFF then '\\' :: 'x' :: hexDigits 2 n
    else if n ≤ 0xFFFF then '\\' :: 'u' :: hexDigits 4 n
    else '\\' :: 'U' :: hexDigits 8 n

/-- Writes a text between quotation marks. -/
def putDoubleQuoted (p : Pen) (cs : List Char) : Pen :=
  let body := cs.flatMap fun c =>
    if !isPrintable c || isBreak c || c = '"' || c = '\\' then escape c else [c]
  (((p.indicator ['"'] true false).putAll body).indicator ['"'] false false).endScalar

/-- The indicators of a literal scalar: its indentation where the text begins with a gap, and what
becomes of the line ends behind it. -/
def literalHints (cs : List Char) : List Char :=
  let indent := if startsWith (fun c => c = ' ' || isBreak c) cs then ['2'] else []
  let chomping := match cs.reverse with
    | [] => ['-']
    | last :: before =>
      if !isBreak last then ['-']
      else match before with
        | [] => ['+']
        | c :: _ => if isBreak c then ['+'] else []
  indent ++ chomping

/-- Writes the lines of a literal scalar. -/
def putLines (indent : Nat) : Bool → List Char → Pen → Pen
  | _, [], p => p
  | broken, c :: rest, p =>
    if isBreak c then putLines indent true rest { p.put c with indenting := true }
    else
      let p := if broken then p.indentTo indent else p
      putLines indent false rest { p.put c with indenting := false }

/-- Writes a text as literal lines. -/
def putLiteral (p : Pen) (indent : Nat) (cs : List Char) : Pen :=
  let p := (p.indicator ['|'] true false).indicator (literalHints cs) false false
  putLines indent true cs { p.put '\n' with indenting := true, spaced := true }

end Pen

/-- The column of the scalars in a collection; there is none around the document. -/
def scalarIndent (indent : Option Nat) : Nat := (indent.map (· + 2)).getD 2

/-- Writes a scalar. -/
def putScalar (scalar : Scalar) (indent : Option Nat) (simpleKey : Bool) (p : Pen) : Pen :=
  let cs := scalar.text.toList
  match scalarStyle scalar simpleKey with
  | .plain => p.putPlain (scalarIndent indent) cs
  | .singleQuoted => p.putSingleQuoted (scalarIndent indent) cs
  | .literal => p.putLiteral (scalarIndent indent) cs
  | _ => p.putDoubleQuoted cs

namespace Value

/-- Whether a value stands on the line of its colon when it is a key. -/
def isSimple : Value → Bool
  | .scalar leaf => isSimpleKey leaf
  | .sequence items => items.isEmpty
  | .mapping pairs => pairs.isEmpty

mutual

/-- Writes a value inside a collection at column `indent`; `underKey` if it belongs to a key. -/
def put (value : Value) (indent : Option Nat) (underKey simpleKey : Bool) (p : Pen) : Pen :=
  match value with
  | .scalar leaf => putScalar leaf indent simpleKey p
  | .sequence [] => p.brackets '[' ']'
  | .sequence (item :: items) =>
    let column := match indent with
      | none => 0
      | some n => if underKey ∧ !p.indenting then n else n + 2
    putItems (item :: items) column p
  | .mapping [] => p.brackets '\x7b' '\x7d'
  | .mapping (pair :: pairs) =>
    putPairs (pair :: pairs) ((indent.map (· + 2)).getD 0) p

/-- Writes the items of a sequence at a column. -/
def putItems : List Value → Nat → Pen → Pen
  | [], _, p => p
  | item :: rest, column, p =>
    let p := (p.indentTo column).indicator ['-'] true true
    putItems rest column (item.put (some column) false false p)

/-- Writes the pairs of a mapping at a column. -/
def putPairs : List (Value × Value) → Nat → Pen → Pen
  | [], _, p => p
  | (key, value) :: rest, column, p =>
    let p := p.indentTo column
    let p :=
      if key.isSimple then
        (key.put (some column) true true p).indicator [':'] false false
      else
        let p := key.put (some column) true false (p.indicator ['?'] true true)
        (p.indentTo column).indicator [':'] true true
    putPairs rest column (value.put (some column) true false p)

end

/-- The text of a value as a document. -/
def render (value : Value) : String := ((value.put none false false .start).indentTo 0).out

end Value

end GatewayOperator.Yaml
