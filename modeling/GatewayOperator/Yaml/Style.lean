import GatewayOperator.Yaml.Cursor
import GatewayOperator.Yaml.Resolution
import GatewayOperator.Yaml.Token

/-!
# Choosing how a scalar is written

## Main Definitions

* `Yaml.Traits` — what the characters of a text rule out.
* `Yaml.Traits.ofText` — the traits of a text.
* `Yaml.scalarStyle` — the style in which a scalar is written.
* `Yaml.isSimpleKey` — whether a key fits on the line of its value.

## Design Notes

A text that would be read back as another type is put between apostrophes, and one with line
feeds is written as literal lines.  The traits then rule styles out, and what is left over is
written between quotation marks, which can hold every text.
-/

namespace GatewayOperator.Yaml

/-- Whether a character can be written as itself outside escapes. -/
def isPrintable (c : Char) : Bool :=
  let n := c.toNat
  n = 0x0A || (0x20 ≤ n && n ≤ 0x7E) || (0xA0 ≤ n && n ≤ 0xD7FF) ||
    (0xE000 ≤ n && n ≤ 0xFFFD && n ≠ 0xFEFF) || 0x10000 ≤ n

/-- A gap character: a blank, a line end or the character zero. -/
def isGap (c : Char) : Bool := isBlank c || isBreak c || c.toNat = 0

/-- What the characters of a text rule out. -/
structure Traits where
  /-- An indicator stands where it would be read as one. -/
  indicator : Bool
  /-- There is a line end. -/
  multiline : Bool
  /-- A character cannot be written as itself. -/
  special : Bool
  /-- There is a space or line end at one of the ends. -/
  padded : Bool
  /-- There is a space at the end. -/
  trailingSpace : Bool
  /-- A space follows a line end. -/
  breakSpace : Bool
  /-- A line end follows a space. -/
  spaceBreak : Bool
  deriving Repr

/-- The characters that are indicators at the start of a scalar. -/
def isLeadingIndicator (c : Char) : Bool :=
  "#,[]\x7b\x7d&*!|>'\"%@\x60".toList.contains c

/-- Whether the first character of a text is read as an indicator. -/
def startsWithIndicator : List Char → Bool
  | [] => false
  | '-' :: '-' :: '-' :: _ => true
  | '.' :: '.' :: '.' :: _ => true
  | c :: rest =>
    isLeadingIndicator c ||
      ((c = '?' || c = ':' || c = '-') && (rest.isEmpty || startsWith isGap rest))

/-- Whether a colon before a gap or a number sign after one stands behind the first character. -/
def holdsIndicator : List Char → Bool
  | a :: b :: rest =>
    (b = ':' && (rest.isEmpty || startsWith isGap rest)) || (b = '#' && isGap a) ||
      holdsIndicator (b :: rest)
  | _ => false

/-- Whether a character satisfying `p` is followed by one satisfying `q`. -/
def holdsPair (p q : Char → Bool) : List Char → Bool
  | a :: b :: rest => (p a && q b) || holdsPair p q (b :: rest)
  | _ => false

/-- The traits of a text. -/
def Traits.ofText (s : String) : Traits :=
  let cs := s.toList
  let isSpace : Char → Bool := fun c => c = ' '
  let atEnds := [cs.head?, cs.getLast?].filterMap id
  { indicator := startsWithIndicator cs || holdsIndicator cs
    multiline := cs.any isBreak
    special := cs.any fun c => !isPrintable c
    padded := atEnds.any fun c => isSpace c || isBreak c
    trailingSpace := cs.getLast? = some ' '
    breakSpace := holdsPair isBreak isSpace cs
    spaceBreak := holdsPair isSpace isBreak cs }

/-- Whether a text may stand without quotes. -/
def Traits.plainAllowed (t : Traits) : Bool :=
  !(t.indicator || t.multiline || t.special || t.padded || t.breakSpace || t.spaceBreak)

/-- Whether a text may stand between apostrophes. -/
def Traits.singleQuotedAllowed (t : Traits) : Bool := !(t.special || t.breakSpace || t.spaceBreak)

/-- Whether a text may stand as literal lines. -/
def Traits.literalAllowed (t : Traits) : Bool :=
  !(t.special || t.spaceBreak || t.trailingSpace)

/-- The style asked for a scalar before its traits are looked at. -/
def wantedStyle : Scalar → ScalarStyle
  | .string s =>
    if s.toList.contains '\n' then .literal
    else if resolve s = some (.string s) ∧ !hasIdleZeros s.toList then .plain
    else .singleQuoted
  | _ => .plain

/-- The style in which a scalar is written. -/
def scalarStyle (scalar : Scalar) (simpleKey : Bool) : ScalarStyle :=
  let text := scalar.text
  let traits := Traits.ofText text
  let wanted := if simpleKey && traits.multiline then ScalarStyle.doubleQuoted
    else wantedStyle scalar
  match wanted with
  | .plain =>
    if traits.plainAllowed ∧ !(text.isEmpty ∧ simpleKey) then .plain
    else if traits.singleQuotedAllowed then .singleQuoted
    else .doubleQuoted
  | .singleQuoted => if traits.singleQuotedAllowed then .singleQuoted else .doubleQuoted
  | .literal =>
    if traits.literalAllowed ∧ !text.isEmpty ∧ !simpleKey then .literal else .doubleQuoted
  | other => other

/-- The longest key on the line of its value, in bytes. -/
def simpleKeyLimit : Nat := 128

/-- Whether a key fits on the line of its value. -/
def isSimpleKey (scalar : Scalar) : Bool :=
  let text := scalar.text
  !(Traits.ofText text).multiline && decide (text.utf8ByteSize ≤ simpleKeyLimit)

end GatewayOperator.Yaml
