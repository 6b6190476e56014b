import GatewayOperator.Yaml.Cursor

/-!
# Tokens of configuration text

## Main Definitions

* `Yaml.ScalarStyle` — how a scalar is written.
* `Yaml.Token` — a mark, scalar, property or structural boundary, with its extent.
-/

namespace GatewayOperator.Yaml

/-- How a scalar is written. -/
inductive ScalarStyle where
  /-- Without quotes. -/
  | plain
  /-- Between apostrophes. -/
  | singleQuoted
  /-- Between quotation marks, with escapes. -/
  | doubleQuoted
  /-- As indented lines that keep their ends. -/
  | literal
  /-- As indented lines that are joined. -/
  | folded
  deriving DecidableEq, Repr, Inhabited

/-- What a token is. -/
inductive TokenKind where
  /-- The start of the text. -/
  | streamStart
  /-- The end of the text. -/
  | streamEnd
  /-- A directive naming the version of the notation. -/
  | versionDirective (major minor : Nat)
  /-- A directive giving a tag handle its meaning. -/
  | tagDirective (handle expansion : String)
  /-- The mark before a document. -/
  | documentStart
  /-- The mark behind a document. -/
  | documentEnd
  /-- The start of an indented sequence. -/
  | blockSequenceStart
  /-- The start of an indented mapping. -/
  | blockMappingStart
  /-- The end of an indented collection. -/
  | blockEnd
  /-- The start of a bracketed sequence. -/
  | flowSequenceStart
  /-- The end of a bracketed sequence. -/
  | flowSequenceEnd
  /-- The start of a braced mapping. -/
  | flowMappingStart
  /-- The end of a braced mapping. -/
  | flowMappingEnd
  /-- The dash before an item. -/
  | blockEntry
  /-- The comma between items. -/
  | flowEntry
  /-- What follows is a key. -/
  | key
  /-- What follows is a value. -/
  | value
  /-- A reference to an anchored node. -/
  | alias (name : String)
  /-- The name of the node that follows. -/
  | anchor (name : String)
  /-- The tag of the node that follows. -/
  | tag (handle suffix : String)
  /-- A scalar. -/
  | scalar (text : String) (style : ScalarStyle)
  deriving DecidableEq, Repr, Inhabited

/-- A token with its extent. -/
structure Token where
  /-- What it is. -/
  kind : TokenKind
  /-- Where it begins. -/
  start : Mark
  /-- Where it ends. -/
  stop : Mark
  deriving DecidableEq, Repr, Inhabited

end GatewayOperator.Yaml
