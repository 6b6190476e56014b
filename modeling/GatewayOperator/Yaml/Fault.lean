/-!
# Faults of configuration text

Where and why a text is no configuration document.

## Main Definitions

* `Yaml.Mark` — a place in a text.
* `Yaml.Fault` — the cause for which a text is refused.
* `Yaml.Fault.message` — the wording of a cause.
-/

namespace GatewayOperator.Yaml

/-- A place in a text, counted from zero. -/
structure Mark where
  /-- The number of characters before it. -/
  index : Nat
  /-- The number of lines before it. -/
  line : Nat
  /-- The number of characters before it in its line. -/
  column : Nat
  deriving DecidableEq, Repr, Inhabited

namespace Mark

/-- The start of a text. -/
def start : Mark := ⟨0, 0, 0⟩

/-- Whether the mark is the start of the first line. -/
def isOrigin (m : Mark) : Bool := m.line = 0 && m.column = 0

/-- The words for a place, with lines and columns counted from one. -/
def text (m : Mark) : String :=
  if m.isOrigin then "position " ++ toString m.index
  else "line " ++ toString (m.line + 1) ++ " column " ++ toString (m.column + 1)

end Mark

/-- What was being read when a fault was found, and where that had begun. -/
structure Context where
  /-- What was being read. -/
  activity : String
  /-- Where it had begun. -/
  start : Mark
  deriving DecidableEq, Repr, Inhabited

/-- The cause for which a text is refused. -/
inductive Fault where
  /-- A character may not occur in a document. -/
  | forbidden (code : Nat) (offset : Nat)
  /-- The text breaks a rule of the notation. -/
  | malformed (problem : String) (place : Mark) (context : Option Context)
  /-- An alias names no anchor. -/
  | unknownAnchor (place : Mark)
  /-- A tag demands a type that the scalar does not fit, or an integer is beyond 64 bits. -/
  | unfit (found wanted : String) (place : Mark)
  /-- A key of a mapping is a mapping or a sequence. -/
  | keyNotScalar (place : Mark)
  /-- Collections are nested too deeply. -/
  | tooDeep (place : Mark)
  /-- Aliases repeat too much of the document. -/
  | repetition
  /-- More than one document stands in the text. -/
  | severalDocuments
  /-- The text ends inside the document. -/
  | unfinished
  deriving DecidableEq, Repr, Inhabited

/-- A context with its place, which is left out where it repeats the place of the problem. -/
def Context.text (context : Context) (problem : Mark) : String :=
  if !context.start.isOrigin &&
      (context.start.line ≠ problem.line || context.start.column ≠ problem.column) then
    context.activity ++ " at " ++ context.start.text
  else context.activity

/-- The wording of a cause. -/
def Fault.message : Fault → String
  | .forbidden _ offset =>
    "control characters are not allowed" ++
      (if offset = 0 then "" else " at position " ++ toString offset)
  | .malformed problem place context =>
    problem ++ (if place.isOrigin then "" else " at " ++ place.text) ++
      match context with
      | none => ""
      | some context => ", " ++ context.text place
  | .unknownAnchor place => "unknown anchor at " ++ place.text
  | .unfit found wanted place =>
    "invalid value: " ++ found ++ ", expected " ++ wanted ++ " at " ++ place.text
  | .keyNotScalar place => "mapping keys must be scalars at " ++ place.text
  | .tooDeep place => "recursion limit exceeded at " ++ place.text
  | .repetition => "repetition limit exceeded"
  | .severalDocuments =>
    "deserializing from YAML containing more than one document is not supported"
  | .unfinished => "EOF while parsing a value"

end GatewayOperator.Yaml
