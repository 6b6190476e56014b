import GatewayOperator.Json.Token

/-!
# Reading JSON text

## Main Definitions

* `Json.Builder` — the containers that are open, from the innermost outwards.
* `Json.Builder.step` — what one token does.
* `Json.read` — the value of a text that is one complete value.
* `Json.readFirst?` — the value with which a text begins.

## Design Notes

The tokens are taken one after another and the open containers are a list, so reading is a fold
over the tokens and needs no bound.
-/

namespace GatewayOperator.Json

/-- A container that is still open. -/
inductive Frame where
  /-- An array, its last item first. -/
  | array (done : List Json)
  /-- An object, its last field first; `sound` is false once a name is ill-formed. -/
  | object (done : List (String × Json)) (sound : Bool)
  /-- An object whose next field has this name. -/
  | field (done : List (String × Json)) (sound : Bool) (name : Option String)

/-- What may come next. -/
inductive Expect where
  /-- A value. -/
  | value
  /-- A value, or the end of an array that has no item yet. -/
  | valueOrClose
  /-- A name, or the end of an object that has no field yet. -/
  | nameOrClose
  /-- A name. -/
  | name
  /-- The colon behind a name. -/
  | colon
  /-- A comma or the end of the container. -/
  | more
  /-- Nothing: the value is complete. -/
  | done

/-- The open containers and what may come next. -/
structure Builder where
  /-- The open containers, the innermost first. -/
  frames : List Frame
  /-- What may come next. -/
  expect : Expect
  /-- The complete value, once there is one. -/
  result : Json

namespace Builder

/-- Nothing has been read. -/
def start : Builder := ⟨[], .value, .null⟩

/-- The deepest nesting that is read. -/
def depthLimit : Nat := 127

/-- The builder with a complete value in its place. -/
def place (frames : List Frame) (value : Json) : Except String Builder :=
  match frames with
  | [] => .ok ⟨[], .done, value⟩
  | .array done :: rest => .ok ⟨.array (value :: done) :: rest, .more, .null⟩
  | .field done sound (some name) :: rest =>
    .ok ⟨.object ((name, value) :: done) sound :: rest, .more, .null⟩
  | .field done _ none :: rest => .ok ⟨.object done false :: rest, .more, .null⟩
  | .object .. :: _ => .error "key must be a string"

/-- The builder with a container opened. -/
def enter (frames : List Frame) (frame : Frame) (expect : Expect) : Except String Builder :=
  if depthLimit < frames.length + 1 then .error "recursion limit exceeded"
  else .ok ⟨frame :: frames, expect, .null⟩

/-- The builder after the first token of a value. -/
def openValue (frames : List Frame) : Token → Except String Builder
  | .openArray => enter frames (.array []) .valueOrClose
  | .openObject => enter frames (.object [] true) .nameOrClose
  | .text (some value) => place frames (.string value)
  | .text none => place frames .illFormed
  | .atom value => place frames value
  | _ => .error "expected value"

/-- The builder after the name of a field. -/
def openField (frames : List Frame) (name : Option String) : Except String Builder :=
  match frames with
  | .object done sound :: rest => .ok ⟨.field done sound name :: rest, .colon, .null⟩
  | _ => .error "expected value"

/-- The builder after the end of the innermost object. -/
def closeObject (frames : List Frame) : Except String Builder :=
  match frames with
  | .object done sound :: rest =>
    place rest (if sound then .object done.reverse else .illFormed)
  | _ => .error "expected value"

/-- The builder after the end of the innermost array. -/
def closeArray (frames : List Frame) : Except String Builder :=
  match frames with
  | .array done :: rest => place rest (.array done.reverse)
  | _ => .error "expected value"

/-- What one token does. -/
def step (b : Builder) (token : Token) : Except String Builder :=
  match b.expect, token with
  | .value, token => openValue b.frames token
  | .valueOrClose, .closeArray => closeArray b.frames
  | .valueOrClose, token => openValue b.frames token
  | .nameOrClose, .closeObject => closeObject b.frames
  | .nameOrClose, .text name => openField b.frames name
  | .nameOrClose, _ => .error "key must be a string"
  | .name, .text name => openField b.frames name
  | .name, .closeObject => .error "trailing comma"
  | .name, _ => .error "key must be a string"
  | .colon, .colon => .ok ⟨b.frames, .value, .null⟩
  | .colon, _ => .error "expected `:`"
  | .more, .comma =>
    match b.frames with
    | .array _ :: _ => .ok ⟨b.frames, .value, .null⟩
    | _ => .ok ⟨b.frames, .name, .null⟩
  | .more, .closeArray => closeArray b.frames
  | .more, .closeObject => closeObject b.frames
  | .more, _ =>
    match b.frames with
    | .array _ :: _ => .error "expected `,` or `]`"
    | _ => .error "expected `,` or `\x7d`"
  | .done, _ => .error "trailing characters"

/-- The builder after some tokens. -/
def run : Builder → Nat → List Token → Except Fault Json
  | b, position, [] =>
    match b.expect with
    | .done => .ok b.result
    | _ => .error ⟨"EOF while parsing a value", position⟩
  | b, position, token :: rest =>
    match b.step token with
    | .ok next => run next (position + 1) rest
    | .error problem => .error ⟨problem, position + 1⟩

end Builder

/-- The first complete value of some tokens. -/
def Builder.first? : Builder → List Token → Option Json
  | _, [] => none
  | b, token :: rest =>
    match b.step token with
    | .ok next =>
      match next.expect with
      | .done => some next.result
      | _ => next.first? rest
    | .error _ => none

/-- The first complete value of a text, whatever stands behind it. -/
def readFirst? (text : String) : Option Json := Builder.start.first? (readableTokens text)

/-- The value of a text that is one complete value. -/
def read (text : String) : Except Fault Json := do
  Builder.start.run 0 (← tokens text)

end GatewayOperator.Json
