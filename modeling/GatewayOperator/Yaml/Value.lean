import GatewayOperator.Yaml.Event
import GatewayOperator.Yaml.Resolution

/-!
# Values of configuration text

The events of one document are composed into a tree of scalars, sequences and mappings.  Aliases
are replaced by what they name, and tags have done their work once the scalars have their types.

## Main Definitions

* `Yaml.Value` — the tree, with the pairs of a mapping in the order of the text.
* `Yaml.Recording` — the events of a document by position, with the targets of its aliases.
* `Yaml.Recording.compose` — the tree of a recording.
* `Yaml.Value.read` — the tree of a text that is one document.

## Design Notes

The names of anchors are numbered, a name that is used again taking the number after the last
one that is new, and an alias leads to the last anchor with its number.  Composition is recursive
in the depth that is left and in the events that are left; going back to an anchored collection
costs one level of depth, so an alias inside its own anchor ends as nesting that is too deep.
-/

namespace GatewayOperator.Yaml

/-- The tree of a document. -/
inductive Value where
  /-- A scalar. -/
  | scalar (value : Scalar)
  /-- A list of values. -/
  | sequence (items : List Value)
  /-- Pairs of a key and a value. -/
  | mapping (pairs : List (Value × Value))
  deriving Repr, Inhabited

/-- Whether a value is a scalar. -/
def Value.isScalar : Value → Bool
  | .scalar _ => true
  | _ => false

/-- What stands at a position of a document. -/
inductive Item where
  /-- A reference to an anchor number. -/
  | alias (number : Nat)
  /-- A scalar with its tag. -/
  | scalar (tag : Option String) (text : String) (style : ScalarStyle)
  /-- The start of a sequence with a tag. -/
  | sequenceStart (tag : Option String)
  /-- The end of a sequence. -/
  | sequenceEnd
  /-- The start of a mapping with a tag. -/
  | mappingStart (tag : Option String)
  /-- The end of a mapping. -/
  | mappingEnd
  /-- Nothing: there is no document. -/
  | missing
  deriving Repr, Inhabited

/-- The events of a document, with the targets of its aliases. -/
structure Recording where
  /-- What stands at each position, and where in the text. -/
  items : Array (Item × Mark)
  /-- The position to which each anchor number leads, the last entry of a number counting. -/
  targets : List (Nat × Nat)
  /-- Why the document ends here, if not by its end. -/
  fault : Option Fault
  deriving Inhabited

namespace Recording

/-- Nothing recorded, except why. -/
def empty (fault : Option Fault) : Recording := ⟨#[], [], fault⟩

/-- The anchors of a document by name; the entry of a name that comes first counts. -/
abbrev Anchors := List (String × Nat)

/-- The number of different names. -/
def Anchors.count (anchors : Anchors) : Nat :=
  (anchors.foldl (fun names anchor => if names.contains anchor.1 then names else anchor.1 :: names)
    ([] : List String)).length

/-- The recording with one more item, anchored if it has a name. -/
def record (r : Recording) (anchors : Anchors) (name : Option String) (item : Item) (mark : Mark) :
    Recording × Anchors :=
  match name with
  | none => ({ r with items := r.items.push (item, mark) }, anchors)
  | some name =>
    let number := anchors.count
    ({ r with
        items := r.items.push (item, mark)
        targets := (number, r.items.size) :: r.targets },
      (name, number) :: anchors)

/-- Records the events of one document; answers the events behind it, or none if there was no
document before the end of the text. -/
def ofEvents (fault : Option Fault) :
    Recording → Anchors → List Event → Recording × Option (List Event)
  | r, _, [] => ({ r with fault := some (fault.getD .unfinished) }, some [])
  | r, anchors, event :: rest =>
    match event.kind with
    | .streamStart => ofEvents fault r anchors rest
    | .documentStart => ofEvents fault r anchors rest
    | .streamEnd => ({ r with items := r.items.push (.missing, event.mark) }, none)
    | .documentEnd => (r, some rest)
    | .alias name =>
      match anchors.find? (·.1 = name) with
      | some (_, number) =>
        ofEvents fault { r with items := r.items.push (.alias number, event.mark) } anchors rest
      | none => ({ r with fault := some (.unknownAnchor event.mark) }, some rest)
    | .scalar properties text style =>
      let (r, anchors) :=
        r.record anchors properties.anchor (.scalar properties.tag text style) event.mark
      ofEvents fault r anchors rest
    | .sequenceStart properties =>
      let (r, anchors) :=
        r.record anchors properties.anchor (.sequenceStart properties.tag) event.mark
      ofEvents fault r anchors rest
    | .mappingStart properties =>
      let (r, anchors) :=
        r.record anchors properties.anchor (.mappingStart properties.tag) event.mark
      ofEvents fault r anchors rest
    | .sequenceEnd =>
      ofEvents fault { r with items := r.items.push (.sequenceEnd, event.mark) } anchors rest
    | .mappingEnd =>
      ofEvents fault { r with items := r.items.push (.mappingEnd, event.mark) } anchors rest

/-- Whether a tag is local, and so says nothing about the value. -/
def isLocalTag (tag : Option String) : Bool :=
  match tag with
  | some tag => tag.toList.head? = some '!'
  | none => false

/-- The scalar that a tag of the core schema demands. -/
def forced? (tag text : String) : Option (String × Option Scalar) :=
  if tag = "tag:yaml.org,2002:bool" then some ("a boolean", (bool? text).map .bool)
  else if tag = "tag:yaml.org,2002:int" then
    some ("an integer", (integer? text.toList).bind fun n =>
      if width n = .word then some (.number (.int n)) else none)
  else if tag = "tag:yaml.org,2002:float" then
    some ("a float", (fraction? text).map fun x => .number (.float x))
  else if tag = "tag:yaml.org,2002:null" then
    some ("null", if isNull text then some .null else none)
  else none

/-- A scalar with its type.  Its tag counts only if `tagCounts`; a local tag leaves the type of a
plain scalar open, and any other tag that demands nothing makes it a text. -/
def typed (tagCounts : Bool) (tag : Option String) (text : String) (style : ScalarStyle)
    (mark : Mark) : Except Fault Scalar :=
  let plain : Except Fault Scalar :=
    if style = .plain then
      match resolve text with
      | some scalar => .ok scalar
      | none => .error (.unfit "integer" "a configuration value" mark)
    else .ok (.string text)
  match tag with
  | none => plain
  | some tag =>
    if !tagCounts ∨ isLocalTag (some tag) then plain
    else match forced? tag text with
      | some (_, some scalar) => .ok scalar
      | some (wanted, none) => .error (.unfit text wanted mark)
      | none => .ok (.string text)

/-- A composed value, the position behind it, and the number of aliases followed so far. -/
structure Composed where
  /-- The value. -/
  value : Value
  /-- The position behind it. -/
  next : Nat
  /-- The number of aliases followed so far. -/
  jumps : Nat
  deriving Inhabited

/-- The fault at the end of a recording. -/
def endFault (r : Recording) : Fault := r.fault.getD .unfinished

/-- The most aliases that may be followed. -/
def jumpLimit (r : Recording) : Nat := r.items.size * 100

mutual

/-- The value at a position, with `depth` levels of nesting left.  A key of a tagged mapping is
composed with `tagCounts` off. -/
def composeAt (r : Recording) (depth position jumps : Nat) (tagCounts : Bool) :
    Except Fault Composed :=
  match r.items[position]? with
  | none => .error r.endFault
  | some (item, mark) =>
    match item with
    | .scalar tag text style => do
      return ⟨.scalar (← typed tagCounts tag text style mark), position + 1, jumps⟩
    | .sequenceStart _ =>
      match depth with
      | 0 => .error (.tooDeep mark)
      | depth + 1 => r.composeItems depth (position + 1) jumps []
    | .mappingStart tag =>
      match depth with
      | 0 => .error (.tooDeep mark)
      | depth + 1 =>
        r.composePairs depth (position + 1) jumps (tagCounts && !isLocalTag tag) []
    | .alias number =>
      if r.jumpLimit < jumps + 1 then .error .repetition
      else
        match r.targets.find? (·.1 = number) with
        | none => .error .unfinished
        | some (_, target) =>
          match r.items[target]? with
          | some (.scalar tag text style, mark) => do
            return ⟨.scalar (← typed true tag text style mark), position + 1, jumps + 1⟩
          | some (.sequenceStart _, mark) =>
            match depth with
            | 0 => .error (.tooDeep mark)
            | depth + 1 => do
              let composed ← r.composeItems depth (target + 1) (jumps + 1) []
              return { composed with next := position + 1 }
          | some (.mappingStart tag, mark) =>
            match depth with
            | 0 => .error (.tooDeep mark)
            | depth + 1 => do
              let composed ←
                r.composePairs depth (target + 1) (jumps + 1) (!isLocalTag tag) []
              return { composed with next := position + 1 }
          | _ => .error .unfinished
    | .missing => return ⟨.scalar .null, position + 1, jumps⟩
    | _ => .error .unfinished
termination_by (depth, r.items.size - position, 0)

/-- The items of a sequence from a position on, behind those in `done`, the last one first. -/
def composeItems (r : Recording) (depth position jumps : Nat) (done : List Value) :
    Except Fault Composed :=
  if h : position < r.items.size then
    match r.items[position] with
    | (.sequenceEnd, _) => .ok ⟨.sequence done.reverse, position + 1, jumps⟩
    | _ => do
      let composed ← r.composeAt depth position jumps true
      r.composeItems depth (max composed.next (position + 1)) composed.jumps
        (composed.value :: done)
  else .error r.endFault
termination_by (depth, r.items.size - position, 1)

/-- The pairs of a mapping from a position on, behind those in `done`, the last one first.  A key
that is no scalar is refused once its value has been composed. -/
def composePairs (r : Recording) (depth position jumps : Nat) (tagCounts : Bool)
    (done : List (Value × Value)) : Except Fault Composed :=
  if h : position < r.items.size then
    match r.items[position] with
    | (.mappingEnd, _) => .ok ⟨.mapping done.reverse, position + 1, jumps⟩
    | (_, mark) => do
      let key ← r.composeAt depth position jumps tagCounts
      let value ← r.composeAt depth (max key.next (position + 1)) key.jumps true
      if !key.value.isScalar then throw (.keyNotScalar mark)
      r.composePairs depth (max value.next (position + 2)) value.jumps tagCounts
        ((key.value, value.value) :: done)
  else .error r.endFault
termination_by (depth, r.items.size - position, 1)

end

/-- The deepest nesting of collections. -/
def depthLimit : Nat := 128

/-- The tree of a recording. -/
def compose (r : Recording) : Except Fault Value := do
  let composed ← r.composeAt depthLimit 0 0 true
  match r.fault with
  | some fault => throw fault
  | none => return composed.value

end Recording

/-- The tree of a text that is one document; a text without a document is a null. -/
def Value.read (text : String) : Except Fault Value := do
  let stream := events text
  let (first, rest) := Recording.ofEvents stream.fault (.empty none) [] stream.events
  let value ← first.compose
  match rest with
  | none => return value
  | some rest =>
    match (Recording.ofEvents stream.fault (.empty none) [] rest).2 with
    | none => return value
    | some _ => throw .severalDocuments

end GatewayOperator.Yaml
