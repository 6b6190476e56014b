import GatewayOperator.Json.Decode
import GatewayOperator.Json.Edit

/-!
# Patches of objects

A patch is a list of changes at places in an object.

## Main Definitions

* `PatchOperation` — a change.
* `PatchOperation.append`, `PatchOperation.replaceAt`, `PatchOperation.upsert` — changes of a list.
* `PatchOperation.setAnnotations` — a change of the annotations of an object.
* `Patch.apply` — an object after the changes of a patch.

## Design Notes

Nothing can be appended to a list that does not exist, so an item that goes into an empty or absent
list is written as a whole list.
-/

namespace GatewayOperator

/-- A change at a place. -/
inductive PatchOperation where
  /-- Puts a value at a place, in front of what follows in a list. -/
  | add (path : Pointer) (value : Json)
  /-- Puts a value in place of another one. -/
  | replace (path : Pointer) (value : Json)
  deriving Repr, Inhabited

/-- A list of changes. -/
abbrev Patch := List PatchOperation

namespace PatchOperation

/-- A change in its written form. -/
def toJson : PatchOperation → Json
  | .add path value =>
    .object [("op", .string "add"), ("path", .string path.text), ("value", value)]
  | .replace path value =>
    .object [("op", .string "replace"), ("path", .string path.text), ("value", value)]

/-- A value at the end of a list that has `length` items. -/
def append (list : Pointer) (length : Nat) (value : Json) : PatchOperation :=
  if length = 0 then .add list (.array [value]) else .add (list ++ [Json.endKey]) value

/-- A value in place of an item of a list. -/
def replaceAt (list : Pointer) (index : Nat) (value : Json) : PatchOperation :=
  .replace (list ++ [toString index]) value

/-- A value in place of an item of a list, or at its end. -/
def upsert (list : Pointer) (index : Option Nat) (length : Nat) (value : Json) : PatchOperation :=
  match index with
  | some index => replaceAt list index value
  | none => append list length value

/-- The place of the annotations of an object. -/
def annotationsPath : Pointer := ["metadata", "annotations"]

/-- Annotations with some of them changed; an empty value takes an annotation away. -/
def updateAnnotations (current : TextMap) (updates : TextMap) : TextMap :=
  updates.entries.foldl
    (fun acc update =>
      if update.2.isEmpty then acc.erase update.1 else acc.insert update.1 update.2)
    current

/-- The annotations of an object with some of them changed. -/
def setAnnotations (current : Option TextMap) (updates : TextMap) : PatchOperation :=
  let value := Json.ofTextMap (updateAnnotations (current.getD ∅) updates)
  match current with
  | some _ => .replace annotationsPath value
  | none => .add annotationsPath value

/-- An object after a change. -/
def apply (object : Json) : PatchOperation → Option Json
  | .add path value => object.add? path value
  | .replace path value => object.replace? path value

end PatchOperation

/-- An object after the changes of a patch, one after another. -/
def Patch.apply (p : Patch) (object : Json) : Option Json := p.foldlM PatchOperation.apply object

/-- A patch in its written form. -/
def Patch.toJson (p : Patch) : Json := Json.ofList PatchOperation.toJson p

end GatewayOperator
