import GatewayOperator.Json.Decode

/-!
# Metadata of cluster objects

## Main Definitions

* `OwnerReference` — the object to which another one belongs.
* `Metadata` — names, labels, annotations and owners of an object.
* `Metadata.toJson`, `Metadata.ofJson?` — their form in the cluster's interface.
-/

namespace GatewayOperator

/-- The object to which another one belongs. -/
structure OwnerReference where
  /-- The group and version of the owner's kind. -/
  apiVersion : String
  /-- The owner's kind. -/
  kind : String
  /-- The owner's name. -/
  name : String
  /-- The owner's identity. -/
  uid : String
  /-- Whether the owner manages the object. -/
  controller : Option Bool
  /-- Whether the owner cannot go before the object. -/
  blockOwnerDeletion : Option Bool
  deriving DecidableEq, Inhabited

/-- The reference in the cluster's interface. -/
def OwnerReference.toJson (o : OwnerReference) : Json :=
  .record
    [("apiVersion", some (.string o.apiVersion)),
      ("blockOwnerDeletion", o.blockOwnerDeletion.map .bool),
      ("controller", o.controller.map .bool),
      ("kind", some (.string o.kind)),
      ("name", some (.string o.name)),
      ("uid", some (.string o.uid))]

/-- Reads a reference. -/
def OwnerReference.ofJson? : Json.Read OwnerReference := fun v => do
  let _ ← v.fields?
  let apiVersion ← Json.lenient "" Json.readText (v.get? "apiVersion")
  let kind ← Json.lenient "" Json.readText (v.get? "kind")
  let name ← Json.lenient "" Json.readText (v.get? "name")
  let uid ← Json.lenient "" Json.readText (v.get? "uid")
  let controller ← Json.optional Json.readBool (v.get? "controller")
  let blockOwnerDeletion ← Json.optional Json.readBool (v.get? "blockOwnerDeletion")
  return { apiVersion, kind, name, uid, controller, blockOwnerDeletion }

/-- Names, labels, annotations and owners of an object. -/
structure Metadata where
  /-- The name. -/
  name : Option String := none
  /-- The start of a name that the cluster completes. -/
  generateName : Option String := none
  /-- The namespace. -/
  namespace_ : Option String := none
  /-- The identity. -/
  uid : Option String := none
  /-- The version of the stored object. -/
  resourceVersion : Option String := none
  /-- The number of changes to the object's wishes. -/
  generation : Option Int := none
  /-- The labels. -/
  labels : Option TextMap := none
  /-- The annotations. -/
  annotations : Option TextMap := none
  /-- The owners. -/
  ownerReferences : Option (List OwnerReference) := none
  deriving DecidableEq, Inhabited

namespace Metadata

/-- The metadata in the cluster's interface. -/
def toJson (m : Metadata) : Json :=
  .record
    [("annotations", m.annotations.map Json.ofTextMap),
      ("generateName", m.generateName.map .string),
      ("generation", m.generation.map .int),
      ("labels", m.labels.map Json.ofTextMap),
      ("name", m.name.map .string),
      ("namespace", m.namespace_.map .string),
      ("ownerReferences", m.ownerReferences.map (Json.ofList OwnerReference.toJson)),
      ("resourceVersion", m.resourceVersion.map .string),
      ("uid", m.uid.map .string)]

/-- Reads metadata. -/
def ofJson? : Json.Read Metadata := fun v => do
  let _ ← v.fields?
  let name ← Json.optional Json.readText (v.get? "name")
  let generateName ← Json.optional Json.readText (v.get? "generateName")
  let namespace_ ← Json.optional Json.readText (v.get? "namespace")
  let uid ← Json.optional Json.readText (v.get? "uid")
  let resourceVersion ← Json.optional Json.readText (v.get? "resourceVersion")
  let generation ← Json.optional Json.readInt64 (v.get? "generation")
  let labels ← Json.optional Json.readTextMap (v.get? "labels")
  let annotations ← Json.optional Json.readTextMap (v.get? "annotations")
  let ownerReferences ←
    Json.optional (Json.readList OwnerReference.ofJson?) (v.get? "ownerReferences")
  return ⟨name, generateName, namespace_, uid, resourceVersion, generation, labels, annotations,
    ownerReferences⟩

/-- The name, empty if there is none. -/
def nameText (m : Metadata) : String := m.name.getD ""

/-- The namespace, empty if there is none. -/
def namespaceText (m : Metadata) : String := m.namespace_.getD ""

/-- The value of a label. -/
def label? (m : Metadata) (key : String) : Option String := m.labels.bind (·.get? key)

end Metadata

/-- The group and version of a kind, and its name, at the head of an object. -/
structure TypeMeta where
  /-- The group and version. -/
  apiVersion : String
  /-- The name. -/
  kind : String

/-- Whether an object is of a type: each of the two fields is missing or as the type says. -/
def TypeMeta.admits (t : TypeMeta) (v : Json) : Bool :=
  (match v.get? "apiVersion" with
    | some found => found.string? = some t.apiVersion
    | none => true) &&
  (match v.get? "kind" with
    | some found => found.string? = some t.kind
    | none => true)

/-- The fields at the head of an object. -/
def TypeMeta.fields (t : TypeMeta) : List (String × Option Json) :=
  [("apiVersion", some (.string t.apiVersion)), ("kind", some (.string t.kind))]

end GatewayOperator
