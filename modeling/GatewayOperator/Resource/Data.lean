import GatewayOperator.Bytes.Base64
import GatewayOperator.Resource.Metadata

/-!
# Objects that hold data

## Main Definitions

* `ConfigMap` — texts under keys.
* `Secret` — byte strings under keys, and texts on their way to becoming some.
* `Secret.value?` — the text of a data entry.

## Design Notes

The bytes of a data entry take precedence over a text of the same key, even where they are no text:
then the entry has none.
-/

namespace GatewayOperator

/-- Texts under keys. -/
structure ConfigMap where
  /-- The metadata. -/
  metadata : Metadata
  /-- The texts. -/
  data : Option TextMap
  deriving DecidableEq, Inhabited

namespace ConfigMap

/-- The type of config maps. -/
def type : TypeMeta := ⟨"v1", "ConfigMap"⟩

/-- The object in the cluster's interface. -/
def toJson (c : ConfigMap) : Json :=
  .record (type.fields ++
    [("data", c.data.map Json.ofTextMap), ("metadata", some c.metadata.toJson)])

/-- Reads a config map. -/
def ofJson? : Json.Read ConfigMap := fun v => do
  let _ ← v.fields?
  guard (type.admits v)
  let metadata ← Json.lenient {} Metadata.ofJson? (v.get? "metadata")
  let data ← Json.optional Json.readTextMap (v.get? "data")
  return { metadata, data }

/-- The text of a data entry. -/
def entry? (c : ConfigMap) (key : String) : Option String := c.data.bind (·.get? key)

/-- The config map with a data entry. -/
def setEntry (c : ConfigMap) (key text : String) : ConfigMap :=
  { c with data := some ((c.data.getD ∅).insert key text) }

end ConfigMap

/-- Byte strings under keys. -/
structure Secret where
  /-- The metadata. -/
  metadata : Metadata
  /-- The byte strings. -/
  data : Option (Dict String Bytes)
  /-- Texts that the cluster is to store as byte strings. -/
  stringData : Option TextMap
  deriving DecidableEq, Inhabited

namespace Secret

/-- The type of secrets. -/
def type : TypeMeta := ⟨"v1", "Secret"⟩

/-- Reads a byte string; null is the empty one. -/
def readBytes : Json.Read Bytes
  | .null => some []
  | v => v.string?.bind Base64.decode?

/-- The object in the cluster's interface. -/
def toJson (s : Secret) : Json :=
  .record (type.fields ++
    [("data", s.data.map (Json.ofMap fun bytes => .string (Base64.encode bytes))),
      ("metadata", some s.metadata.toJson),
      ("stringData", s.stringData.map Json.ofTextMap)])

/-- Reads a secret. -/
def ofJson? : Json.Read Secret := fun v => do
  let _ ← v.fields?
  guard (type.admits v)
  let metadata ← Json.lenient {} Metadata.ofJson? (v.get? "metadata")
  let data ← Json.optional (Json.readMap readBytes) (v.get? "data")
  let stringData ← Json.optional Json.readTextMap (v.get? "stringData")
  return { metadata, data, stringData }

/-- The text of a data entry. -/
def value? (s : Secret) (key : String) : Option String :=
  match s.data.bind (·.get? key) with
  | some bytes => Bytes.text? bytes
  | none => s.stringData.bind (·.get? key)

/-- The secret with a text as the bytes of a data entry. -/
def setEntry (s : Secret) (key text : String) : Secret :=
  { s with data := some ((s.data.getD ∅).insert key (Bytes.ofText text)) }

end Secret

end GatewayOperator
