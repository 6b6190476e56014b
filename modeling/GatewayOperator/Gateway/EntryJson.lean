import GatewayOperator.Gateway.Entry
import GatewayOperator.Json.Decode

/-!
# Configuration entries as JSON

## Main Definitions

* `ConfigurationEntry.toJson`, `ConfigurationEntry.ofJson?` — an entry in the custom resource.

## Design Notes

A field that is not set is not written, and so is an empty list of headers or registration fields.
-/

namespace GatewayOperator

open Json

/-- Reads the name of a kind of source. -/
def SourceKind.ofJson? : Json.Read SourceKind := fun v => v.string?.bind SourceKind.ofName?

/-- Reads the name of a kind of header. -/
def HeaderKind.ofJson? : Json.Read HeaderKind := fun v => v.string?.bind HeaderKind.ofName?

namespace HeaderEntry

/-- The header in the custom resource. -/
def toJson (h : HeaderEntry) : Json :=
  .record
    [("type", some (.string h.kind.name)), ("name", some (.string h.name)),
      ("value", some (.string h.value)), ("secretKey", h.secretKey.map .string)]

/-- Reads a header. -/
def ofJson? : Json.Read HeaderEntry := fun v => do
  let fields ← v.members? ["type", "name", "value", "secretKey"]
  let kind ← required HeaderKind.ofJson? (Assoc.lookup "type" fields)
  let name ← required readText (Assoc.lookup "name" fields)
  let value ← required readText (Assoc.lookup "value" fields)
  let secretKey ← optional readText (Assoc.lookup "secretKey" fields)
  return ⟨kind, name, value, secretKey⟩

end HeaderEntry

namespace PostDataEntry

/-- The registration field in the custom resource. -/
def toJson (p : PostDataEntry) : Json :=
  .record
    [("name", some (.string p.name)), ("value", p.value.map .string),
      ("values", p.values.map (Json.ofList .string))]

/-- Reads a registration field. -/
def ofJson? : Json.Read PostDataEntry := fun v => do
  let fields ← v.members? ["name", "value", "values"]
  let name ← required readText (Assoc.lookup "name" fields)
  let value ← optional readText (Assoc.lookup "value" fields)
  let values ← optional (readList readText) (Assoc.lookup "values" fields)
  return ⟨name, value, values⟩

end PostDataEntry

namespace ConfigurationEntry

/-- A list that is written only if it has items. -/
def writtenList {α : Type} (write : α → Json) (items : List α) : Option Json :=
  if items.isEmpty then none else some (Json.ofList write items)

/-- The entry in the custom resource. -/
def toJson (e : ConfigurationEntry) : Json :=
  .record
    [("type", some (.string e.kind.name)), ("name", e.name.map .string),
      ("dataKey", e.dataKey.map .string), ("url", e.url.map .string),
      ("headers", writtenList HeaderEntry.toJson e.headers), ("value", e.value.map .string),
      ("discoveryEndpoint", e.discoveryEndpoint.map .string), ("secret", e.secret.map .string),
      ("postData", writtenList PostDataEntry.toJson e.postData)]

/-- The fields of an entry, in order. -/
def fieldNames : List String :=
  ["type", "name", "dataKey", "url", "headers", "value", "discoveryEndpoint", "secret", "postData"]

/-- Reads an entry. -/
def ofJson? : Json.Read ConfigurationEntry := fun v => do
  let fields ← v.members? fieldNames
  let kind ← required SourceKind.ofJson? (Assoc.lookup "type" fields)
  let name ← optional readText (Assoc.lookup "name" fields)
  let dataKey ← optional readText (Assoc.lookup "dataKey" fields)
  let url ← optional readText (Assoc.lookup "url" fields)
  let headers ← defaulting [] (readList HeaderEntry.ofJson?) (Assoc.lookup "headers" fields)
  let value ← optional readText (Assoc.lookup "value" fields)
  let discoveryEndpoint ← optional readText (Assoc.lookup "discoveryEndpoint" fields)
  let secret ← optional readText (Assoc.lookup "secret" fields)
  let postData ← defaulting [] (readList PostDataEntry.ofJson?) (Assoc.lookup "postData" fields)
  return ⟨kind, name, dataKey, url, headers, value, discoveryEndpoint, secret, postData⟩

end ConfigurationEntry

end GatewayOperator
