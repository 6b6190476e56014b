import GatewayOperator.Dict
import GatewayOperator.Failure
import GatewayOperator.Text.Blank
import GatewayOperator.Text.Integer
import GatewayOperator.WellKnown

/-!
# Gateways in annotations

A pod or a replicated workload asks for a gateway beside its own containers by annotations that
start with the vendor prefix.  Its configuration is written in groups: every key
`configuration.<group>.<field>` is a field of one entry.

## Main Definitions

* `Annotations.vendor?`, `Annotations.image?`, `Annotations.servicePort?` — single settings.
* `Annotations.env` — the environment of the gateway.
* `Annotations.groupNames`, `Annotations.group` — the groups of the configuration.
* `Annotations.decodeGroup` — the entry of a group, with its place among the entries.
* `Annotations.configuration` — the entries, in their order.

## Design Notes

The entry of a group is a function of the fields of that group alone.  Only the order of the
entries, and the limit of one registration, concern all groups.
-/

namespace GatewayOperator.Annotations

/-- The start of the keys of the configuration. -/
def configurationKey : String := "configuration."

/-- The start of the keys of the environment. -/
def envKey : String := "env."

/-- The key of the image. -/
def imageKey : String := "deployment.image"

/-- The key that says when the image is pulled. -/
def imagePullPolicyKey : String := "deployment.imagePullPolicy"

/-- The key of the port at which the gateway is offered. -/
def servicePortKey : String := "service.port"

/-- The value of an annotation that is not empty. -/
def nonEmpty? (a : TextMap) (key : String) : Option String :=
  (a.get? key).bind Text.nonEmpty?

/-- The value of a setting that is not empty. -/
def vendor? (a : TextMap) (key : String) : Option String :=
  nonEmpty? a (WellKnown.vendorPrefix ++ key)

/-- The settings: the annotations with the vendor prefix, without it. -/
def settings (a : TextMap) : List (String × String) :=
  a.entries.filterMap fun entry =>
    (Text.stripPrefix? WellKnown.vendorPrefix entry.1).map (·, entry.2)

/-- Whether there is any setting. -/
def hasSettings (a : TextMap) : Bool := !(settings a).isEmpty

/-- The image of the gateway. -/
def image? (a : TextMap) : Option String := vendor? a imageKey

/-- When the image is pulled. -/
def imagePullPolicy? (a : TextMap) : Option String := vendor? a imagePullPolicyKey

/-- The port at which the gateway is offered. -/
def servicePort? (a : TextMap) : Option String := vendor? a servicePortKey

/-- The service that was made for the workload. -/
def serviceName? (a : TextMap) : Option String := nonEmpty? a WellKnown.serviceNameAnnotation

/-- The config map that was made for the workload. -/
def configMapName? (a : TextMap) : Option String :=
  nonEmpty? a WellKnown.configMapNameAnnotation

/-- The environment of the gateway, by name. -/
def env (a : TextMap) : List (String × String) :=
  (settings a).filterMap fun setting =>
    match Text.stripPrefix? envKey setting.1 with
    | some name => if name.isEmpty then none else some (name, setting.2)
    | none => none

/-! ### Groups -/

/-- A field of a group. -/
structure GroupField where
  /-- The group. -/
  group : String
  /-- The field. -/
  field : String
  /-- The value. -/
  value : String
  deriving DecidableEq, Repr, Inhabited

/-- The field that a setting is, if it is one. -/
def fieldOfSetting? (setting : String × String) : Option GroupField :=
  (Text.stripPrefix? configurationKey setting.1).bind fun rest =>
    (Text.splitOnce? '.' rest).map fun (group, field) => ⟨group, field, setting.2⟩

/-- The fields of all groups. -/
def groupFields (a : TextMap) : List GroupField := (settings a).filterMap fieldOfSetting?

/-- Some texts in order, each once. -/
def sortedDistinct (texts : List String) : List String :=
  (Dict.ofList (texts.map fun text => (text, ()))).keys

/-- The names of the groups, in order. -/
def groupNames (a : TextMap) : List String := sortedDistinct ((groupFields a).map (·.group))

/-- The fields of a group. -/
def group (a : TextMap) (name : String) : TextMap :=
  Dict.ofList (((groupFields a).filter fun f => f.group = name).map fun f => (f.field, f.value))

/-- The names of the subgroups of a section of a group, in order. -/
def subgroups (fields : TextMap) (section_ : String) : List String :=
  sortedDistinct <| fields.keys.filterMap fun key =>
    match Text.stripPrefix? section_ key with
    | some rest => Text.nonEmpty? (String.ofList (rest.toList.takeWhile (· ≠ '.')))
    | none => none

/-- The start of the keys of a subgroup. -/
def subgroupPrefix (section_ subgroup : String) : String := section_ ++ subgroup ++ "."

/-- The section of request headers. -/
def headerSection : String := "header."

/-- The section of registration fields. -/
def postDataSection : String := "postData."

/-- The header of a subgroup, which is none unless it has a type. -/
def decodeHeader (fields : TextMap) (subgroup : String) : Except Failure (Option HeaderEntry) :=
  let get (key : String) := fields.get? (subgroupPrefix headerSection subgroup ++ key)
  match (get "type").bind Text.nonEmpty? with
  | none => .ok none
  | some type =>
    match HeaderKind.ofName? type with
    | none => .error (.validation (.invalidHeaderType type))
    | some kind =>
      .ok (some ⟨kind, (get "name").getD "", (get "value").getD "", get "secretKey"⟩)

/-- The headers of a group. -/
def decodeHeaders (fields : TextMap) : Except Failure (List HeaderEntry) := do
  let headers ← (subgroups fields headerSection).mapM (decodeHeader fields)
  return headers.filterMap id

/-- The place of a value among the values of a registration field: a key without a number comes
before all numbers. -/
abbrev ValueIndex := Option Nat

/-- Whether one place is not behind another one. -/
def ValueIndex.le : ValueIndex → ValueIndex → Bool
  | none, _ => true
  | some _, none => false
  | some a, some b => a ≤ b

/-- The place that follows the word for values in a key, if the key is one of a value. -/
def valueIndex? (rest : String) : Option ValueIndex :=
  if rest.isEmpty then some none
  else (Text.stripPrefix? "." rest).map fun number => (Text.readUnsigned64 number).toOption

/-- The values of a subgroup, in their order. -/
def decodeValues (fields : TextMap) (subgroup : String) : List String :=
  let values := fields.entries.filterMap fun entry =>
    (Text.stripPrefix? (subgroupPrefix postDataSection subgroup ++ "values") entry.1).bind
      fun rest => (valueIndex? rest).map (·, entry.2)
  (values.mergeSort fun a b => a.1.le b.1).map (·.2)

/-- The registration field of a subgroup, which is none unless it has a name. -/
def decodePostDataEntry (fields : TextMap) (subgroup : String) : Option PostDataEntry :=
  let get (key : String) :=
    nonEmpty? fields (subgroupPrefix postDataSection subgroup ++ key)
  (get "name").map fun name =>
    match get "value" with
    | some value => ⟨name, some value, none⟩
    | none => ⟨name, none, some (decodeValues fields subgroup)⟩

/-- The registration fields of a group. -/
def decodePostData (fields : TextMap) : List PostDataEntry :=
  (subgroups fields postDataSection).filterMap (decodePostDataEntry fields)

/-- An entry with its place among the entries. -/
structure OrderedEntry where
  /-- The place. -/
  order : Int
  /-- The entry. -/
  entry : ConfigurationEntry
  deriving DecidableEq, Repr, Inhabited

/-- The kind of the source of a group. -/
def decodeKind (name : String) (fields : TextMap) : Except Failure SourceKind :=
  match fields.get? "type" with
  | none => .error (.validation (.entryWithoutType name))
  | some type =>
    (SourceKind.read type).mapError fun unknown => .validation (.unknownType unknown)

/-- The place of a group among the entries. -/
def decodeOrder (name : String) (fields : TextMap) : Except Failure Int :=
  let text := (fields.get? "order").getD ""
  match Text.readInt64 (Text.trim text) with
  | .ok order => .ok order
  | .error _ => .error (.validation (.invalidOrder name text))

/-- The fields of an entry that belong to its kind. -/
def decodeFields (kind : SourceKind) (fields : TextMap) : Except Failure ConfigurationEntry :=
  let entry := ConfigurationEntry.bare kind
  match kind with
  | .literal => .ok { entry with value := fields.get? "value" }
  | .configMap =>
    .ok { entry with name := fields.get? "name", dataKey := fields.get? "dataKey" }
  | .web =>
    (decodeHeaders fields).map fun headers =>
      { entry with url := fields.get? "url", headers }
  | .oidcRegistration =>
    .ok
      { entry with
        discoveryEndpoint := fields.get? "discoveryEndpoint"
        secret := fields.get? "secret"
        postData := decodePostData fields }

/-- The entry of a group, with its place among the entries. -/
def decodeGroup (name : String) (fields : TextMap) : Except Failure OrderedEntry := do
  let kind ← decodeKind name fields
  let order ← decodeOrder name fields
  let entry ← decodeFields kind fields
  return ⟨order, entry⟩

/-- The entries of all groups, in the order of their names. -/
def decodeGroups (a : TextMap) : Except Failure (List OrderedEntry) :=
  (groupNames a).mapM fun name => decodeGroup name (group a name)

/-- The number of entries that are registrations. -/
def registrationCount (entries : List OrderedEntry) : Nat :=
  (entries.filter fun e => e.entry.kind = .oidcRegistration).length

/-- The entries, in their order; entries of the same order keep the order of their names. -/
def configuration (a : TextMap) : Except Failure (List ConfigurationEntry) := do
  let entries ← decodeGroups a
  if 1 < registrationCount entries then
    throw (.validation .severalAnnotatedRegistrations)
  if entries.isEmpty then
    throw (.validation .noEntries)
  return (entries.mergeSort fun a b => a.order ≤ b.order).map (·.entry)

/-- The entries of a workload that also names an image. -/
def validate (a : TextMap) : Except Failure (List ConfigurationEntry) := do
  if (image? a).isNone then
    throw (.validation .noImage)
  configuration a

end GatewayOperator.Annotations
