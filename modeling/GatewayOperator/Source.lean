import GatewayOperator.Failure
import GatewayOperator.Registration

/-!
# Configuration sources

An entry that has all the fields its kind requires is a source, and only sources are resolved.

## Main Definitions

* `Source` — a place from which a layer of configuration comes.
* `Source.ofEntry` — the source of an entry, or what it lacks.
* `Source.ofEntries` — the sources of a list of entries, of which at most one is a registration.
-/

namespace GatewayOperator

/-- A header of a request. -/
inductive WebHeader where
  /-- The value is sent as it is. -/
  | literal (name value : String)
  /-- The value is read from a data entry of a secret. -/
  | secret (name secretName secretKey : String)
  deriving DecidableEq, Repr, Inhabited

/-- A place from which a layer of configuration comes. -/
inductive Source where
  /-- An inline document. -/
  | literal (value : String)
  /-- A data entry of a config map. -/
  | configMap (name key : String)
  /-- A document fetched over the network. -/
  | web (url : String) (headers : List WebHeader)
  /-- A client registration, whose layer is always the last. -/
  | registration (registration : Registration)
  deriving DecidableEq, Repr, Inhabited

namespace Source

/-- The kind of a source. -/
def kind : Source → SourceKind
  | .literal _ => .literal
  | .configMap .. => .configMap
  | .web .. => .web
  | .registration _ => .oidcRegistration

/-- The words for a data entry of a config map. -/
def describeConfigMap (name key : String) : String := "configmap " ++ name ++ "/" ++ key

/-- The words for a fetched document. -/
def describeWeb (url : String) : String := "web source " ++ url

/-- The words for a source. -/
def describe : Source → String
  | .literal _ => "literal value"
  | .configMap name key => describeConfigMap name key
  | .web url _ => describeWeb url
  | .registration r => "oidc registration " ++ r.discoveryEndpoint

/-- The config map that a source reads. -/
def configMapName? : Source → Option String
  | .configMap name _ => some name
  | _ => none

/-- The registration of a source. -/
def registration? : Source → Option Registration
  | .registration r => some r
  | _ => none

/-- Refuses a list with more than one registration. -/
def validate (sources : List Source) : Except Failure Unit :=
  let count := (sources.filterMap registration?).length
  if 1 < count then .error (.validation (.severalRegistrations count)) else .ok ()

/-- A field without the blanks at its ends, if anything is left. -/
def required (value : Option String) (field : String) (kind : SourceKind) :
    Except Failure String :=
  match (value.map Text.trim).bind Text.nonEmpty? with
  | some value => .ok value
  | none => .error (.validation (.missingField kind field))

/-- The header of an entry. -/
def headerOfEntry (entry : HeaderEntry) : Except Failure WebHeader :=
  if Text.isBlankText entry.name ∨ Text.isBlankText entry.value then
    .error (.validation .incompleteHeader)
  else
    match entry.kind with
    | .literal => .ok (.literal entry.name entry.value)
    | .secret =>
      match entry.secretKey.filter fun key => !Text.isBlankText key with
      | some key => .ok (.secret entry.name entry.value key)
      | none => .error (.validation (.headerWithoutKey entry.name))

/-- The registration field of an entry; a single value goes before a list. -/
def fieldOfEntry (entry : PostDataEntry) : Except Failure RegistrationField :=
  if Text.isBlankText entry.name then .error (.validation .postDataWithoutName)
  else
    match entry.value, entry.values with
    | some value, _ => .ok ⟨entry.name, .single value⟩
    | none, some (value :: values) => .ok ⟨entry.name, .multiple (value :: values)⟩
    | _, _ => .error (.validation (.postDataWithoutValue entry.name))

/-- The source of an entry, or the first thing it lacks. -/
def ofEntry (entry : ConfigurationEntry) : Except Failure Source := do
  match entry.kind with
  | .literal =>
    match entry.value with
    | some value => return .literal value
    | none => throw (.validation (.missingField .literal "value"))
  | .configMap =>
    let name ← required entry.name "name" .configMap
    let key ← required entry.dataKey "dataKey" .configMap
    return .configMap name key
  | .web =>
    let url ← required entry.url "url" .web
    let headers ← entry.headers.mapM headerOfEntry
    return .web url headers
  | .oidcRegistration =>
    let endpoint ← required entry.discoveryEndpoint "discoveryEndpoint" .oidcRegistration
    let secret ← required entry.secret "secret" .oidcRegistration
    let fields ← entry.postData.mapM fieldOfEntry
    return .registration ⟨endpoint, secret, fields⟩

/-- The sources of a list of entries, or the first thing that one of them lacks. -/
def ofEntries (entries : List ConfigurationEntry) : Except Failure (List Source) := do
  let sources ← entries.mapM ofEntry
  validate sources
  return sources

end Source

end GatewayOperator
