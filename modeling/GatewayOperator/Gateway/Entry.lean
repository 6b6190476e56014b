/-!
# Configuration entries

An entry says where one layer of a gateway's configuration comes from.  Entries are written in the
custom resource and, in another notation, in the annotations of a workload.

## Main Definitions

* `SourceKind`, `HeaderKind` — the kinds of sources and of request headers, with their names.
* `UnknownName` — a name that is none of them.
* `ConfigurationEntry` — the fields of an entry, all but the kind optional.
-/

namespace GatewayOperator

/-- A name that stands for nothing of its kind. -/
structure UnknownName where
  /-- What the name should stand for. -/
  what : String
  /-- The name. -/
  name : String
  deriving DecidableEq, Repr, Inhabited

/-- The wording of an unknown name. -/
def UnknownName.message (u : UnknownName) : String := "unknown " ++ u.what ++ " '" ++ u.name ++ "'"

/-- The kinds of configuration sources. -/
inductive SourceKind where
  /-- An inline document. -/
  | literal
  /-- A data entry of a config map. -/
  | configMap
  /-- A document fetched over the network. -/
  | web
  /-- A client registration with an identity provider. -/
  | oidcRegistration
  deriving DecidableEq, Repr, Inhabited

namespace SourceKind

/-- All kinds, in the order in which they are documented. -/
def all : List SourceKind := [.literal, .configMap, .web, .oidcRegistration]

/-- The name of a kind in resources and annotations. -/
def name : SourceKind → String
  | .literal => "literal"
  | .configMap => "configmap"
  | .web => "web"
  | .oidcRegistration => "oidc_registration"

/-- The kind of a name. -/
def ofName? (name : String) : Option SourceKind := all.find? fun kind => kind.name = name

/-- The kind of a name, or why there is none. -/
def read (name : String) : Except UnknownName SourceKind :=
  match ofName? name with
  | some kind => .ok kind
  | none => .error ⟨"configuration type", name⟩

end SourceKind

/-- The kinds of request headers. -/
inductive HeaderKind where
  /-- The value is sent as it is. -/
  | literal
  /-- The value names a secret that holds what is sent. -/
  | secret
  deriving DecidableEq, Repr, Inhabited

namespace HeaderKind

/-- All kinds, in the order in which they are documented. -/
def all : List HeaderKind := [.literal, .secret]

/-- The name of a kind in resources and annotations. -/
def name : HeaderKind → String
  | .literal => "literal"
  | .secret => "secret"

/-- The kind of a name. -/
def ofName? (name : String) : Option HeaderKind := all.find? fun kind => kind.name = name

/-- The kind of a name, or why there is none. -/
def read (name : String) : Except UnknownName HeaderKind :=
  match ofName? name with
  | some kind => .ok kind
  | none => .error ⟨"header type", name⟩

end HeaderKind

/-- A header of a web source. -/
structure HeaderEntry where
  /-- What the value means. -/
  kind : HeaderKind
  /-- The name of the header. -/
  name : String
  /-- The value, or the name of the secret that holds it. -/
  value : String
  /-- The data entry of the secret. -/
  secretKey : Option String
  deriving DecidableEq, Repr, Inhabited

/-- A field of a client registration. -/
structure PostDataEntry where
  /-- The name of the field. -/
  name : String
  /-- A single value. -/
  value : Option String
  /-- A list of values. -/
  values : Option (List String)
  deriving DecidableEq, Repr, Inhabited

/-- One configuration entry. -/
structure ConfigurationEntry where
  /-- The kind of source. -/
  kind : SourceKind
  /-- The name of a config map. -/
  name : Option String
  /-- The data entry of a config map. -/
  dataKey : Option String
  /-- The address of a web source. -/
  url : Option String
  /-- The headers of a web source. -/
  headers : List HeaderEntry
  /-- The inline document. -/
  value : Option String
  /-- The address of an identity provider's description. -/
  discoveryEndpoint : Option String
  /-- The secret of a client registration. -/
  secret : Option String
  /-- The fields of a client registration. -/
  postData : List PostDataEntry
  deriving DecidableEq, Repr, Inhabited

/-- The entry of a kind with no field set. -/
def ConfigurationEntry.bare (kind : SourceKind) : ConfigurationEntry :=
  ⟨kind, none, none, none, [], none, none, none, []⟩

end GatewayOperator
