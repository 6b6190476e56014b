import GatewayOperator.Http.Address
import GatewayOperator.Json.Decode
import GatewayOperator.Settings
import GatewayOperator.Yaml.ToJson

/-!
# Access to a cluster

A file names clusters, and contexts in which to speak to them.  The operator speaks to the cluster
of the current context.

## Main Definitions

* `Kubeconfig` — the contents of the file.
* `Kubeconfig.read?` — the contents that a text holds.
* `Kubeconfig.ofEnvironment?` — the contents of the files that an environment names.
* `ClusterAccess` — a cluster that can be spoken to.
* `Kubeconfig.access?` — the cluster of the current context.

## Design Notes

An entry may be there without contents, and then stands in the way of a later entry of the same
name.  Who speaks to the cluster is not modelled: a context may name nobody, or somebody unknown.
-/

namespace GatewayOperator

/-- A cluster. -/
structure ClusterEntry where
  /-- Its address. -/
  server : Option String
  deriving DecidableEq, Repr, Inhabited

/-- Where and as whom to speak to a cluster. -/
structure ContextEntry where
  /-- The name of the cluster. -/
  cluster : String
  /-- As whom. -/
  user : Option String
  /-- The namespace that is meant where none is named. -/
  namespace_ : Option String
  deriving DecidableEq, Repr, Inhabited

/-- The contents of the file. -/
structure Kubeconfig where
  /-- The clusters by name. -/
  clusters : List (String × Option ClusterEntry)
  /-- The contexts by name. -/
  contexts : List (String × Option ContextEntry)
  /-- The name of the current context. -/
  currentContext : Option String
  /-- The kind of the file. -/
  kind : Option String
  /-- The version of the file. -/
  apiVersion : Option String
  deriving DecidableEq, Repr, Inhabited

/-- A cluster that can be spoken to. -/
structure ClusterAccess where
  /-- Its address. -/
  server : Address
  /-- The namespace that is meant where none is named. -/
  namespace_ : String
  deriving DecidableEq, Repr, Inhabited

/-- Reads the address of a cluster. -/
def ClusterEntry.ofJson? : Json.Read ClusterEntry := fun v => do
  let fields ← v.members? ["server", "insecure-skip-tls-verify", "certificate-authority",
    "certificate-authority-data", "proxy-url", "tls-server-name"]
  let server ← Json.optional Json.readText (Assoc.lookup "server" fields)
  let _ ← Json.optional Json.readBool (Assoc.lookup "insecure-skip-tls-verify" fields)
  let _ ← Json.optional Json.readText (Assoc.lookup "certificate-authority" fields)
  let _ ← Json.optional Json.readText (Assoc.lookup "certificate-authority-data" fields)
  let _ ← Json.optional Json.readText (Assoc.lookup "proxy-url" fields)
  let _ ← Json.optional Json.readText (Assoc.lookup "tls-server-name" fields)
  return ⟨server⟩

/-- Reads a context. -/
def ContextEntry.ofJson? : Json.Read ContextEntry := fun v => do
  let fields ← v.members? ["cluster", "user", "namespace"]
  let cluster ← Json.required Json.readText (Assoc.lookup "cluster" fields)
  let user ← Json.optional Json.readText (Assoc.lookup "user" fields)
  let namespace_ ← Json.optional Json.readText (Assoc.lookup "namespace" fields)
  return ⟨cluster, user, namespace_⟩

namespace Kubeconfig

/-- Reads a named entry, its contents under `field`. -/
def readNamed {α : Type} (field : String) (read : Json.Read α) :
    Json.Read (String × Option α) := fun v => do
  let fields ← v.members? ["name", field]
  let name ← Json.required Json.readText (Assoc.lookup "name" fields)
  let contents ← Json.optional read (Assoc.lookup field fields)
  return (name, contents)

/-- Reads somebody who speaks to a cluster. -/
def readUser : Json.Read Unit := fun v => do
  let names := ["username", "password", "token", "tokenFile", "client-certificate",
    "client-certificate-data", "client-key", "client-key-data", "as"]
  let fields ← v.members? names
  for name in names do
    let _ ← Json.optional Json.readText (Assoc.lookup name fields)

/-- The contents of the file as a value. -/
def ofJson? : Json.Read Kubeconfig := fun v => do
  let fields ← v.members? ["preferences", "clusters", "users", "contexts", "current-context",
    "extensions", "kind", "apiVersion"]
  let list {α : Type} (name field : String) (read : Json.Read α) :=
    Json.lenient [] (Json.readList (readNamed field read)) (Assoc.lookup name fields)
  let clusters ← list "clusters" "cluster" ClusterEntry.ofJson?
  let _ ← list "users" "user" readUser
  let contexts ← list "contexts" "context" ContextEntry.ofJson?
  let currentContext ← Json.optional Json.readText (Assoc.lookup "current-context" fields)
  let kind ← Json.optional Json.readText (Assoc.lookup "kind" fields)
  let apiVersion ← Json.optional Json.readText (Assoc.lookup "apiVersion" fields)
  return ⟨clusters, contexts, currentContext, kind, apiVersion⟩

/-- The contents that a text holds. -/
def read? (text : String) : Option Kubeconfig := do
  ofJson? (← (← (Yaml.Value.read text).toOption).toJson?)

/-- Whether two statements agree, if both are made. -/
def agree (a b : Option String) : Bool :=
  match a, b with
  | some a, some b => a = b
  | _, _ => true

/-- The entries of two files; those of the first one hide those of the second. -/
def append {α : Type} (first second : List (String × α)) : List (String × α) :=
  first ++ second.filter fun entry => !(first.map (·.1)).contains entry.1

/-- The contents of two files of the same kind and version; what the first one says counts. -/
def merge? (a b : Kubeconfig) : Option Kubeconfig :=
  if agree a.kind b.kind && agree a.apiVersion b.apiVersion then
    some
      { clusters := append a.clusters b.clusters
        contexts := append a.contexts b.contexts
        currentContext := a.currentContext.or b.currentContext
        kind := a.kind.or b.kind
        apiVersion := a.apiVersion.or b.apiVersion }
  else none

/-- The variable that names files. -/
def variableName : String := "KUBECONFIG"

/-- Where the file stands in a home directory. -/
def homePath : String := "/.kube/config"

/-- The paths of the files in an environment: those that a variable names, or else one in the home
directory. -/
def paths (e : Environment) : List String :=
  match (((e.get? variableName).map (Text.splitOnChar ':')).getD []).filter (!·.isEmpty) with
  | [] => ((e.get? "HOME").filter (!·.isEmpty)).toList.map (· ++ homePath)
  | named => named

/-- The contents of all files of an environment; each of them must be readable. -/
def ofEnvironment? (e : Environment) (files : Files) : Option Kubeconfig := do
  let contents ← (paths e).mapM fun path => (files.get? path).bind read?
  contents.foldlM merge? ⟨[], [], none, none, none⟩

/-- The contents of the first entry of a name. -/
def find? {α : Type} (entries : List (String × Option α)) (name : String) : Option α :=
  (entries.find? fun entry => entry.1 = name).bind Prod.snd

/-- The namespace of a context that names none. -/
def defaultNamespace : String := "default"

/-- The cluster of the current context. -/
def access? (k : Kubeconfig) : Option ClusterAccess := do
  let context ← find? k.contexts (← k.currentContext)
  let cluster ← find? k.clusters context.cluster
  let server ← Address.read? (← cluster.server)
  return ⟨server, context.namespace_.getD defaultNamespace⟩

end Kubeconfig

end GatewayOperator
