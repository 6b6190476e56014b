import GatewayOperator.Cluster
import GatewayOperator.Program

/-!
# A world that answers

A world is a cluster whose calls can be made to fail, a network with a fixed answer for each
address, and a clock.  It answers the questions of programs and keeps a record of them.

## Main Definitions

* `World` — the cluster, the network, the clock and the record.
* `World.respond` — the answer to a question.
* `World.perform` — a program run in a world.

## Design Notes

A call that is to fail does so before the cluster is looked at, but only after a new object has got
its name.
-/

namespace GatewayOperator

/-- What became of a call. -/
inductive CallResult where
  /-- It was carried out. -/
  | ok
  /-- The object was missing. -/
  | notFound
  /-- It was refused. -/
  | rejected
  deriving DecidableEq, Repr, Inhabited

/-- A call to the cluster. -/
structure StoreCall where
  /-- The operation. -/
  operation : String
  /-- The kind of the object. -/
  kind : ObjectKind
  /-- The object. -/
  key : ObjectKey
  /-- What is written. -/
  object : Option Json := none
  deriving Inhabited

/-- An entry of the record. -/
inductive Occurrence where
  /-- A call, and what became of it. -/
  | call (call : StoreCall) (result : CallResult)
  /-- A report on a gateway. -/
  | event (namespace_ name : Option String) (event : Event)
  deriving Inhabited

/-- A cluster, a network and a clock, with a record of what was asked. -/
structure World where
  /-- The cluster. -/
  cluster : Cluster
  /-- The operations that are refused. -/
  failing : List String := []
  /-- The operations that find nothing. -/
  losing : List String := []
  /-- The answers of the network. -/
  routes : Dict String HttpResponse := ∅
  /-- The time. -/
  clock : String := ""
  /-- What was asked of the cluster, the last first. -/
  occurrences : List Occurrence := []
  /-- The requests that were sent, the last first. -/
  requests : List HttpRequest := []
  /-- What was counted, the last first. -/
  measurements : List Measurement := []
  deriving Inhabited

namespace World

/-- Why a call fails that is to fail. -/
def fault? (w : World) (call : StoreCall) : Option StoreError :=
  if w.failing.contains call.operation then
    some (.rejected call.operation call.kind call.key.name "injected failure")
  else if w.losing.contains call.operation then some (.notFound call.kind call.key.name)
  else none

/-- What became of a call. -/
def resultOf {α : Type} : Except StoreError α → CallResult
  | .ok _ => .ok
  | .error (.notFound ..) => .notFound
  | .error _ => .rejected

/-- Carries out a call and records it. -/
def carryOut {α : Type} (w : World) (call : StoreCall)
    (effect : Cluster → Except StoreError (α × Cluster)) : Except StoreError α × World :=
  let outcome := match w.fault? call with
    | some fault => .error fault
    | none => effect w.cluster
  let recorded := .call call (resultOf outcome) :: w.occurrences
  match outcome with
  | .ok (value, cluster) => (.ok value, { w with cluster, occurrences := recorded })
  | .error fault => (.error fault, { w with occurrences := recorded })

/-- The answer of the network. -/
def fetch (w : World) (request : HttpRequest) : Except String HttpResponse :=
  match w.routes.get? request.url with
  | some response => .ok response
  | none => .error "connection refused"

/-- The answer to a question. -/
def respond : (q : Query) → World → q.Answer × World
  | .getConfigMap ns name, w =>
    w.carryOut ⟨"get_config_map", .configMap, ⟨ns, name⟩, none⟩ fun c =>
      (c.configMaps.fetch .configMap ⟨ns, name⟩).map (·, c)
  | .createConfigMap ns object, w =>
    let (metadata, cluster) := w.cluster.christen ns object.metadata
    let object := { object with metadata }
    let key : ObjectKey := ⟨ns, metadata.nameText⟩
    { w with cluster }.carryOut
      ⟨"create_config_map", .configMap, key, some object.toJson⟩ fun c =>
        (c.configMaps.place "create_config_map" .configMap key object).map fun configMaps =>
          (object, { c with configMaps })
  | .replaceConfigMap ns object, w =>
    let key : ObjectKey := ⟨ns, object.metadata.nameText⟩
    w.carryOut ⟨"replace_config_map", .configMap, key, some object.toJson⟩ fun c =>
      (c.configMaps.overwrite .configMap key object).map fun configMaps =>
        (object, { c with configMaps })
  | .deleteConfigMap ns name, w =>
    w.carryOut ⟨"delete_config_map", .configMap, ⟨ns, name⟩, none⟩ fun c =>
      (c.configMaps.remove .configMap ⟨ns, name⟩).map fun configMaps =>
        ((), { c with configMaps })
  | .getSecret ns name, w =>
    w.carryOut ⟨"get_secret", .secret, ⟨ns, name⟩, none⟩ fun c =>
      (c.secrets.fetch .secret ⟨ns, name⟩).map (·, c)
  | .replaceSecret ns object, w =>
    let key : ObjectKey := ⟨ns, object.metadata.nameText⟩
    w.carryOut ⟨"replace_secret", .secret, key, some object.toJson⟩ fun c =>
      (c.secrets.overwrite .secret key object).map fun secrets => (object, { c with secrets })
  | .createService ns object, w =>
    let (metadata, cluster) := w.cluster.christen ns object.metadata
    let object := { object with metadata }
    let key : ObjectKey := ⟨ns, metadata.nameText⟩
    { w with cluster }.carryOut ⟨"create_service", .service, key, some object.toJson⟩ fun c =>
      (c.services.place "create_service" .service key object).map fun services =>
        (object, { c with services })
  | .deleteService ns name, w =>
    w.carryOut ⟨"delete_service", .service, ⟨ns, name⟩, none⟩ fun c =>
      (c.services.remove .service ⟨ns, name⟩).map fun services => ((), { c with services })
  | .getDeployment ns name, w =>
    w.carryOut ⟨"get_deployment", .deployment, ⟨ns, name⟩, none⟩ fun c =>
      (c.deployments.fetch .deployment ⟨ns, name⟩).map (·, c)
  | .createDeployment ns object, w =>
    let (metadata, cluster) := w.cluster.christen ns object.metadata
    let object := { object with metadata }
    let key : ObjectKey := ⟨ns, metadata.nameText⟩
    { w with cluster }.carryOut
      ⟨"create_deployment", .deployment, key, some object.toJson⟩ fun c =>
        (c.deployments.place "create_deployment" .deployment key object).map fun deployments =>
          (object, { c with deployments })
  | .replaceDeployment ns object, w =>
    let key : ObjectKey := ⟨ns, object.metadata.nameText⟩
    w.carryOut ⟨"replace_deployment", .deployment, key, some object.toJson⟩ fun c =>
      (c.deployments.overwrite .deployment key object).map fun deployments =>
        (object, { c with deployments })
  | .patchStatus ns name status, w =>
    w.carryOut ⟨"patch_gateway_status", .gateway, ⟨ns, name⟩, some status.toJson⟩ fun c =>
      .ok ((), { c with statuses := c.statuses.insert ⟨ns, name⟩ status })
  | .publish g event, w =>
    let report : Occurrence := .event g.metadata.namespace_ g.metadata.name event
    ((), { w with occurrences := report :: w.occurrences })
  | .fetch request, w => (w.fetch request, { w with requests := request :: w.requests })
  | .now, w => (w.clock, w)
  | .measure m, w => ((), { w with measurements := m :: w.measurements })

/-- A program run in a world. -/
def perform {α : Type} (w : World) (program : Program α) : α × World := program.run respond w

/-- The world with an empty record. -/
def forget (w : World) : World := { w with occurrences := [], requests := [] }

/-- The world in which an operation works again. -/
def heal (w : World) (operation : String) : World :=
  { w with
    failing := w.failing.filter (· ≠ operation)
    losing := w.losing.filter (· ≠ operation) }

end World

end GatewayOperator
