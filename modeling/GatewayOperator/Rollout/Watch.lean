import GatewayOperator.ClusterApi
import GatewayOperator.Rollout.Reconcile
import GatewayOperator.Rollout.Trigger
import GatewayOperator.Settings

/-!
# Watching gateways

The operator lists the gateways once and is told of every change from then on: of the gateways, of
the workloads made for them and of the config maps that they read.

## Main Definitions

* `Notice` — what the operator is told.
* `Watch` — what has become of the watching, and the gateways it knows.
* `Watch.start` — the beginning, with the list of gateways.
* `Watch.tell` — what a notice changes, and which gateways it is about.
* `Gateway.visit` — a pass, and what follows if it fails.

## Design Notes

A pass works on the gateway as it was last told, so a status that a pass has written counts only
once it comes back as a notice.  An error among the notices holds up all of them until some time
has passed.
-/

namespace GatewayOperator

/-- What the operator is told. -/
inductive Notice where
  /-- A gateway is new or has changed. -/
  | gatewayApplied (g : Gateway)
  /-- A gateway is gone. -/
  | gatewayGone (g : Gateway)
  /-- Something happened to a workload. -/
  | deployment (d : Deployment)
  /-- Something happened to a config map. -/
  | configMap (c : ConfigMap)
  /-- The notice cannot be read, or reports an error. -/
  | broken
  deriving Inhabited

namespace Notice

/-- What a change of an object of a kind is. -/
def ofObject? (kind : ObjectKind) (gone : Bool) (object : Json) : Option Notice :=
  match kind with
  | .gateway => (Gateway.ofJson? object).map (if gone then gatewayGone else gatewayApplied)
  | .deployment => (Deployment.ofJson? object).map deployment
  | .configMap => (ConfigMap.ofJson? object).map configMap
  | _ => none

/-- The notice of a type about an object of a kind. -/
def read (kind : ObjectKind) (type : String) (object : Json) : Notice :=
  if type = "ADDED" ∨ type = "MODIFIED" then (ofObject? kind false object).getD broken
  else if type = "DELETED" then (ofObject? kind true object).getD broken
  else broken

end Notice

namespace Gateway

/-- The name under which a gateway is known. -/
def knownName (g : Gateway) : String := ClusterApi.currentName g.metadata

/-- Whether two gateways are versions of one. -/
def isSame (g h : Gateway) : Bool :=
  g.metadata.namespace_ = h.metadata.namespace_ && g.knownName = h.knownName

/-- Whether an object names a gateway as its owner. -/
def owns (g : Gateway) (d : Deployment) : Bool :=
  d.metadata.namespace_ = g.metadata.namespace_ &&
    (d.metadata.ownerReferences.getD []).any fun owner =>
      owner.apiVersion = type.apiVersion && owner.kind = type.kind && owner.name = g.knownName

/-- A pass, and what follows if it fails. -/
def visit (g : Gateway) (s : Settings) (ledger : FailureLedger) : Program FailureLedger := do
  match ← g.reconcile s.resyncSeconds ledger with
  | (.ok _, ledger) => return ledger
  | (.error _, ledger) =>
    return (← g.retryLater s.backoffMinMinutes s.backoffMaxMinutes ledger).2

end Gateway

/-- What has become of the watching. -/
inductive Watch where
  /-- The operator was not ready, so nothing was begun. -/
  | idle
  /-- The gateways cannot be asked for. -/
  | unaddressable
  /-- The gateways could not be listed. -/
  | unlisted
  /-- These gateways are known, and notices of changes come in. -/
  | running (known : List Gateway)
  /-- These gateways are known, and notices are held up. -/
  | heldUp (known : List Gateway)
  deriving Inhabited

namespace Watch

/-- The kinds of objects that are watched. -/
def kinds : List ObjectKind := [.configMap, .gateway, .deployment]

/-- The paths at which they are found. -/
def paths (s : Settings) : List String := kinds.map (ClusterApi.scopePath · s.watchNamespace)

/-- Takes note of a gateway in place of its earlier version. -/
def note (known : List Gateway) (g : Gateway) : List Gateway :=
  known.filter (!g.isSame ·) ++ [g]

/-- The beginning: a reply with the list of gateways. -/
def start (s : Settings) (ready : Bool) (status : Nat) (items : List Json) : Watch :=
  if !ready then idle
  else if (paths s).any fun path => (ClusterApi.requestPath? path).isNone then unaddressable
  else if (ApiReply.mk status "").isFailure then unlisted
  else match items.mapM Gateway.ofJson? with
    | some gateways => running (gateways.foldl note [])
    | none => unlisted

/-- The gateways that are known. -/
def known : Watch → List Gateway
  | idle | unaddressable | unlisted => []
  | running known | heldUp known => known

/-- What a notice changes, and the gateways that it is about. -/
def tell (notice : Notice) : Watch → Watch × List Gateway
  | running known =>
    match notice with
    | .gatewayApplied g => (running (note known g), [g])
    | .gatewayGone g => (running (known.filter (!g.isSame ·)), [])
    | .deployment d => (running known, known.filter (·.owns d))
    | .configMap c => (running known, gatewaysReferringTo known c)
    | .broken => (heldUp known, [])
  | other => (other, [])

/-- What the cluster has been asked for: the lists, and then the changes. -/
def asked (s : Settings) : Watch → List String
  | idle | unaddressable => []
  | unlisted => (paths s).map ("LIST " ++ ·)
  | running _ | heldUp _ => (paths s).map ("LIST " ++ ·) ++ (paths s).map ("WATCH " ++ ·)

/-- Whether the watching is over before it is told to stop. -/
def isOver : Watch → Bool
  | idle => true
  | _ => false

/-- Whether the watching ends when it is told to: it does not while the list is awaited. -/
def stops : Watch → Bool
  | unaddressable | unlisted => false
  | _ => true

/-- One pass over each of some gateways. -/
def visitAll (s : Settings) : List Gateway → FailureLedger → Program FailureLedger
  | [], ledger => return ledger
  | g :: rest, ledger => do visitAll s rest (← g.visit s ledger)

end Watch

end GatewayOperator
