import GatewayOperator.Backoff
import GatewayOperator.Resolution
import GatewayOperator.Rollout.GeneratedConfigMap
import GatewayOperator.Rollout.Report

/-!
# One pass over a gateway

## Main Definitions

* `Gateway.ensureConfigMap` — makes sure that a config map holds the document of a gateway.
* `Gateway.converge` — takes the next step towards the workload of a gateway.
* `Gateway.rollOut` — a pass, up to the report of a failure.
* `Gateway.reconcile` — a pass.
* `Gateway.retryLater` — what follows from a pass that has failed.

## Design Notes

The document is written before the workload that reads it.  A config map that was made for a
workload which then could not be made is removed again, because nothing would know of it.
-/

namespace GatewayOperator

/-- When a gateway is looked at again. -/
inductive Requeue where
  /-- When something has changed. -/
  | awaitChange
  /-- After some seconds. -/
  | after (seconds : Nat)
  deriving DecidableEq, Repr, Inhabited

/-- The config map that holds the document of a gateway. -/
structure GeneratedConfigMap where
  /-- Its name. -/
  name : String
  /-- The version of the document. -/
  version : String
  /-- Whether it has just been made. -/
  created : Bool
  deriving DecidableEq, Repr, Inhabited

namespace Gateway

/-- Makes a config map for a document. -/
def createConfigMap (g : Gateway) (document : String) : Attempt GeneratedConfigMap := do
  let made ← Attempt.ofStore
    (Program.query (.createConfigMap g.namespaceText (g.generatedConfigMap document)))
  return ⟨made.metadata.nameText, configVersion document, true⟩

/-- Makes sure that a config map holds a document. -/
def refreshConfigMap (g : Gateway) (existing : ConfigMap) (document : String) :
    Attempt GeneratedConfigMap := do
  unless existing.entry? WellKnown.configKey = some document do
    let _ ← Attempt.ofStore (Program.query
      (.replaceConfigMap g.namespaceText (existing.setEntry WellKnown.configKey document)))
  return ⟨existing.metadata.nameText, configVersion document, false⟩

/-- The config map that a gateway has. -/
def findConfigMap (g : Gateway) (live : Option Deployment) : Attempt (Option ConfigMap) :=
  match g.currentConfigMap? live with
  | some name => Attempt.found (Program.query (.getConfigMap g.namespaceText name))
  | none => return none

/-- Makes sure that a config map holds the document of a gateway. -/
def ensureConfigMap (g : Gateway) (live : Option Deployment) (document : String) :
    Attempt GeneratedConfigMap := do
  match ← g.findConfigMap live with
  | some existing => g.refreshConfigMap existing document
  | none => g.createConfigMap document

/-- Reports that something was done. -/
def announce (g : Gateway) (reason note : String) : Attempt Unit :=
  ExceptT.lift (Program.query (.publish g ⟨.normal, reason, note⟩))

/-- Makes the workload of a gateway; if that fails, a config map that was made for it goes. -/
def createWorkload (g : Gateway) (desired : DesiredWorkload) (configMap : GeneratedConfigMap) :
    Attempt Unit := ExceptT.mk do
  match ← Program.query (.createDeployment g.namespaceText (desired.deployment g)) with
  | .ok _ => return .ok ()
  | .error cause =>
    if configMap.created then
      let _ ← Program.query (.deleteConfigMap g.namespaceText configMap.name)
    return .error (.ofStore cause)

/-- What a pass has come to. -/
structure Step where
  /-- When the gateway is looked at again. -/
  requeue : Requeue
  /-- What was done, in a sentence. -/
  message : String
  deriving DecidableEq, Repr, Inhabited

/-- Takes the next step towards the workload of a gateway. -/
def converge (g : Gateway) (resyncSeconds : Nat) (desired : DesiredWorkload)
    (configMap : GeneratedConfigMap) (live : Option Deployment) : Attempt Step := do
  match plan desired (live.map LiveWorkload.ofDeployment), live with
  | .create, _ =>
    g.createWorkload desired configMap
    g.announce "Created"
      ("Created Deployment " ++ g.name ++ " with config version " ++ configMap.version)
    return ⟨.awaitChange, "Deployment created"⟩
  | .scale replicas, some deployment =>
    let _ ← Attempt.ofStore
      (Program.query (.replaceDeployment g.namespaceText (deployment.scale replicas)))
    return ⟨.awaitChange, "Scaled to " ++ toString replicas ++ " replicas"⟩
  | .update cause, some deployment =>
    let _ ← Attempt.ofStore (Program.query
      (.replaceDeployment g.namespaceText (desired.updateDeployment cause deployment)))
    g.announce "Updated" cause
    return ⟨.awaitChange, cause⟩
  | _, _ =>
    Attempt.measure (.requeue .resync)
    return ⟨.after resyncSeconds, "Gateway is up to date"⟩

/-- Writes a status unless it is the one the gateway has. -/
def updateStatus (g : Gateway) (status : GatewayStatus) : Program (Except StoreError Unit) :=
  if g.status = some status then return .ok ()
  else Program.query (.patchStatus g.namespaceText g.name status)

/-- A pass, up to the report of a failure. -/
def rollOut (g : Gateway) (resyncSeconds : Nat) : Attempt Requeue := do
  let live ← Attempt.found (Program.query (.getDeployment g.namespaceText g.name))
  let sources ← Attempt.ofExcept (Source.ofEntries g.spec.configuration)
  let document ← resolve g.namespaceText sources
  let configMap ← g.ensureConfigMap live document.render
  let desired := DesiredWorkload.ofGateway g configMap.version configMap.name
  let step ← g.converge resyncSeconds desired configMap live
  let now ← ExceptT.lift (Program.query .now)
  let rollout : Rollout := ⟨desired.replicas, configMap.version, configMap.name⟩
  Attempt.ofStore (g.updateStatus (g.nextStatus now true "Reconciled" step.message (some rollout)))
  return step.requeue

/-- The reason for which a failure is reported. -/
def failedReason : String := "Failed"

/-- Reports a failure; that the report itself fails is of no consequence. -/
def reportFailure (g : Gateway) (failure : Failure) : Program Unit := do
  Program.query (.publish g ⟨.warning, failedReason, failure.message⟩)
  let now ← Program.query .now
  let _ ← g.updateStatus (g.nextStatus now false failedReason failure.message none)

/-- The key under which the failures of a gateway are counted by a pass. -/
def ledgerKey (g : Gateway) : String := FailureLedger.key g.namespaceText g.name

/-- A pass: a success ends the delays of the gateway. -/
def reconcile (g : Gateway) (resyncSeconds : Nat) (ledger : FailureLedger) :
    Program (Except Failure Requeue × FailureLedger) := do
  Program.query (.measure .reconciliation)
  let result ← (g.rollOut resyncSeconds).run
  Program.query (.measure .reconciliationDuration)
  match result with
  | .ok requeue => return (.ok requeue, ledger.succeed g.ledgerKey)
  | .error failure =>
    g.reportFailure failure
    return (.error failure, ledger)

/-- The key under which the failures of a gateway are counted when it is put off. -/
def retryKey (g : Gateway) : String :=
  FailureLedger.key (g.metadata.namespace_.getD "default") (g.metadata.name.getD "unknown")

/-- What follows from a pass that has failed: the gateway is looked at again after its delay. -/
def retryLater (g : Gateway) (min max : UInt64) (ledger : FailureLedger) :
    Program (Requeue × FailureLedger) := do
  Program.query (.measure .reconciliationError)
  let (retry, ledger) := FailureLedger.fail min max g.retryKey ledger
  Program.query (.measure (.requeue .errorBackoff))
  return (.after retry.seconds.toNat, ledger)

end Gateway

end GatewayOperator
