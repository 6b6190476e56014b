import GatewayOperator.Gateway

/-!
# Reporting on a gateway

## Main Definitions

* `Rollout` — what a successful pass has left running.
* `Gateway.nextStatus` — the status after a pass.

## Design Notes

The time of the condition is the time since which it holds, so it is kept as long as the gateway
stays ready or stays not ready.  A pass that has failed says nothing about what is running, and the
status keeps what it said before.
-/

namespace GatewayOperator

/-- What a successful pass has left running. -/
structure Rollout where
  /-- The number of pods. -/
  replicas : Int
  /-- The version of the configuration. -/
  version : String
  /-- The config map that holds the configuration. -/
  configMapName : String
  deriving DecidableEq

/-- The status before the first pass. -/
def GatewayStatus.initial : GatewayStatus := ⟨false, none, none, none, [], none⟩

namespace Gateway

/-- The name of the condition that says whether the last pass succeeded. -/
def readyCondition : String := "Ready"

/-- The value of a condition. -/
def conditionValue (holds : Bool) : String := if holds then "True" else "False"

/-- Since when the gateway has been as ready as it is, if that is known. -/
def readySince? (status : GatewayStatus) (ready : Bool) : Option String :=
  (status.conditions.find? fun c =>
    c.type = readyCondition && c.status = conditionValue ready).bind (·.lastTransitionTime)

/-- The status after a pass. -/
def nextStatus (g : Gateway) (now : String) (ready : Bool) (reason message : String)
    (rollout : Option Rollout) : GatewayStatus :=
  let previous := g.status.getD .initial
  { ready
    replicas := (rollout.map (·.replicas)).or previous.replicas
    version := (rollout.map (·.version)).or previous.version
    configMapName := (rollout.map (·.configMapName)).or previous.configMapName
    conditions :=
      [{ type := readyCondition
         status := conditionValue ready
         lastTransitionTime := some ((readySince? previous ready).getD now)
         reason := some reason
         message := some message }]
    observedGeneration := g.metadata.generation }

end Gateway

end GatewayOperator
