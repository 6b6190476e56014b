import GatewayOperator.Json.Decode

/-!
# What has become of a gateway

## Main Definitions

* `Condition` — one observation, with the time since which it holds.
* `GatewayStatus` — what the last pass over a gateway left behind.
* `GatewayStatus.toJson`, `GatewayStatus.ofJson?` — its form in the cluster's interface.
-/

namespace GatewayOperator

open Json

/-- One observation. -/
structure Condition where
  /-- What is observed. -/
  type : String
  /-- Whether it holds. -/
  status : String
  /-- Since when. -/
  lastTransitionTime : Option String
  /-- Why, in one word. -/
  reason : Option String
  /-- Why, in a sentence. -/
  message : Option String
  deriving DecidableEq, Inhabited

namespace Condition

/-- The observation in the cluster's interface. -/
def toJson (c : Condition) : Json :=
  .object
    [("type", .string c.type), ("status", .string c.status),
      ("lastTransitionTime", ofOption .string c.lastTransitionTime),
      ("reason", ofOption .string c.reason), ("message", ofOption .string c.message)]

/-- Reads an observation. -/
def ofJson? : Json.Read Condition := fun v => do
  let fields ← v.members? ["type", "status", "lastTransitionTime", "reason", "message"]
  let type ← required readText (Assoc.lookup "type" fields)
  let status ← required readText (Assoc.lookup "status" fields)
  let time ← optional readText (Assoc.lookup "lastTransitionTime" fields)
  let reason ← optional readText (Assoc.lookup "reason" fields)
  let message ← optional readText (Assoc.lookup "message" fields)
  return ⟨type, status, time, reason, message⟩

end Condition

/-- What the last pass over a gateway left behind. -/
structure GatewayStatus where
  /-- Whether the last pass succeeded. -/
  ready : Bool
  /-- The number of pods. -/
  replicas : Option Int
  /-- The version of the configuration that is rolled out. -/
  version : Option String
  /-- The config map that holds the configuration. -/
  configMapName : Option String
  /-- The observations. -/
  conditions : List Condition
  /-- The number of changes to the wishes that had been seen. -/
  observedGeneration : Option Int
  deriving DecidableEq, Inhabited

namespace GatewayStatus

/-- The status in the cluster's interface. -/
def toJson (s : GatewayStatus) : Json :=
  .object
    [("ready", .bool s.ready), ("replicas", ofOption .int s.replicas),
      ("version", ofOption .string s.version),
      ("configMapName", ofOption .string s.configMapName),
      ("conditions", Json.ofList Condition.toJson s.conditions),
      ("observedGeneration", ofOption .int s.observedGeneration)]

/-- The fields of a status, in order. -/
def fieldNames : List String :=
  ["ready", "replicas", "version", "configMapName", "conditions", "observedGeneration"]

/-- Reads a status. -/
def ofJson? : Json.Read GatewayStatus := fun v => do
  let fields ← v.members? fieldNames
  let ready ← defaulting false readBool (Assoc.lookup "ready" fields)
  let replicas ← optional readInt32 (Assoc.lookup "replicas" fields)
  let version ← optional readText (Assoc.lookup "version" fields)
  let configMapName ← optional readText (Assoc.lookup "configMapName" fields)
  let conditions ← defaulting [] (readList Condition.ofJson?) (Assoc.lookup "conditions" fields)
  let generation ← optional readInt64 (Assoc.lookup "observedGeneration" fields)
  return ⟨ready, replicas, version, configMapName, conditions, generation⟩

end GatewayStatus

end GatewayOperator
