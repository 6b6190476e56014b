import GatewayOperator.Injection.Annotations

/-!
# What a change of annotations concerns

## Main Definitions

* `Annotations.changedKeys` — the settings that differ between two states of a workload.
* `Annotations.partOf?` — the part of the injected gateway that a setting concerns.
* `UpdateScope` — the parts that have to be made anew.
* `Annotations.needsMutation` — whether anything has to be done.

## Design Notes

The environment of a running pod cannot be changed, so changes of it are not looked at in pods.
-/

namespace GatewayOperator

/-- The parts of an injected gateway. -/
inductive GatewayPart where
  /-- The service at which it is offered. -/
  | service
  /-- Its configuration. -/
  | config
  /-- Its container. -/
  | container
  deriving DecidableEq, Repr, Inhabited

/-- The parts that have to be made anew. -/
structure UpdateScope where
  /-- The service. -/
  service : Bool
  /-- The config map. -/
  config : Bool
  /-- The container. -/
  container : Bool
  deriving DecidableEq, Repr, Inhabited

namespace Annotations

/-- Whether the key of an annotation is one of the environment. -/
def isEnvKey (key : String) : Bool := Text.hasPrefix (WellKnown.vendorPrefix ++ envKey) key

/-- The settings that differ between two states of a workload, in order. -/
def changedKeys (incoming live : TextMap) (isPod : Bool) : List String :=
  (sortedDistinct (incoming.keys ++ live.keys)).filter fun key =>
    Text.hasPrefix WellKnown.vendorPrefix key && !(isPod && isEnvKey key) &&
      incoming.get? key ≠ live.get? key

/-- The part of the gateway that a setting concerns. -/
def partOf? (key : String) : Option GatewayPart :=
  match Text.stripPrefix? WellKnown.vendorPrefix key with
  | none => none
  | some setting =>
    if Text.hasPrefix configurationKey setting then some .config
    else if Text.hasPrefix servicePortKey setting then some .service
    else if Text.hasPrefix imageKey setting || Text.hasPrefix envKey setting then
      some .container
    else none

/-- Whether an update has to do anything. -/
def updateNeedsMutation (incoming live : TextMap) (isPod : Bool) : Bool :=
  (changedKeys incoming live isPod).any fun key => (partOf? key).isSome

/-- Whether anything has to be done: for a new workload, if it has any setting at all. -/
def needsMutation (incoming : TextMap) (live : Option TextMap) (isPod : Bool) : Bool :=
  match live with
  | none => hasSettings incoming
  | some live => updateNeedsMutation incoming live isPod

end Annotations

/-- The parts that have to be made anew for some changes; a container reads the configuration, so
it is made anew with it. -/
def UpdateScope.ofChanges (changed : List String) : UpdateScope :=
  let parts := changed.filterMap Annotations.partOf?
  { service := parts.contains .service
    config := parts.contains .config
    container := parts.contains .config || parts.contains .container }

end GatewayOperator
