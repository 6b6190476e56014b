import GatewayOperator.Gateway.Spec
import GatewayOperator.Gateway.Status
import GatewayOperator.Resource.Metadata
import GatewayOperator.WellKnown

/-!
# Gateways

A gateway is a custom resource: wishes, which its owner writes, and a status, which the operator
writes.

## Main Definitions

* `Gateway` — the custom resource.
* `Gateway.ownerReference?` — the reference that the objects made for a gateway carry.
-/

namespace GatewayOperator

/-- A gateway. -/
structure Gateway where
  /-- The metadata. -/
  metadata : Metadata
  /-- The wishes. -/
  spec : GatewaySpec
  /-- What has become of them. -/
  status : Option GatewayStatus
  deriving DecidableEq, Inhabited

namespace Gateway

/-- The type of gateways. -/
def type : TypeMeta :=
  ⟨WellKnown.group ++ "/" ++ WellKnown.gatewayVersion, WellKnown.gatewayKind⟩

/-- The object in the cluster's interface. -/
def toJson (g : Gateway) : Json :=
  .record (type.fields ++
    [("metadata", some g.metadata.toJson), ("spec", some g.spec.toJson),
      ("status", g.status.map GatewayStatus.toJson)])

/-- Reads a gateway; the group, version and kind at its head are not looked at. -/
def ofJson? : Json.Read Gateway := fun v => do
  let fields ← v.members? ["metadata", "spec", "status"]
  let metadata ← Json.required Metadata.ofJson? (Assoc.lookup "metadata" fields)
  let spec ← Json.required GatewaySpec.ofJson? (Assoc.lookup "spec" fields)
  let status ← Json.optional GatewayStatus.ofJson? (Assoc.lookup "status" fields)
  return ⟨metadata, spec, status⟩

/-- The name, empty if there is none. -/
def name (g : Gateway) : String := g.metadata.nameText

/-- The namespace, empty if there is none. -/
def namespaceText (g : Gateway) : String := g.metadata.namespaceText

/-- The reference that the objects made for a gateway carry, if it has a name and an identity. -/
def ownerReference? (g : Gateway) : Option OwnerReference :=
  match g.metadata.name, g.metadata.uid with
  | some name, some uid =>
    some
      { apiVersion := type.apiVersion
        kind := type.kind
        name
        uid
        controller := some true
        blockOwnerDeletion := none }
  | _, _ => none

end Gateway

end GatewayOperator
