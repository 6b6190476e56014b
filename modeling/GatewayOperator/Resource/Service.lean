import GatewayOperator.Resource.Metadata

/-!
# Network services

## Main Definitions

* `Service` — a service with its ports and the labels of the workloads it leads to.
-/

namespace GatewayOperator

/-- A port by number or by name. -/
inductive PortTarget where
  /-- A number. -/
  | number (port : Int)
  /-- The name of a port. -/
  | named (name : String)
  deriving DecidableEq, Inhabited

/-- The port in the cluster's interface. -/
def PortTarget.toJson : PortTarget → Json
  | .number port => .int port
  | .named name => .string name

/-- Reads a port. -/
def PortTarget.ofJson? : Json.Read PortTarget
  | .string name => some (.named name)
  | v => (Json.readInt32 v).map .number

/-- A port of a service. -/
structure ServicePort where
  /-- The name of the port. -/
  name : Option String
  /-- The port at which the service is reached. -/
  port : Int
  /-- The port at which every node offers it. -/
  nodePort : Option Int
  /-- The transport protocol. -/
  protocol : Option String
  /-- The port of the workloads. -/
  targetPort : Option PortTarget
  deriving DecidableEq, Inhabited

/-- The port in the cluster's interface. -/
def ServicePort.toJson (p : ServicePort) : Json :=
  .record
    [("name", p.name.map .string), ("nodePort", p.nodePort.map .int), ("port", some (.int p.port)),
      ("protocol", p.protocol.map .string), ("targetPort", p.targetPort.map PortTarget.toJson)]

/-- Reads a port. -/
def ServicePort.ofJson? : Json.Read ServicePort := fun v => do
  let _ ← v.fields?
  let name ← Json.optional Json.readText (v.get? "name")
  let port ← Json.lenient 0 Json.readInt32 (v.get? "port")
  let nodePort ← Json.optional Json.readInt32 (v.get? "nodePort")
  let protocol ← Json.optional Json.readText (v.get? "protocol")
  let targetPort ← Json.optional PortTarget.ofJson? (v.get? "targetPort")
  return { name, port, nodePort, protocol, targetPort }

/-- What a service offers. -/
structure ServiceSpec where
  /-- How the service is reached. -/
  type : Option String
  /-- The labels of the workloads it leads to. -/
  selector : Option TextMap
  /-- Its ports. -/
  ports : Option (List ServicePort)
  deriving DecidableEq, Inhabited

/-- The offer in the cluster's interface. -/
def ServiceSpec.toJson (s : ServiceSpec) : Json :=
  .record
    [("ports", s.ports.map (Json.ofList ServicePort.toJson)),
      ("selector", s.selector.map Json.ofTextMap), ("type", s.type.map .string)]

/-- Reads what a service offers. -/
def ServiceSpec.ofJson? : Json.Read ServiceSpec := fun v => do
  let _ ← v.fields?
  let type ← Json.optional Json.readText (v.get? "type")
  let selector ← Json.optional Json.readTextMap (v.get? "selector")
  let ports ← Json.optional (Json.readList ServicePort.ofJson?) (v.get? "ports")
  return { type, selector, ports }

/-- A network service. -/
structure Service where
  /-- The metadata. -/
  metadata : Metadata
  /-- What the service offers. -/
  spec : Option ServiceSpec
  deriving DecidableEq, Inhabited

namespace Service

/-- The type of services. -/
def type : TypeMeta := ⟨"v1", "Service"⟩

/-- The object in the cluster's interface. -/
def toJson (s : Service) : Json :=
  .record (type.fields ++
    [("metadata", some s.metadata.toJson), ("spec", s.spec.map ServiceSpec.toJson)])

/-- Reads a service. -/
def ofJson? : Json.Read Service := fun v => do
  let _ ← v.fields?
  guard (type.admits v)
  let metadata ← Json.lenient {} Metadata.ofJson? (v.get? "metadata")
  let spec ← Json.optional ServiceSpec.ofJson? (v.get? "spec")
  return { metadata, spec }

end Service

end GatewayOperator
