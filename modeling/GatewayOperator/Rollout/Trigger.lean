import GatewayOperator.Gateway
import GatewayOperator.Resource.Data

/-!
# Which gateways a change concerns

## Main Definitions

* `Gateway.refersTo` — whether a gateway's configuration names a config map.
* `gatewaysReferringTo` — the gateways that a change of a config map concerns.
-/

namespace GatewayOperator

/-- Whether an entry names a config map. -/
def ConfigurationEntry.namesConfigMap (entry : ConfigurationEntry) (name : String) : Bool :=
  entry.kind = .configMap && entry.name = some name

/-- Whether the configuration of a gateway names a config map of its namespace. -/
def Gateway.refersTo (g : Gateway) (namespace_ : Option String) (name : String) : Bool :=
  g.metadata.namespace_ = namespace_ &&
    g.spec.configuration.any (·.namesConfigMap name)

/-- The gateways that a change of a config map concerns, in their order. -/
def gatewaysReferringTo (gateways : List Gateway) (c : ConfigMap) : List Gateway :=
  match c.metadata.name with
  | some name => gateways.filter (·.refersTo c.metadata.namespace_ name)
  | none => []

end GatewayOperator
