import GatewayOperator.Bytes.Sha256
import GatewayOperator.Resource.Data
import GatewayOperator.Rollout.Workload

/-!
# Generated config maps

The document of a gateway is kept in a config map that is made once, under a name that the cluster
completes, and written over afterwards.

## Main Definitions

* `configVersion` — the version of a document.
* `Gateway.generatedConfigMap` — the config map of a gateway that has none.
* `Gateway.currentConfigMap?` — the name of the config map that a gateway has.

## Design Notes

The label of the running pods says which config map they read; the status of the gateway, which may
be older, is asked only where there is no such label.
-/

namespace GatewayOperator

/-- The version of a document: the start of its digest. -/
def configVersion (document : String) : String :=
  Sha256.hex ((Sha256.digest (Bytes.ofText document)).take 8)

namespace Gateway

/-- The start of the name of a gateway's config map. -/
def configMapPrefix (g : Gateway) : String :=
  let suffix := (g.spec.deployment.generatedConfigMapSuffix.bind Text.nonEmpty?).getD
    WellKnown.configMapSuffix
  g.name ++ suffix

/-- The config map of a gateway that has none. -/
def generatedConfigMap (g : Gateway) (document : String) : ConfigMap :=
  { metadata :=
      { generateName := some g.configMapPrefix
        namespace_ := g.metadata.namespace_
        labels := some (Dict.ofList [(WellKnown.appLabel, g.name)])
        ownerReferences := g.ownerReference?.map fun owner => [owner] }
    data := some (Dict.ofList [(WellKnown.configKey, document)]) }

/-- The name of the config map that a gateway has, if one is known. -/
def currentConfigMap? (g : Gateway) (live : Option Deployment) : Option String :=
  let labelled := live.bind (·.templateLabel? WellKnown.configMapLabel)
  (labelled.or (g.status.bind (·.configMapName))).bind Text.nonEmpty?

end Gateway

end GatewayOperator
