import GatewayOperator.Resource.Pod

/-!
# Replicated workloads

## Main Definitions

* `Deployment` — a number of pods made from one pattern.
* `Deployment.template?`, `Deployment.templateLabel?` — views of the pattern.
-/

namespace GatewayOperator

/-- The wishes of a replicated workload. -/
structure DeploymentSpec where
  /-- The number of pods; the cluster runs one if it is not said. -/
  replicas : Option Int
  /-- The labels by which its pods are found. -/
  matchLabels : Option TextMap
  /-- The pattern of its pods. -/
  template : PodTemplate
  deriving DecidableEq, Inhabited

namespace DeploymentSpec

/-- Wishes that say nothing. -/
def empty : DeploymentSpec := ⟨none, none, .empty⟩

/-- The wishes in the cluster's interface. -/
def toJson (s : DeploymentSpec) : Json :=
  .record
    [("replicas", s.replicas.map .int),
      ("selector", some (.record [("matchLabels", s.matchLabels.map Json.ofTextMap)])),
      ("template", some s.template.toJson)]

/-- Reads the labels of a selector. -/
def readSelector : Json.Read (Option TextMap) := fun v => do
  let _ ← v.fields?
  Json.optional Json.readTextMap (v.get? "matchLabels")

/-- Reads the wishes. -/
def ofJson? : Json.Read DeploymentSpec := fun v => do
  let _ ← v.fields?
  let replicas ← Json.optional Json.readInt32 (v.get? "replicas")
  let matchLabels ← Json.lenient none readSelector (v.get? "selector")
  let template ← Json.lenient .empty PodTemplate.ofJson? (v.get? "template")
  return { replicas, matchLabels, template }

end DeploymentSpec

/-- A replicated workload. -/
structure Deployment where
  /-- The metadata. -/
  metadata : Metadata
  /-- The wishes. -/
  spec : Option DeploymentSpec
  deriving DecidableEq, Inhabited

namespace Deployment

/-- The type of replicated workloads. -/
def type : TypeMeta := ⟨"apps/v1", "Deployment"⟩

/-- The object in the cluster's interface. -/
def toJson (d : Deployment) : Json :=
  .record (type.fields ++
    [("metadata", some d.metadata.toJson), ("spec", d.spec.map DeploymentSpec.toJson)])

/-- Reads a replicated workload. -/
def ofJson? : Json.Read Deployment := fun v => do
  let _ ← v.fields?
  guard (type.admits v)
  let metadata ← Json.lenient {} Metadata.ofJson? (v.get? "metadata")
  let spec ← Json.optional DeploymentSpec.ofJson? (v.get? "spec")
  return { metadata, spec }

/-- The pattern of the pods. -/
def template? (d : Deployment) : Option PodTemplate := d.spec.map (·.template)

/-- What each pod runs. -/
def podSpec? (d : Deployment) : Option PodSpec := d.template?.bind (·.spec)

/-- The value of a label of the pods. -/
def templateLabel? (d : Deployment) (key : String) : Option String :=
  (d.template?.bind (·.metadata)).bind (·.label? key)

end Deployment

end GatewayOperator
