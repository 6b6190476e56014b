import GatewayOperator.Rollout.GeneratedConfigMap
import GatewayOperator.Rollout.Report

/-!
# What is read off a workload after it was written

The next step of a rollout is planned from a few facts about the running workload.  This module says
what these facts are after a workload was made, scaled or updated.

## Main Definitions

* `Deployment.configVolumes` — the volumes that are to hold the document.
* `Deployment.Mounts` — a workload reads a config map.

## Main Statements

* `LiveWorkload.ofDeployment_scale`, `templateLabel?_scale` — scaling changes nothing but the number
  of pods.
* `changes_updateDeployment`, `changes_deployment` — what was updated or made has no differences any
  more.
* `configVolumes_deployment`, `mounts_updateDeployment` — what was made or updated reads the config
  map that is asked for.
* `Gateway.nextStatus_again` — reporting the same once more changes nothing.

## Design Notes

The differences that ask for an update do not include the config map, so the name of the config map
is a fact of its own about a workload.
-/

namespace GatewayOperator

/-! ### Labels -/

theorem get?_insertAll_rolloutLabels (labels : TextMap) (desired : DesiredWorkload) :
    (labels.insertAll desired.rolloutLabels).get? WellKnown.configVersionLabel =
        some desired.configVersion ∧
      (labels.insertAll desired.rolloutLabels).get? WellKnown.langLabel = some desired.lang ∧
      (labels.insertAll desired.rolloutLabels).get? WellKnown.configMapLabel =
        some desired.configMapName := by
  have version_lang : WellKnown.configVersionLabel ≠ WellKnown.langLabel := by decide
  have version_map : WellKnown.configVersionLabel ≠ WellKnown.configMapLabel := by decide
  have lang_map : WellKnown.langLabel ≠ WellKnown.configMapLabel := by decide
  simp [DesiredWorkload.rolloutLabels, Dict.get?_insert, version_lang, version_map, lang_map]

/-- What the labels of a template say of a workload that carries them. -/
theorem templateLabel?_of_labels {d : Deployment} {spec : DeploymentSpec} {metadata : Metadata}
    {labels : TextMap} (hspec : d.spec = some spec)
    (hmetadata : spec.template.metadata = some metadata) (hlabels : metadata.labels = some labels)
    {key : String} :
    d.templateLabel? key = labels.get? key := by
  simp [Deployment.templateLabel?, Deployment.template?, Metadata.label?, hspec, hmetadata, hlabels]

/-! ### Scaling -/

theorem templateLabel?_scale (d : Deployment) (replicas : Int) (key : String) :
    (d.scale replicas).templateLabel? key = d.templateLabel? key := by
  unfold Deployment.templateLabel? Deployment.template? Deployment.scale
  cases d.spec <;> rfl

/-- Scaling changes nothing but the number of pods. -/
theorem LiveWorkload.ofDeployment_scale (d : Deployment) (replicas : Int) :
    LiveWorkload.ofDeployment (d.scale replicas) =
      { LiveWorkload.ofDeployment d with replicas := some replicas } := by
  unfold LiveWorkload.ofDeployment
  simp only [templateLabel?_scale]
  unfold Deployment.podSpec? Deployment.template? Deployment.scale
  cases d.spec <;> rfl

/-- The differences that ask for an update have nothing to do with the number of pods. -/
theorem changes_scale (desired : DesiredWorkload) (d : Deployment) (replicas : Int) :
    desired.changes (LiveWorkload.ofDeployment (d.scale replicas)) =
      desired.changes (LiveWorkload.ofDeployment d) := by
  rw [LiveWorkload.ofDeployment_scale]
  rfl

/-! ### Differences -/

/-- There are no differences exactly if the version, the language, the account and the image are
those that are asked for. -/
theorem changes_eq_nil_iff (desired : DesiredWorkload) (live : LiveWorkload) :
    desired.changes live = [] ↔
      live.configVersion = some desired.configVersion ∧ live.lang.getD "" = desired.lang ∧
        live.serviceAccount = desired.serviceAccount ∧ live.image.getD "" = desired.image := by
  simp [DesiredWorkload.changes]

/-- The first container after an update runs the image that is asked for. -/
theorem image_updateContainers (desired : DesiredWorkload) (containers : List Container) :
    ((desired.updateContainers containers).head?).bind (·.image) = some desired.image := by
  cases containers <;> rfl

/-- An updated workload mounts the config map that is asked for. -/
theorem templateLabel?_updateDeployment (desired : DesiredWorkload) (cause : String)
    (d : Deployment) :
    (desired.updateDeployment cause d).templateLabel? WellKnown.configMapLabel =
      some desired.configMapName := by
  rw [templateLabel?_of_labels rfl rfl rfl]
  exact (get?_insertAll_rolloutLabels _ desired).2.2

/-- An updated workload has no differences any more. -/
theorem changes_updateDeployment (g : Gateway) (version name cause : String) (d : Deployment) :
    (DesiredWorkload.ofGateway g version name).changes (LiveWorkload.ofDeployment
      ((DesiredWorkload.ofGateway g version name).updateDeployment cause d)) = [] := by
  rw [changes_eq_nil_iff]
  unfold LiveWorkload.ofDeployment
  dsimp only
  rw [templateLabel?_of_labels rfl rfl rfl, templateLabel?_of_labels rfl rfl rfl,
    (get?_insertAll_rolloutLabels _ _).1, (get?_insertAll_rolloutLabels _ _).2.1]
  refine ⟨rfl, rfl, ?_, ?_⟩
  · exact Text.bind_nonEmpty?_bind_nonEmpty? g.spec.deployment.serviceAccountName
  · exact congrArg (Option.getD · "") (image_updateContainers _ _)

/-- An update leaves the number of pods as it is. -/
theorem replicas_updateDeployment (desired : DesiredWorkload) (cause : String) (d : Deployment) :
    (LiveWorkload.ofDeployment (desired.updateDeployment cause d)).replicas =
      (LiveWorkload.ofDeployment d).replicas := by
  unfold LiveWorkload.ofDeployment DesiredWorkload.updateDeployment
  cases d.spec <;> rfl

/-! ### A workload that was made -/

/-- A new workload mounts the config map that is asked for. -/
theorem templateLabel?_deployment (desired : DesiredWorkload) (g : Gateway) :
    (desired.deployment g).templateLabel? WellKnown.configMapLabel =
      some desired.configMapName := by
  rw [templateLabel?_of_labels rfl rfl rfl, Dict.ofList_eq_insertAll]
  exact (get?_insertAll_rolloutLabels _ desired).2.2

/-- A new workload has no differences and the number of pods that is asked for. -/
theorem changes_deployment (g : Gateway) (version name : String) :
    (DesiredWorkload.ofGateway g version name).changes (LiveWorkload.ofDeployment
        ((DesiredWorkload.ofGateway g version name).deployment g)) = [] ∧
      (LiveWorkload.ofDeployment
        ((DesiredWorkload.ofGateway g version name).deployment g)).replicas =
          some g.spec.replicas := by
  refine ⟨?_, rfl⟩
  rw [changes_eq_nil_iff]
  unfold LiveWorkload.ofDeployment
  dsimp only
  rw [templateLabel?_of_labels rfl rfl rfl, templateLabel?_of_labels rfl rfl rfl,
    Dict.ofList_eq_insertAll, (get?_insertAll_rolloutLabels _ _).1,
    (get?_insertAll_rolloutLabels _ _).2.1]
  exact ⟨rfl, rfl, Text.bind_nonEmpty?_bind_nonEmpty? g.spec.deployment.serviceAccountName, rfl⟩

/-! ### The config map that a workload reads -/

/-- The volumes of a workload that are to hold the document. -/
def Deployment.configVolumes (d : Deployment) : List Volume :=
  ((d.podSpec?.bind (·.volumes)).getD []).filter fun v => v.name = WellKnown.configVolume

/-- A workload reads a config map: its label and the first of its volumes for the document name
it. -/
structure Deployment.Mounts (d : Deployment) (name : String) : Prop where
  /-- The label names it. -/
  label : d.templateLabel? WellKnown.configMapLabel = some name
  /-- The volume names it. -/
  volume : d.configVolumes.head? =
    some { name := "app-gateway-config", configMap := some name }

/-- Replacing the first item of a kind replaces the first of all items of that kind. -/
theorem filter_replaceFirst {α : Type} {p : α → Bool} {item : α} (fits : p item = true)
    (items : List α) : (replaceFirst p item items).filter p = item :: (items.filter p).tail := by
  induction items with
  | nil => simp [replaceFirst, fits]
  | cons first rest ih =>
    unfold replaceFirst
    cases h : p first with
    | true => simp [fits, h]
    | false => simp [h, ih]

theorem configVolumes_scale (d : Deployment) (replicas : Int) :
    (d.scale replicas).configVolumes = d.configVolumes := by
  unfold Deployment.configVolumes Deployment.podSpec? Deployment.template? Deployment.scale
  cases d.spec <;> rfl

/-- A new workload has one volume for the document. -/
theorem configVolumes_deployment (desired : DesiredWorkload) (g : Gateway) :
    (desired.deployment g).configVolumes = [configVolume desired.configMapName] := by
  show List.filter _ [configVolume desired.configMapName] = _
  simp [configVolume]

/-- An update replaces the first volume for the document. -/
theorem configVolumes_updateDeployment (desired : DesiredWorkload) (cause : String)
    (d : Deployment) :
    (desired.updateDeployment cause d).configVolumes =
      configVolume desired.configMapName :: d.configVolumes.tail := by
  have volumes : (((d.spec.getD .empty).template.spec.getD .empty).volumes.getD []) =
      (d.podSpec?.bind (·.volumes)).getD [] := by
    unfold Deployment.podSpec? Deployment.template?
    cases d.spec with
    | none => rfl
    | some spec => cases h : spec.template.spec <;> simp [h, PodSpec.empty]
  show List.filter _ (replaceFirst _ _ _) = _
  rw [filter_replaceFirst (by simp [configVolume]), volumes]
  rfl

/-- An updated workload reads the config map that is asked for. -/
theorem mounts_updateDeployment (desired : DesiredWorkload) (cause : String) (d : Deployment) :
    (desired.updateDeployment cause d).Mounts desired.configMapName :=
  ⟨templateLabel?_updateDeployment desired cause d,
    congrArg List.head? (configVolumes_updateDeployment desired cause d)⟩

/-! ### The report -/

/-- Reporting the same success once more changes nothing, whatever the time. -/
theorem Gateway.nextStatus_again (g : Gateway) (now later reason message : String)
    (rollout : Rollout) :
    ({ g with status := some (g.nextStatus now true reason message (some rollout)) } :
        Gateway).nextStatus later true reason message (some rollout) =
      g.nextStatus now true reason message (some rollout) := by
  simp [Gateway.nextStatus, Gateway.readySince?]

end GatewayOperator
