import Mathlib.Data.List.Forall2
import GatewayOperator.Proofs.Entries
import GatewayOperator.Proofs.Rollout.FailedPasses

/-!
# What an update leaves alone

Others may add labels, annotations, volumes and containers to the workload of a gateway.  This
module says which parts of a running workload an update changes, and that all others are as they
were.

## Main Definitions

* `Deployment.SameButGateway` — two workloads that differ in the gateway's parts at most, their
  containers left aside.
* `Container.SameButRun` — two containers that differ in image and environment at most.
* `KeepsOtherContainers` — of two lists of containers only those of one name differ, in image and
  environment at most.

## Main Statements

* `DesiredWorkload.sameButGateway_updateDeployment` — outside its containers an update changes the
  gateway's parts only.
* `DesiredWorkload.keepsOtherContainers_iff` — it changes no container but the gateway's exactly if
  that stands first, or if the first one runs what is asked for already.

## Design Notes

An update finds the gateway's volume by its name, but its container by its place.  So the two halves
of the main result differ: the volumes of others are left alone wherever they stand.
-/

namespace GatewayOperator

/-! ### Labels and volumes -/

/-- Inserting pairs leaves the other keys alone. -/
theorem Dict.get?_insertAll_of_notMem {κ α : Type} [LT κ] [DecidableEq κ] [DecidableLT κ]
    [KeyOrder κ] {d : Dict κ α} {pairs : List (κ × α)} {key : κ}
    (other : key ∉ pairs.map (·.1)) : (d.insertAll pairs).get? key = d.get? key := by
  have absent : Assoc.lookup key pairs.reverse = none := by
    refine Assoc.lookup_eq_none_iff.mpr fun entry mem same => other ?_
    exact List.mem_map.mpr ⟨entry, List.mem_reverse.mp mem, same⟩
  show Assoc.lookup key (Assoc.insertAll pairs d.entries) = _
  rw [Assoc.lookup_insertAll, absent, Option.none_or]
  rfl

/-- Replacing the first item of a kind leaves the items of other kinds alone. -/
theorem filter_not_replaceFirst {α : Type} {p : α → Bool} {item : α} (fits : p item = true)
    (items : List α) :
    (replaceFirst p item items).filter (fun a => !p a) = items.filter fun a => !p a := by
  induction items with
  | nil => simp [replaceFirst, fits]
  | cons first rest ih =>
    unfold replaceFirst
    cases h : p first with
    | true => simp [fits, h]
    | false => simp [h, ih]

namespace Deployment

/-- The metadata of the pods, empty where nothing is said of them. -/
def templateMetadata (d : Deployment) : Metadata := (d.template?.bind (·.metadata)).getD {}

/-- What each pod runs, nothing where nothing is said of it. -/
def pod (d : Deployment) : PodSpec := d.podSpec?.getD .empty

/-- The volumes of each pod that are not the gateway's. -/
def otherVolumes (d : Deployment) : List Volume :=
  (d.pod.volumes.getD []).filter fun v => !decide (v.name = WellKnown.configVolume)

/-- Two workloads that differ in the gateway's parts at most, their containers left aside. -/
structure SameButGateway (desired : DesiredWorkload) (d d' : Deployment) : Prop where
  /-- The number of pods. -/
  replicas : d'.spec.bind (·.replicas) = d.spec.bind (·.replicas)
  /-- The labels by which the pods are found. -/
  selector : d'.spec.bind (·.matchLabels) = d.spec.bind (·.matchLabels)
  /-- All metadata but the annotations. -/
  metadata : { d'.metadata with annotations := d.metadata.annotations } = d.metadata
  /-- The annotations but the one that says why the workload was changed. -/
  annotations : ∀ key, key ≠ WellKnown.changeCauseAnnotation →
    d'.metadata.annotations.bind (·.get? key) = d.metadata.annotations.bind (·.get? key)
  /-- All metadata of the pods but their labels, so their annotations too. -/
  templateMetadata :
    { d'.templateMetadata with labels := d.templateMetadata.labels } = d.templateMetadata
  /-- The labels of the pods but those that say what is rolled out. -/
  labels : ∀ key, key ∉ desired.rolloutLabels.map (·.1) →
    d'.templateLabel? key = d.templateLabel? key
  /-- The volumes that are not the gateway's, in their order. -/
  volumes : d'.otherVolumes = d.otherVolumes
  /-- The secrets with which images are pulled. -/
  imagePullSecrets : d'.pod.imagePullSecrets = d.pod.imagePullSecrets

end Deployment

/-! ### Containers -/

/-- Two containers that differ in image and environment at most. -/
def Container.SameButRun (c c' : Container) : Prop :=
  c' = { c with image := c'.image, env := c'.env }

/-- Of two lists of containers only those of one name differ, in image and environment at most. -/
def KeepsOtherContainers (name : String) : List Container → List Container → Prop :=
  List.Forall₂ fun c c' => c' = c ∨ c.name = name ∧ c.SameButRun c'

theorem KeepsOtherContainers.refl (name : String) (containers : List Container) :
    KeepsOtherContainers name containers containers :=
  List.forall₂_same.mpr fun _ _ => Or.inl rfl

namespace DesiredWorkload

variable {desired : DesiredWorkload} {d : Deployment} {cause : String}

/-- A container runs what is asked for. -/
def RunsIn (desired : DesiredWorkload) (c : Container) : Prop :=
  c.image = some desired.image ∧ c.env = some (langEnv desired.lang)

/-- An update makes the first container run what is asked for, so it changes no container of another
name exactly if the first one has that name or runs it already. -/
theorem keepsOtherContainers_cons_iff {first : Container} {others : List Container} :
    KeepsOtherContainers desired.name (first :: others)
        (desired.updateContainers (first :: others)) ↔
      first.name = desired.name ∨ desired.RunsIn first := by
  unfold updateContainers KeepsOtherContainers
  rw [List.forall₂_cons]
  constructor
  · rintro ⟨same | ⟨named, -⟩, -⟩
    · right
      unfold RunsIn
      rw [← same]
      exact ⟨rfl, rfl⟩
    · exact Or.inl named
  · rintro (named | ⟨image, env⟩)
    · exact ⟨Or.inr ⟨named, rfl⟩, KeepsOtherContainers.refl _ _⟩
    · refine ⟨Or.inl ?_, KeepsOtherContainers.refl _ _⟩
      rw [← image, ← env]

theorem pod_updateDeployment :
    (desired.updateDeployment cause d).pod = desired.updatePod d.pod := by
  unfold Deployment.pod Deployment.podSpec? Deployment.template? updateDeployment updateTemplate
  cases d.spec with
  | none => rfl
  | some spec => rfl

theorem templateMetadata_updateDeployment :
    (desired.updateDeployment cause d).templateMetadata =
      { d.templateMetadata with
        labels := some ((d.templateMetadata.labels.getD ∅).insertAll desired.rolloutLabels) } := by
  unfold Deployment.templateMetadata Deployment.template? updateDeployment updateTemplate
  cases d.spec with
  | none => rfl
  | some spec => rfl

/-- The labels of the pods are in their metadata. -/
theorem templateLabel?_eq (d : Deployment) (key : String) :
    d.templateLabel? key = d.templateMetadata.label? key := by
  unfold Deployment.templateLabel? Deployment.templateMetadata
  cases d.template?.bind (·.metadata) <;> rfl

/-- Outside its containers an update changes the gateway's parts only. -/
theorem sameButGateway_updateDeployment :
    d.SameButGateway desired (desired.updateDeployment cause d) where
  replicas := by
    unfold updateDeployment
    cases d.spec <;> rfl
  selector := by
    unfold updateDeployment
    cases d.spec <;> rfl
  metadata := rfl
  annotations key other := by
    show ((d.metadata.annotations.getD ∅).insert _ _).get? key = _
    rw [Dict.get?_insert_of_ne _ other]
    cases d.metadata.annotations <;> rfl
  templateMetadata := by
    rw [templateMetadata_updateDeployment]
  labels key other := by
    rw [templateLabel?_eq, templateLabel?_eq, templateMetadata_updateDeployment]
    show ((d.templateMetadata.labels.getD ∅).insertAll _).get? key = _
    rw [Dict.get?_insertAll_of_notMem other]
    unfold Metadata.label?
    cases d.templateMetadata.labels <;> rfl
  volumes := by
    unfold Deployment.otherVolumes
    rw [pod_updateDeployment]
    exact filter_not_replaceFirst (by simp [configVolume]) _
  imagePullSecrets := by
    rw [pod_updateDeployment]
    rfl

/-- **What an update leaves alone.**  Take a running workload with a container of the gateway's
name.  An update leaves alone its number of pods, its selector, all metadata but the cause of the
change, the labels of the pods but those that say what is rolled out, their annotations and the
volumes that are not the gateway's.  It leaves alone the containers of other names too, and of the
gateway's all but image and environment, exactly if the first container has the gateway's name or
runs what is asked for already. -/
theorem updateDeployment_leaves (own : ∃ c ∈ d.pod.containers, c.name = desired.name) :
    d.SameButGateway desired (desired.updateDeployment cause d) ∧
      (KeepsOtherContainers desired.name d.pod.containers
          (desired.updateDeployment cause d).pod.containers ↔
        ∃ first, d.pod.containers.head? = some first ∧
          (first.name = desired.name ∨ desired.RunsIn first)) := by
  refine ⟨sameButGateway_updateDeployment, ?_⟩
  rw [pod_updateDeployment]
  show KeepsOtherContainers desired.name _ (desired.updateContainers d.pod.containers) ↔ _
  cases containers : d.pod.containers with
  | nil =>
    obtain ⟨c, mem, -⟩ := own
    rw [containers] at mem
    cases mem
  | cons first others =>
    rw [keepsOtherContainers_cons_iff]
    exact ⟨fun fits => ⟨first, rfl, fits⟩, fun ⟨_, head, fits⟩ => Option.some.inj head ▸ fits⟩

end DesiredWorkload

/-- A workload with these containers. -/
def workloadOf (containers : List Container) : Deployment :=
  { metadata := { name := some "edge" }
    spec := some
      { replicas := some 2
        matchLabels := some (selectorLabels "edge")
        template :=
          { metadata := none
            spec := some { PodSpec.empty with containers } } } }

/-- What the gateway without any configuration asks for. -/
def bareWishes : DesiredWorkload := .ofGateway bareGateway "v" "config"

/-- A container that was put behind the gateway's is left alone. -/
theorem container_behind_left_alone :
    bareWishes.name = "edge" ∧
      KeepsOtherContainers "edge" [{ name := "edge" }, { name := "proxy", image := some "proxy:1" }]
        (bareWishes.updateDeployment "Image change" (workloadOf
          [{ name := "edge" }, { name := "proxy", image := some "proxy:1" }])).pod.containers := by
  refine ⟨rfl, ?_⟩
  have leaves := (@DesiredWorkload.updateDeployment_leaves bareWishes
    (workloadOf [{ name := "edge" }, { name := "proxy", image := some "proxy:1" }])
    "Image change" ⟨_, List.mem_cons_self, rfl⟩).2
  exact leaves.mpr ⟨_, rfl, Or.inl rfl⟩

/-- A container that was put in front of the gateway's runs the gateway's image from then on, and
the gateway's does not. -/
theorem container_in_front_changed :
    bareWishes.name = "edge" ∧
      (bareWishes.updateDeployment "Image change" (workloadOf
          [{ name := "proxy", image := some "proxy:1" },
            { name := "edge", image := some "gateway:0" }])).pod.containers.map
              (fun c => (c.name, c.image)) =
        [("proxy", some "gateway:1"), ("edge", some "gateway:0")] := by
  decide +kernel

end GatewayOperator
