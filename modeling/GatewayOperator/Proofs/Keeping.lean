import GatewayOperator.Proofs.Platform

/-!
# Well kept clusters

Every object of a cluster stands under its own name.  The cluster sees to that itself: a new object
is placed under the name it has or gets, and an object is only written over where its name stands.

## Main Definitions

* `Shelf.WellKept`, `Cluster.WellKept` — objects stand under their own names.
* `Platform.Reliable` — every call is sure to be carried out.

## Main Statements

* `Cluster.WellKept.of_yields` — a run leaves a well kept cluster well kept.
-/

namespace GatewayOperator

namespace Shelf

variable {α : Type} {metadata : α → Metadata} {shelf shelf' : Shelf α}

/-- Every object stands under its own name. -/
def WellKept (metadata : α → Metadata) (shelf : Shelf α) : Prop :=
  ∀ key object, shelf.get? key = some object → (metadata object).nameText = key.name

theorem WellKept.insert {key : ObjectKey} {object : α} (kept : shelf.WellKept metadata)
    (named : (metadata object).nameText = key.name) :
    WellKept metadata (Dict.insert shelf key object) := by
  intro other found h
  rw [Dict.get?_insert] at h
  split at h
  · next same =>
    cases h
    rw [same, named]
  · exact kept other found h

theorem WellKept.erase {key : ObjectKey} (kept : shelf.WellKept metadata) :
    WellKept metadata (Dict.erase shelf key) := by
  intro other found h
  rw [Dict.get?_erase] at h
  split at h
  · cases h
  · exact kept other found h

theorem WellKept.creates {ns : String} {m : Metadata} {make : Metadata → α}
    {answer : Except StoreError α} (kept : shelf.WellKept metadata)
    (making : ∀ m, metadata (make m) = m) (h : shelf.Creates ns m make answer shelf') :
    shelf'.WellKept metadata := by
  rcases h with ⟨name, -, -, -, rfl⟩ | ⟨name, why, -, -, -, rfl⟩
  · refine kept.insert ?_
    rw [making, Metadata.nameText_placed]
  · exact kept

theorem WellKept.overwrites {kind : ObjectKind} {ns : String} {object : α}
    {answer : Except StoreError α} (kept : shelf.WellKept metadata)
    (h : shelf.Settles (shelf.overwrite kind ⟨ns, (metadata object).nameText⟩ object) object answer
      shelf') : shelf'.WellKept metadata := by
  unfold Settles overwrite at h
  by_cases found : shelf.contains ⟨ns, (metadata object).nameText⟩ = true
  · rw [if_pos found] at h
    obtain ⟨-, rfl⟩ := h
    exact kept.insert rfl
  · rw [if_neg found] at h
    obtain ⟨-, rfl⟩ := h
    exact kept

theorem WellKept.removes {kind : ObjectKind} {key : ObjectKey} {answer : Except StoreError Unit}
    (kept : shelf.WellKept metadata)
    (h : shelf.Settles (shelf.remove kind key) () answer shelf') : shelf'.WellKept metadata := by
  rcases settles_remove h with ⟨-, rfl⟩ | ⟨-, -, rfl⟩
  · exact kept.erase
  · exact kept

end Shelf

/-- Config maps, secrets and replicated workloads stand under their own names. -/
structure Cluster.WellKept (c : Cluster) : Prop where
  /-- Config maps stand under their own names. -/
  configMaps : c.configMaps.WellKept ConfigMap.metadata
  /-- Secrets stand under their own names. -/
  secrets : c.secrets.WellKept Secret.metadata
  /-- Replicated workloads stand under their own names. -/
  deployments : c.deployments.WellKept Deployment.metadata

variable {P : Platform} {c c' : Cluster}

theorem Cluster.WellKept.of_carriesOut {q : Query} {answer : q.Answer} (kept : c.WellKept)
    (h : CarriesOut P.network q c answer c') : c'.WellKept := by
  obtain ⟨configMaps, secrets, deployments⟩ := kept
  cases q with
  | getConfigMap | getSecret | getDeployment | fetch | patchStatus =>
    obtain ⟨-, rfl⟩ := h
    exact ⟨configMaps, secrets, deployments⟩
  | now | publish | measure =>
    obtain rfl := h
    exact ⟨configMaps, secrets, deployments⟩
  | createConfigMap =>
    obtain ⟨shelf, n, made, rfl⟩ := h
    exact ⟨configMaps.creates (fun _ => rfl) made, secrets, deployments⟩
  | createService =>
    obtain ⟨shelf, n, made, rfl⟩ := h
    exact ⟨configMaps, secrets, deployments⟩
  | createDeployment =>
    obtain ⟨shelf, n, made, rfl⟩ := h
    exact ⟨configMaps, secrets, deployments.creates (fun _ => rfl) made⟩
  | replaceConfigMap =>
    obtain ⟨shelf, written, rfl⟩ := h
    exact ⟨configMaps.overwrites written, secrets, deployments⟩
  | replaceSecret =>
    obtain ⟨shelf, written, rfl⟩ := h
    exact ⟨configMaps, secrets.overwrites written, deployments⟩
  | replaceDeployment =>
    obtain ⟨shelf, written, rfl⟩ := h
    exact ⟨configMaps, secrets, deployments.overwrites written⟩
  | deleteConfigMap =>
    obtain ⟨shelf, gone, rfl⟩ := h
    exact ⟨configMaps.removes gone, secrets, deployments⟩
  | deleteService =>
    obtain ⟨shelf, gone, rfl⟩ := h
    exact ⟨configMaps, secrets, deployments⟩

theorem Cluster.WellKept.of_answers {q : Query} {answer : q.Answer} (kept : c.WellKept)
    (h : P.Answers q c answer c') : c'.WellKept := by
  rcases h with carried | ⟨-, -, n, rfl⟩
  · exact kept.of_carriesOut carried
  · exact ⟨kept.configMaps, kept.secrets, kept.deployments⟩

theorem Program.asks_anything {α : Type} (program : Program α) :
    program.Asks fun _ => True := by
  induction program with
  | done result => trivial
  | ask q cont ih => exact ⟨trivial, ih⟩

/-- A run leaves a well kept cluster well kept. -/
theorem Cluster.WellKept.of_yields {α : Type} {program : Program α} {t : Transcript} {a : α}
    (kept : c.WellKept) (run : program.Yields P.Answers c t a c') : c'.WellKept := by
  have keeps : c.WellKept → c'.WellKept := by
    refine run.relates (p := fun _ => True) (fun c c' => c.WellKept → c'.WellKept)
      (fun _ kept => kept) (fun first second kept => second (first kept)) ?_
      program.asks_anything
    intro q _ s answer s' answered kept
    exact kept.of_answers answered
  exact keeps kept

/-- A platform on which every call is sure to be carried out. -/
def Platform.Reliable (P : Platform) : Prop := ∀ q, P.certain q

theorem Platform.Reliable.carried (reliable : P.Reliable) {q : Query} {answer : q.Answer}
    (h : P.Answers q c answer c') : CarriesOut P.network q c answer c' := by
  rcases h with carried | ⟨uncertain, -⟩
  · exact carried
  · exact absurd (reliable q) uncertain

end GatewayOperator
