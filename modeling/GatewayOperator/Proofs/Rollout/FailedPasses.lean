import GatewayOperator.Proofs.Rollout.Outcomes

/-!
# What a pass that fails leaves behind

A config map that was made for a workload goes again if the workload cannot be made.  If the
workload was made, and only then the pass fails, it stays, because the workload reads it.

## Main Definitions

* `Transcript.Misses` — a config map was said to be missing.

## Main Statements

* `failed_reconcile_leaves` — what else a failed pass may leave behind.
* `refused_status_leaves_configMap` — a pass that only fails to write its status leaves a new config
  map behind.
-/

namespace GatewayOperator

variable {P : Platform} {g : Gateway} {c c' : Cluster} {t : Transcript}

/-- In a run a config map was said to be missing. -/
def Transcript.Misses (t : Transcript) (ns name : String) : Prop :=
  ∃ kind missing, ⟨.getConfigMap ns name, .error (.notFound kind missing)⟩ ∈ t

theorem Unfound.misses {answers : Responder Cluster} {ns name : String} {shelf : Shelf ConfigMap}
    (h : Unfound answers ns shelf t name) : t.Misses ns name := by
  obtain ⟨kind, missing, -, -, -, -, mem⟩ := h
  exact ⟨kind, missing, mem⟩

/-- A step that is taken with a new config map makes the workload read it, or there was a
workload. -/
theorem Advances.mounts_or_ran {document : Document} {name : String} {live : Option Deployment}
    {d : Deployment} (advances : Advances g document name live d) :
    d.Mounts name ∨ ∃ before, live = some before := by
  cases advances with
  | made =>
    exact Or.inl ⟨templateLabel?_deployment _ g, congrArg List.head? (configVolumes_deployment _ g)⟩
  | scaled => exact Or.inr ⟨_, rfl⟩
  | updated => exact Or.inl (mounts_updateDeployment (DesiredWorkload.ofGateway g _ name) _ _)
  | kept => exact Or.inr ⟨_, rfl⟩

/-- **A pass that fails leaves no config map behind that nothing reads**, as far as what it made
can be removed.  After it the config maps have the same names as before, or there is one more.  Then
the workload reads that one, or there was a workload for which no config map was found. -/
theorem failed_reconcile_leaves (kept : c.WellKept) {resyncSeconds : Nat}
    {ledger ledger' : FailureLedger} {e : Failure}
    (run : (g.reconcile resyncSeconds ledger).Yields P.Answers c t (.error e, ledger') c')
    (removes : P.Removes t) :
    (∀ key, c'.configMaps.contains key = c.configMaps.contains key) ∨
    ∃ name, c.configMaps.contains ⟨g.namespaceText, name⟩ = false ∧
      (∀ key, c'.configMaps.contains key = true ↔
        key = ⟨g.namespaceText, name⟩ ∨ c.configMaps.contains key = true) ∧
      ((∃ d, c'.deployments.get? g.key = some d ∧ d.Mounts name) ∨
        ∃ d, c.deployments.get? g.key = some d ∧
          ∀ current ∈ g.currentConfigMap? (some d), t.Misses g.namespaceText current) := by
  have within : Responder.Within P.Answers P := fun _ _ _ _ answered => answered
  have one {name : String} {object : ConfigMap}
      (stored : c'.configMaps = c.configMaps.insert ⟨g.namespaceText, name⟩ object)
      (key : ObjectKey) : c'.configMaps.contains key = true ↔
        key = ⟨g.namespaceText, name⟩ ∨ c.configMaps.contains key = true := by
    rw [stored]
    exact Dict.contains_insert_iff
  cases reconcile_ends within run kept with
  | halted same => exact Or.inl same.names
  | discarded free made deployments removed =>
    refine Or.inl fun key => ?_
    rw [removed removes]
  | stranded running missing free made deployments stored =>
    exact Or.inr ⟨_, Dict.contains_eq_false_iff.mpr free, one stored,
      Or.inr ⟨_, running, fun current known => (missing current known).misses⟩⟩
  | advanced serves advances running =>
    cases serves with
    | found current there unmade names => exact Or.inl names
    | made missing nonempty free made stored =>
      refine Or.inr ⟨_, Dict.contains_eq_false_iff.mpr free, one stored, ?_⟩
      rcases advances.mounts_or_ran with mounts | ⟨before, ran⟩
      · exact Or.inl ⟨_, running, mounts⟩
      · rw [ran] at missing
        exact Or.inr ⟨before, ran, fun current known => (missing current known).misses⟩

/-- A gateway without any configuration. -/
def bareGateway : Gateway where
  metadata := { name := some "edge", namespace_ := some "apps" }
  spec :=
    { replicas := 1
      deployment := ⟨"gateway:1", none, [], none, "C", none, none, none, []⟩
      configuration := [] }
  status := none

/-- A world in which one operation is refused. -/
def worldRefusing (operation : String) : World where
  cluster := {}
  failing := [operation]

/-- A world that refuses another operation is sure to remove what is discarded. -/
theorem discards_worldRefusing {operation : String}
    (other : operation ≠ "delete_service" ∧ operation ≠ "delete_config_map") :
    (worldRefusing operation).platform.Discards := by
  refine fun ns name => ⟨⟨rfl, ?_⟩, rfl, ?_⟩
  · rintro _ ⟨⟩
    exact ⟨fun mem => other.1 (List.mem_singleton.mp mem).symm, List.not_mem_nil⟩
  · rintro _ ⟨⟩
    exact ⟨fun mem => other.2 (List.mem_singleton.mp mem).symm, List.not_mem_nil⟩

theorem wellKept_empty : ({} : Cluster).WellKept := by
  refine ⟨?_, ?_, ?_⟩
  all_goals
    intro key object impossible
    cases impossible

/-- A pass that fails in a world is a run that fails on its platform. -/
theorem World.reconcile_yields_error (w : World)
    (failed : (w.perform (g.reconcile 30 ∅)).1.1.isOk = false) :
    ∃ t e ledger, (g.reconcile 30 ∅).Yields w.platform.Answers w.cluster t (.error e, ledger)
      (w.perform (g.reconcile 30 ∅)).2.cluster := by
  obtain ⟨t, run⟩ := w.perform_yields (g.reconcile 30 ∅)
  cases result : (w.perform (g.reconcile 30 ∅)).1.1 with
  | ok requeue =>
    rw [result] at failed
    cases failed
  | error e => exact ⟨t, e, _, by rwa [← result]⟩

/-- A pass whose workload is refused leaves the empty cluster without config maps. -/
theorem refused_workload_leaves_nothing : ∃ t e ledger c,
    (bareGateway.reconcile 30 ∅).Yields (worldRefusing "create_deployment").platform.Answers {} t
        (.error e, ledger) c ∧
      ({} : Cluster).WellKept ∧ (worldRefusing "create_deployment").platform.Removes t ∧
      ∀ key, c.configMaps.contains key = ({} : Cluster).configMaps.contains key := by
  obtain ⟨t, e, ledger, run⟩ := World.reconcile_yields_error (g := bareGateway)
    (worldRefusing "create_deployment") (by decide +kernel)
  have removes : (worldRefusing "create_deployment").platform.Removes t :=
    (discards_worldRefusing (by decide)).removes t
  have unmade : (((worldRefusing "create_deployment").perform
      (bareGateway.reconcile 30 ∅)).2.cluster.deployments.get? bareGateway.key).isNone = true := by
    decide +kernel
  refine ⟨t, e, ledger, _, run, wellKept_empty, removes, ?_⟩
  rcases failed_reconcile_leaves wellKept_empty run removes with
    names | ⟨-, -, -, ⟨d, running, -⟩ | ⟨d, impossible, -⟩⟩
  · exact names
  · rw [running] at unmade
    cases unmade
  · cases impossible

/-- A pass that only fails to write its status leaves a new config map behind, although it could be
removed. -/
theorem refused_status_leaves_configMap : ∃ t e ledger c,
    (bareGateway.reconcile 30 ∅).Yields (worldRefusing "patch_gateway_status").platform.Answers {} t
        (.error e, ledger) c ∧
      ({} : Cluster).WellKept ∧ (worldRefusing "patch_gateway_status").platform.Removes t ∧
      ¬∀ key, c.configMaps.contains key = ({} : Cluster).configMaps.contains key := by
  obtain ⟨t, e, ledger, run⟩ := World.reconcile_yields_error (g := bareGateway)
    (worldRefusing "patch_gateway_status") (by decide +kernel)
  have removes : (worldRefusing "patch_gateway_status").platform.Removes t :=
    (discards_worldRefusing (by decide)).removes t
  have left : ((worldRefusing "patch_gateway_status").perform
      (bareGateway.reconcile 30 ∅)).2.cluster.configMaps.contains
        ⟨"apps", "edge-config-gateway-generated00001"⟩ = true := by
    decide +kernel
  refine ⟨t, e, ledger, _, run, wellKept_empty, removes, fun names => ?_⟩
  rw [names] at left
  cases left

end GatewayOperator
