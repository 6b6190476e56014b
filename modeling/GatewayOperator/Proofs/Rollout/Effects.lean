import GatewayOperator.Proofs.Rollout.Passes

/-!
# What a pass leaves behind

A pass that succeeds has put the document into one config map and has taken one step towards the
workload.  This module says so about the cluster as a whole, without the steps in between.

## Main Definitions

* `Gateway.differences`, `Gateway.Sized`, `Gateway.mounted?` — the facts about a running workload
  that the next pass depends on.
* `Gateway.stepsLeft` — how many steps are left.
* `Advances` — the step that a pass takes towards the workload.
* `Leaves` — what a pass leaves behind.

## Main Statements

* `RollsOut.leaves` — every pass that succeeds leaves this behind.
* `Advances.stepsLeft` — a step is taken if there is one left.
* `Advances.mounts` — a step writes down the config map, or changes neither the note nor the
  differences.
-/

namespace GatewayOperator

variable {P : Platform} {g : Gateway} {document : Document} {sources : List Source}
  {resyncSeconds : Nat} {c c' : Cluster} {t : Transcript}

namespace Gateway

/-- The key of a gateway's workload and of its status. -/
def key (g : Gateway) : ObjectKey := ⟨g.namespaceText, g.name⟩

/-- The differences that ask for an update of a workload; the config map is not one of them. -/
def differences (g : Gateway) (document : Document) (d : Deployment) : List ChangeCause :=
  (DesiredWorkload.ofGateway g (configVersion document.render) "").changes
    (LiveWorkload.ofDeployment d)

/-- A workload has the number of pods that is asked for. -/
def Sized (g : Gateway) (d : Deployment) : Prop :=
  (LiveWorkload.ofDeployment d).replicaCount = g.spec.replicas

instance (d : Deployment) : Decidable (g.Sized d) := inferInstanceAs (Decidable (_ = _))

/-- The config map that a workload says it reads. -/
def mounted? (d : Deployment) : Option String := d.templateLabel? WellKnown.configMapLabel

/-- How many steps are left towards the workload, from the one that runs. -/
def stepsFrom (g : Gateway) (document : Document) : Option Deployment → Nat
  | none => 1
  | some d => (if g.Sized d then 0 else 1) + if g.differences document d = [] then 0 else 1

/-- How many steps are left towards the workload. -/
def stepsLeft (g : Gateway) (document : Document) (c : Cluster) : Nat :=
  g.stepsFrom document (c.deployments.get? g.key)

theorem stepsFrom_some (g : Gateway) (document : Document) (d : Deployment) :
    g.stepsFrom document (some d) =
      (if g.Sized d then 0 else 1) + if g.differences document d = [] then 0 else 1 :=
  rfl

theorem stepsFrom_le (g : Gateway) (document : Document) (live : Option Deployment) :
    g.stepsFrom document live ≤ 2 := by
  unfold stepsFrom
  split
  · omega
  · split <;> split <;> omega

theorem stepsFrom_eq_zero_iff {live : Option Deployment} :
    g.stepsFrom document live = 0 ↔
      ∃ d, live = some d ∧ g.Sized d ∧ g.differences document d = [] := by
  cases live with
  | none => simp [stepsFrom]
  | some d => simp [stepsFrom]

/-- The name of the config map that a gateway has is not empty. -/
theorem ne_of_currentConfigMap? {live : Option Deployment} {name : String}
    (current : g.currentConfigMap? live = some name) : name ≠ "" :=
  (Text.bind_nonEmpty?_eq_some_iff.mp current).2

/-- The config map that a gateway has is the one that its workload says it reads. -/
theorem currentConfigMap?_of_mounted {d : Deployment} {name : String}
    (mounted : mounted? d = some name) :
    g.currentConfigMap? (some d) = Text.nonEmpty? name := by
  unfold currentConfigMap?
  unfold mounted? at mounted
  rw [Option.bind_some, mounted]
  rfl

end Gateway

/-! ### The step towards the workload -/

/-- The step that a pass takes, from the workload that ran to the one that runs. -/
inductive Advances (g : Gateway) (document : Document) (name : String) :
    Option Deployment → Deployment → Prop
  /-- The workload is made. -/
  | made : Advances g document name none
      ((DesiredWorkload.ofGateway g (configVersion document.render) name).placedDeployment g)
  /-- The number of pods is changed. -/
  | scaled {d : Deployment} (wrong : ¬g.Sized d) :
      Advances g document name (some d) (d.scale g.spec.replicas)
  /-- Everything else is changed. -/
  | updated {d : Deployment} {cause : String} (right : g.Sized d)
      (differs : g.differences document d ≠ []) :
      Advances g document name (some d)
        ((DesiredWorkload.ofGateway g (configVersion document.render) name).updateDeployment
          cause d)
  /-- Nothing is left to do. -/
  | kept {d : Deployment} (right : g.Sized d) (same : g.differences document d = []) :
      Advances g document name (some d) d

namespace Advances

variable {name : String} {live : Option Deployment} {d : Deployment}

/-- A step is taken if there is one left. -/
theorem stepsFrom (advances : Advances g document name live d) :
    g.stepsFrom document (some d) = g.stepsFrom document live - 1 := by
  cases advances with
  | made =>
    have fresh := changes_deployment g (configVersion document.render) name
    refine Gateway.stepsFrom_eq_zero_iff.mpr ⟨_, rfl, ?_, fresh.1⟩
    exact congrArg (Option.getD · 1) fresh.2
  | @scaled d wrong =>
    have sized : g.Sized (d.scale g.spec.replicas) := by
      unfold Gateway.Sized
      rw [LiveWorkload.ofDeployment_scale]
      rfl
    -- An update that is due stays due, as only the number of replicas was changed.
    have same : g.differences document (d.scale g.spec.replicas) = g.differences document d :=
      changes_scale _ d _
    rw [Gateway.stepsFrom_some, Gateway.stepsFrom_some, if_pos sized, if_neg wrong, same]
    omega
  | @updated d cause right differs =>
    have sized := replicas_updateDeployment
      (DesiredWorkload.ofGateway g (configVersion document.render) name) cause d
    have none_left : g.stepsFrom document (some
        ((DesiredWorkload.ofGateway g (configVersion document.render) name).updateDeployment
          cause d)) = 0 := by
      refine Gateway.stepsFrom_eq_zero_iff.mpr ⟨_, rfl, ?_, ?_⟩
      · exact (congrArg (Option.getD · 1) sized).trans right
      · exact changes_updateDeployment g _ name cause d
    rw [none_left, Gateway.stepsFrom_some, if_pos right, if_neg differs]
  | kept right same =>
    rw [Gateway.stepsFrom_eq_zero_iff.mpr ⟨d, rfl, right, same⟩]

/-- A step writes down the config map, or changes neither what is written down nor the
differences. -/
theorem mounts (advances : Advances g document name live d) :
    (Gateway.mounted? d = some name ∧
      ∀ before, live = some before → g.differences document before ≠ []) ∨
    ∃ before, live = some before ∧ Gateway.mounted? d = Gateway.mounted? before ∧
      g.differences document d = g.differences document before := by
  cases advances with
  | made =>
    refine Or.inl ⟨templateLabel?_deployment _ g, ?_⟩
    intro before impossible
    cases impossible
  | scaled =>
    refine Or.inr ⟨_, rfl, ?_, ?_⟩
    · exact templateLabel?_scale _ _ _
    · exact changes_scale _ _ _
  | updated right differs =>
    refine Or.inl ⟨templateLabel?_updateDeployment _ _ _, ?_⟩
    intro before same
    cases same
    exact differs
  | kept => exact Or.inr ⟨_, rfl, rfl, rfl⟩

end Advances

/-! ### The pass -/

/-- What a pass over a gateway leaves behind: its config map, under a name, its workload and its
status. -/
structure Leaves (g : Gateway) (document : Document) (sources : List Source) (c : Cluster)
    (t : Transcript) (name : String) (c' : Cluster) : Prop where
  /-- The config map has a name. -/
  nonempty : name ≠ ""
  /-- It holds the document. -/
  written : ∃ object, c'.configMaps.get? ⟨g.namespaceText, name⟩ = some object ∧
    object.entry? WellKnown.configKey = some document.render
  /-- No other config map is touched. -/
  others : ∀ key, key ≠ ⟨g.namespaceText, name⟩ → c'.configMaps.get? key = c.configMaps.get? key
  /-- The config map is the one that the gateway has, or it is made because there is none. -/
  made : (t.madeConfigMaps = [] ∧
      g.currentConfigMap? (c.deployments.get? g.key) = some name ∧
        ∃ object, c.configMaps.get? ⟨g.namespaceText, name⟩ = some object) ∨
    t.madeConfigMaps = [⟨g.namespaceText, name⟩] ∧
      ∀ current ∈ g.currentConfigMap? (c.deployments.get? g.key),
        c.configMaps.get? ⟨g.namespaceText, current⟩ = none
  /-- One step is taken towards the workload. -/
  workload : ∃ d, c'.deployments.get? g.key = some d ∧
    Advances g document name (c.deployments.get? g.key) d
  /-- The status says what was done. -/
  reported : g.status = c.statuses.get? g.key → ∃ now message,
    c'.statuses.get? g.key = some (g.nextStatus now true "Reconciled" message
      (some ⟨g.spec.replicas, configVersion document.render, name⟩)) ∧
    (g.stepsLeft document c = 0 → message = "Gateway is up to date")
  /-- The client is registered. -/
  registered : ∀ r ∈ registrationOf? sources, r.Registered g.namespaceText c'

theorem Transcript.madeConfigMaps_of_readOnly {t : Transcript} (h : ∀ x ∈ t, x.query.ReadOnly) :
    t.madeConfigMaps = [] := by
  refine Transcript.filterMap_eq_nil h fun q answer reads => ?_
  cases q <;> first | rfl | exact reads.elim

/-- A step towards the workload makes no config map, and leaves everything else as it is. -/
theorem Converges.advances {name : String} {live : Option Deployment} {step : Gateway.Step}
    (found : c.deployments.get? g.key = live)
    (converged : Converges g (DesiredWorkload.ofGateway g (configVersion document.render) name)
      live resyncSeconds c t step c') :
    (∃ d, c'.deployments.get? g.key = some d ∧ Advances g document name live d) ∧
    t.madeConfigMaps = [] ∧ c'.configMaps = c.configMaps ∧ c'.secrets = c.secrets ∧
      c'.statuses = c.statuses ∧
      (g.stepsFrom document live = 0 → step.message = "Gateway is up to date") := by
  cases converged with
  | made absent unmade =>
    subst absent
    refine ⟨⟨_, Dict.get?_insert_self _ _ _, .made⟩, unmade, rfl, rfl, rfl, ?_⟩
    intro impossible
    cases impossible
  | @scaled _ _ d there wrong unmade =>
    subst there
    refine ⟨⟨_, Dict.get?_insert_self _ _ _, .scaled wrong⟩, unmade, rfl, rfl, rfl, ?_⟩
    intro left
    obtain ⟨_, same, right, -⟩ := Gateway.stepsFrom_eq_zero_iff.mp left
    cases same
    exact absurd right wrong
  | @updated _ _ d cause there right differs unmade =>
    subst there
    refine ⟨⟨_, Dict.get?_insert_self _ _ _, .updated right differs⟩, unmade, rfl, rfl, rfl, ?_⟩
    intro left
    obtain ⟨_, same, -, none_left⟩ := Gateway.stepsFrom_eq_zero_iff.mp left
    cases same
    exact absurd none_left differs
  | kept there right same =>
    subst there
    exact ⟨⟨_, found, .kept right same⟩, rfl, rfl, rfl, rfl, fun _ => rfl⟩

/-- The config map that was made sure of is the only one that was touched. -/
theorem EnsuresConfigMap.frame {live : Option Deployment} {configMap : GeneratedConfigMap}
    (ensured : EnsuresConfigMap g live document.render c t configMap c') :
    configMap.name ≠ "" ∧
    (∀ key, key ≠ ⟨g.namespaceText, configMap.name⟩ →
      c'.configMaps.get? key = c.configMaps.get? key) ∧
    ((t.madeConfigMaps = [] ∧ g.currentConfigMap? live = some configMap.name ∧
        ∃ object, c.configMaps.get? ⟨g.namespaceText, configMap.name⟩ = some object) ∨
      t.madeConfigMaps = [⟨g.namespaceText, configMap.name⟩] ∧
        ∀ current ∈ g.currentConfigMap? live,
          c.configMaps.get? ⟨g.namespaceText, current⟩ = none) := by
  cases ensured with
  | kept current there written =>
    exact ⟨Gateway.ne_of_currentConfigMap? current, fun _ _ => rfl,
      Or.inl ⟨rfl, current, _, there⟩⟩
  | rewritten current there differs unmade =>
    refine ⟨Gateway.ne_of_currentConfigMap? current, ?_, Or.inl ⟨unmade, current, _, there⟩⟩
    intro key different
    exact Dict.get?_insert_of_ne _ different _
  | made missing nonempty free made =>
    refine ⟨nonempty, ?_, Or.inr ⟨made, missing⟩⟩
    intro key different
    exact Dict.get?_insert_of_ne _ different _

/-- Every pass that succeeds leaves this behind. -/
theorem RollsOut.leaves (reliable : P.Reliable) (kept : c.WellKept)
    (steps : RollsOut P g resyncSeconds document sources c t c') :
    ∃ name, Leaves g document sources c t name c' := by
  cases steps with
  | @steps before resolving ensuring converging asking reporting after c₁ c₂ c₃ _ configMap step
      now resolved ensured converged reported reading =>
    have unchanged := resolve_sameButSecrets resolved
    have unresolved := (Transcript.made_of_resolving (resolved.asked (resolve_asks _ _))).2
    have registered := resolve_registers reliable kept resolved
    obtain ⟨written, version, deployments₂, statuses₂, secrets₂⟩ := ensured.holds
    obtain ⟨nonempty, others, made⟩ := ensured.frame
    have found : c₂.deployments.get? g.key = c.deployments.get? g.key := by
      rw [deployments₂, unchanged.deployments]
    rw [version] at converged reported
    obtain ⟨⟨d, running, advances⟩, unmade, configMaps₃, secrets₃, statuses₃, message⟩ :=
      converged.advances found
    -- The report writes the status and nothing else.
    have frame : c'.configMaps = c₃.configMaps ∧ c'.secrets = c₃.secrets ∧
        c'.deployments = c₃.deployments ∧ reporting.madeConfigMaps = [] := by
      cases reported with
      | kept => exact ⟨rfl, rfl, rfl, rfl⟩
      | written differs unmade => exact ⟨rfl, rfl, rfl, unmade⟩
    obtain ⟨configMaps₄, secrets₄, deployments₄, unreported⟩ := frame
    have read : before.madeConfigMaps = [] ∧ asking.madeConfigMaps = [] ∧
        after.madeConfigMaps = [] := by
      have all := Transcript.madeConfigMaps_of_readOnly reading
      simp only [Transcript.madeConfigMaps_append, List.append_eq_nil_iff] at all
      exact ⟨all.1.1, all.1.2, all.2⟩
    refine ⟨configMap.name, ⟨nonempty, ?_, ?_, ?_, ?_, ?_, ?_⟩⟩
    · rwa [configMaps₄, configMaps₃]
    · intro key different
      rw [configMaps₄, configMaps₃, others key different, unchanged.configMaps]
    · rw [unchanged.configMaps] at made
      simp only [Transcript.madeConfigMaps_append, read, unresolved, unmade, unreported,
        List.nil_append, List.append_nil]
      exact made
    · refine ⟨d, ?_, advances⟩
      rw [deployments₄, running]
    · intro seen
      refine ⟨now, step.message, ?_, message⟩
      cases reported with
      | kept same =>
        rw [statuses₃, statuses₂, unchanged.statuses, ← seen]
        exact same
      | written differs unmade => exact Dict.get?_insert_self _ _ _
    · intro r given
      obtain ⟨secret, stored, there⟩ := registered r given
      refine ⟨secret, ?_, there⟩
      rw [secrets₄, secrets₃, secrets₂]
      exact stored

end GatewayOperator
