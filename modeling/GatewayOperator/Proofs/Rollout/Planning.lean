import GatewayOperator.Proofs.Attempts
import GatewayOperator.Proofs.Rollout.Workloads
import GatewayOperator.Rollout.Reconcile

/-!
# Plans that settle

A step is planned, it is taken, and from what runs then the next one is planned.  This module
follows the workload through these steps, apart from the cluster in which it stands.

## Main Definitions

* `RolloutAction.perform` — the workload after a step.
* `LiveWorkload.Meets` — what is looked at of a workload is as it is asked for.
* `DesiredWorkload.SettlesIn` — from some workload, planning leads to rest in a number of steps.
* `Deployment.SameButReplicas` — two workloads differ at most in the number of pods.

## Main Statements

* `converge_writes` — a pass asks the cluster to write what the planned step makes.
* `plan_eq_keep_iff` — nothing is left to do exactly if the workload is as it is asked for.
* `plan_settles` — two steps are always enough.

## Design Notes

Planning and writing have their own defaults for what a workload leaves out.  They fit together
because each field that the plan compares is written by every update in the form in which it is
read back.
-/

namespace GatewayOperator

/-- The workload after a step, from the one that ran before it. -/
def RolloutAction.perform (desired : DesiredWorkload) (g : Gateway) :
    RolloutAction → Option Deployment → Option Deployment
  | .create, _ => some (desired.deployment g)
  | .scale replicas, some d => some (d.scale replicas)
  | .update cause, some d => some (desired.updateDeployment cause d)
  | _, live => live

namespace DesiredWorkload

/-- The next step from what runs. -/
def nextAction (desired : DesiredWorkload) (live : Option Deployment) : RolloutAction :=
  plan desired (live.map LiveWorkload.ofDeployment)

/-- The workload after the next step. -/
def advance (desired : DesiredWorkload) (g : Gateway) (live : Option Deployment) :
    Option Deployment :=
  (desired.nextAction live).perform desired g live

/-- From what runs, taking the planned step again and again comes to rest after a number of
steps. -/
inductive SettlesIn (desired : DesiredWorkload) (g : Gateway) :
    Option Deployment → Nat → Deployment → Prop
  /-- Nothing is left to do. -/
  | rest {d : Deployment} (kept : desired.nextAction (some d) = .keep) :
      SettlesIn desired g (some d) 0 d
  /-- The planned step is taken, and planning goes on from there. -/
  | step {live : Option Deployment} {steps : Nat} {d : Deployment}
      (due : desired.nextAction live ≠ .keep)
      (settles : SettlesIn desired g (desired.advance g live) steps d) :
      SettlesIn desired g live (steps + 1) d

end DesiredWorkload

/-- What is looked at of a workload is as it is asked for.  A missing number of pods counts as one,
a missing language or image as empty. -/
structure LiveWorkload.Meets (live : LiveWorkload) (desired : DesiredWorkload) : Prop where
  /-- As many pods run. -/
  replicas : live.replicas.getD 1 = desired.replicas
  /-- They read the version of the configuration. -/
  configVersion : live.configVersion = some desired.configVersion
  /-- They speak the language. -/
  lang : live.lang.getD "" = desired.lang
  /-- They act under the account, if there is one. -/
  serviceAccount : live.serviceAccount = desired.serviceAccount
  /-- They run the image. -/
  image : live.image.getD "" = desired.image

/-- Two workloads differ at most in the number of pods; a workload that wishes nothing is like one
whose wishes say nothing. -/
structure Deployment.SameButReplicas (d d' : Deployment) : Prop where
  /-- The metadata is the same. -/
  metadata : d'.metadata = d.metadata
  /-- With the same number of pods, the wishes are the same. -/
  spec : ∀ replicas, { d'.spec.getD .empty with replicas } = { d.spec.getD .empty with replicas }

/-! ### What a step writes -/

/-- The workload that is written with a call. -/
def Answered.writtenWorkload? : Answered → Option Deployment
  | ⟨.createDeployment _ d, _⟩ => some d
  | ⟨.replaceDeployment _ d, _⟩ => some d
  | _ => none

/-- The workloads that are written in a run, whether or not the cluster takes them. -/
def Transcript.writtenWorkloads (t : Transcript) : List Deployment :=
  t.filterMap Answered.writtenWorkload?

@[simp] theorem Transcript.writtenWorkloads_append (t t' : Transcript) :
    Transcript.writtenWorkloads (t ++ t') = t.writtenWorkloads ++ t'.writtenWorkloads :=
  List.filterMap_append

section Writing

variable {σ : Type} {answers : Responder σ} {s s' : σ} {t : Transcript} {g : Gateway}

/-- Making a workload writes it once, whatever follows. -/
theorem createWorkload_writes {desired : DesiredWorkload} {configMap : GeneratedConfigMap}
    {r : Except Failure Unit}
    (run : (g.createWorkload desired configMap).run.Yields answers s t r s') :
    t.writtenWorkloads = [desired.deployment g] := by
  unfold Gateway.createWorkload at run
  rw [ExceptT.run_mk] at run
  obtain ⟨answer, mid, _, after, asked, rest, rfl⟩ := Program.yields_bind.mp run
  obtain ⟨-, rfl⟩ := Program.yields_query.mp asked
  -- What follows is at most the removal of a config map.
  suffices silent : after.writtenWorkloads = [] by
    show desired.deployment g :: after.writtenWorkloads = _
    rw [silent]
  cases answer with
  | ok made =>
    obtain ⟨rfl, -, -⟩ := rest
    rfl
  | error why =>
    dsimp only at rest
    split at rest
    · obtain ⟨_, _, _, _, removing, ⟨rfl, -, -⟩, rfl⟩ := Program.yields_bind.mp rest
      obtain ⟨-, rfl⟩ := Program.yields_query.mp removing
      rfl
    · obtain ⟨rfl, -, -⟩ := rest
      rfl

/-- An announcement writes no workload. -/
theorem announce_writes {reason note : String} {step : Gateway.Step}
    {r : Except Failure Gateway.Step}
    (run : (do g.announce reason note; return step : Attempt Gateway.Step).run.Yields
      answers s t r s') : t.writtenWorkloads = [] := by
  obtain ⟨_, _, _, _, told, ⟨rfl, -, -⟩, rfl⟩ := Attempt.yields_lift_bind.mp run
  obtain ⟨-, rfl⟩ := Program.yields_query.mp told
  rfl

/-- Writing over a workload writes it once, if nothing that follows writes another one. -/
theorem replaceWorkload_writes {d : Deployment} {next : Deployment → Attempt Gateway.Step}
    {r : Except Failure Gateway.Step}
    (run : (Attempt.ofStore (Program.query (.replaceDeployment g.namespaceText d)) >>=
      next).run.Yields answers s t r s')
    (silent : ∀ {written : Deployment} {mid : σ} {after : Transcript},
      (next written).run.Yields answers mid after r s' → after.writtenWorkloads = []) :
    t.writtenWorkloads = [d] := by
  rcases Attempt.yields_ofStore_bind.mp run with
    ⟨why, asked, -⟩ | ⟨_, mid, _, after, asked, rest, rfl⟩
  · obtain ⟨-, rfl⟩ := Program.yields_query.mp asked
    rfl
  · obtain ⟨-, rfl⟩ := Program.yields_query.mp asked
    show d :: after.writtenWorkloads = _
    rw [silent rest]

/-- What a pass asks the cluster to write, once the document is in its config map, is what the
planned step makes of the workload that runs; if nothing is left to do, nothing is written. -/
theorem converge_writes {resyncSeconds : Nat} {desired : DesiredWorkload}
    {configMap : GeneratedConfigMap} {live : Option Deployment} {r : Except Failure Gateway.Step}
    (run : (g.converge resyncSeconds desired configMap live).run.Yields answers s t r s') :
    t.writtenWorkloads =
      if desired.nextAction live = .keep then [] else (desired.advance g live).toList := by
  have idle
      (run : (do Attempt.measure (.requeue .resync)
                 return ⟨.after resyncSeconds, "Gateway is up to date"⟩ :
        Attempt Gateway.Step).run.Yields answers s t r s') : t.writtenWorkloads = [] := by
    obtain ⟨_, _, _, _, counted, ⟨rfl, -, -⟩, rfl⟩ := Attempt.yields_lift_bind.mp run
    obtain ⟨-, rfl⟩ := Program.yields_query.mp counted
    rfl
  unfold DesiredWorkload.advance DesiredWorkload.nextAction
  unfold Gateway.converge at run
  generalize plan desired (live.map LiveWorkload.ofDeployment) = action at run ⊢
  cases action with
  | create =>
    rw [if_neg RolloutAction.noConfusion]
    rcases Attempt.yields_bind.mp run with ⟨e, -, failed⟩ | ⟨_, mid, _, after, made, told, rfl⟩
    · exact createWorkload_writes failed
    · rw [Transcript.writtenWorkloads_append, createWorkload_writes made, announce_writes told]
      rfl
  | scale replicas =>
    rw [if_neg RolloutAction.noConfusion]
    cases live with
    | none => exact idle run
    | some d =>
      refine replaceWorkload_writes run ?_
      rintro written mid after ⟨rfl, -, -⟩
      rfl
  | update cause =>
    rw [if_neg RolloutAction.noConfusion]
    cases live with
    | none => exact idle run
    | some d => exact replaceWorkload_writes run announce_writes
  | keep =>
    rw [if_pos rfl]
    exact idle run

end Writing

/-! ### When nothing is left to do -/

theorem ChangeCause.describe?_eq_none_iff {causes : List ChangeCause} :
    describe? causes = none ↔ causes = [] := by
  cases causes <;> simp [describe?]

/-- Nothing is left to do exactly if the workload is as it is asked for. -/
theorem plan_eq_keep_iff {desired : DesiredWorkload} {live : LiveWorkload} :
    plan desired (some live) = .keep ↔ live.Meets desired := by
  constructor
  · intro kept
    unfold plan at kept
    dsimp only at kept
    split at kept
    · cases kept
    · next right =>
      split at kept
      · cases kept
      · next none_left =>
        obtain ⟨version, lang, account, image⟩ :=
          (changes_eq_nil_iff desired live).mp (ChangeCause.describe?_eq_none_iff.mp none_left)
        exact ⟨Decidable.not_not.mp right, version, lang, account, image⟩
  · intro meets
    have none_left : desired.changes live = [] := (changes_eq_nil_iff desired live).mpr
      ⟨meets.configVersion, meets.lang, meets.serviceAccount, meets.image⟩
    have right : live.replicaCount = desired.replicas := meets.replicas
    simp [plan, right, none_left, ChangeCause.describe?]

namespace DesiredWorkload

variable {d : Deployment}

/-- A wrong number of pods is corrected, and nothing else. -/
theorem advance_of_wrong (desired : DesiredWorkload) (g : Gateway)
    (wrong : (LiveWorkload.ofDeployment d).replicaCount ≠ desired.replicas) :
    desired.nextAction (some d) = .scale desired.replicas ∧
      desired.advance g (some d) = some (d.scale desired.replicas) := by
  have action : desired.nextAction (some d) = .scale desired.replicas := if_pos wrong
  refine ⟨action, ?_⟩
  rw [advance, action]
  rfl

/-- With the right number of pods, a difference is updated. -/
theorem advance_of_differs (desired : DesiredWorkload) (g : Gateway)
    (right : (LiveWorkload.ofDeployment d).replicaCount = desired.replicas)
    (differs : desired.changes (LiveWorkload.ofDeployment d) ≠ []) :
    ∃ cause, desired.nextAction (some d) = .update cause ∧
      desired.advance g (some d) = some (desired.updateDeployment cause d) := by
  cases told : ChangeCause.describe? (desired.changes (LiveWorkload.ofDeployment d)) with
  | none => exact absurd (ChangeCause.describe?_eq_none_iff.mp told) differs
  | some cause =>
    have action : desired.nextAction (some d) = .update cause := by
      simp [nextAction, plan, right, told]
    refine ⟨cause, action, ?_⟩
    rw [advance, action]
    rfl

variable {desired : DesiredWorkload} {g : Gateway}

/-- What meets the wishes is at rest. -/
theorem SettlesIn.of_meets (meets : (LiveWorkload.ofDeployment d).Meets desired) :
    desired.SettlesIn g (some d) 0 d :=
  .rest (plan_eq_keep_iff.mpr meets)

/-- Planning that has come to rest has met what is asked for. -/
theorem SettlesIn.meets {live : Option Deployment} {steps : Nat}
    (settles : desired.SettlesIn g live steps d) : (LiveWorkload.ofDeployment d).Meets desired := by
  induction settles with
  | rest kept => exact plan_eq_keep_iff.mp kept
  | step due settles ih => exact ih

end DesiredWorkload

/-! ### The steps of a gateway -/

section Settling

variable (g : Gateway) (version name : String)

/-- A workload that was made is as it is asked for. -/
theorem meets_deployment :
    (LiveWorkload.ofDeployment ((DesiredWorkload.ofGateway g version name).deployment g)).Meets
      (DesiredWorkload.ofGateway g version name) := by
  obtain ⟨none_left, sized⟩ := changes_deployment g version name
  obtain ⟨version, lang, account, image⟩ := (changes_eq_nil_iff _ _).mp none_left
  exact ⟨congrArg (Option.getD · 1) sized, version, lang, account, image⟩

/-- A workload with the right number of pods that was updated is as it is asked for. -/
theorem meets_updateDeployment {d : Deployment} (cause : String)
    (right : (LiveWorkload.ofDeployment d).replicaCount = g.spec.replicas) :
    (LiveWorkload.ofDeployment
      ((DesiredWorkload.ofGateway g version name).updateDeployment cause d)).Meets
        (DesiredWorkload.ofGateway g version name) := by
  obtain ⟨version', lang, account, image⟩ :=
    (changes_eq_nil_iff _ _).mp (changes_updateDeployment g version name cause d)
  refine ⟨?_, version', lang, account, image⟩
  rw [replicas_updateDeployment]
  exact right

/-- With the right number of pods, at most one step is left. -/
theorem settlesIn_of_sized {d : Deployment}
    (right : (LiveWorkload.ofDeployment d).replicaCount = g.spec.replicas) :
    ∃ steps ≤ 1, ∃ d',
      (DesiredWorkload.ofGateway g version name).SettlesIn g (some d) steps d' := by
  by_cases differs : (DesiredWorkload.ofGateway g version name).changes
      (LiveWorkload.ofDeployment d) = []
  · obtain ⟨version', lang, account, image⟩ := (changes_eq_nil_iff _ _).mp differs
    exact ⟨0, Nat.zero_le 1, d, .of_meets ⟨right, version', lang, account, image⟩⟩
  · obtain ⟨cause, action, advanced⟩ := DesiredWorkload.advance_of_differs
      (DesiredWorkload.ofGateway g version name) g right differs
    have settles := DesiredWorkload.SettlesIn.of_meets (g := g)
      (meets_updateDeployment g version name cause right)
    rw [← advanced] at settles
    refine ⟨1, Nat.le_refl 1, _, .step ?_ settles⟩
    rw [action]
    exact RolloutAction.noConfusion

/-- From any workload or none, at most two steps are left. -/
theorem exists_settlesIn (live : Option Deployment) :
    ∃ steps ≤ 2, ∃ d, (DesiredWorkload.ofGateway g version name).SettlesIn g live steps d := by
  cases live with
  | none =>
    refine ⟨1, by omega, _, .step ?_ (.of_meets (meets_deployment g version name))⟩
    exact RolloutAction.noConfusion
  | some d =>
    by_cases right : (LiveWorkload.ofDeployment d).replicaCount = g.spec.replicas
    · obtain ⟨steps, few, d', settles⟩ := settlesIn_of_sized g version name right
      exact ⟨steps, by omega, d', settles⟩
    · -- Scaling comes first, and leaves the differences for the next step.
      obtain ⟨action, advanced⟩ := DesiredWorkload.advance_of_wrong
        (DesiredWorkload.ofGateway g version name) g right
      have sized : (LiveWorkload.ofDeployment (d.scale g.spec.replicas)).replicaCount =
          g.spec.replicas := by
        rw [LiveWorkload.ofDeployment_scale]
        rfl
      obtain ⟨steps, few, d', settles⟩ := settlesIn_of_sized g version name sized
      refine ⟨steps + 1, by omega, d', .step ?_ ?_⟩
      · rw [action]
        exact RolloutAction.noConfusion
      · rw [advanced]
        exact settles

/-- Scaling leaves everything but the number of pods as it is. -/
theorem sameButReplicas_scale (d : Deployment) (replicas : Int) :
    d.SameButReplicas (d.scale replicas) :=
  ⟨rfl, fun _ => rfl⟩

/-- **Two steps are always enough.**  Whatever runs under a gateway's name, however little its
wishes say, or nothing at all: taking the planned step and planning again comes to rest after at
most two steps, and what runs then has the number of pods, the version, the account, the language
and the image that are asked for.  On the way a scale changes nothing but the number of pods, and an
update never changes it. -/
theorem plan_settles (live : Option Deployment) :
    (∃ steps ≤ 2, ∃ d, (DesiredWorkload.ofGateway g version name).SettlesIn g live steps d ∧
      (LiveWorkload.ofDeployment d).Meets (DesiredWorkload.ofGateway g version name)) ∧
    (∀ (d : Deployment) (replicas : Int), d.SameButReplicas (d.scale replicas)) ∧
    ∀ (d : Deployment) (cause : String),
      ((DesiredWorkload.ofGateway g version name).updateDeployment cause d).spec.bind (·.replicas) =
        d.spec.bind (·.replicas) := by
  refine ⟨?_, sameButReplicas_scale, ?_⟩
  · obtain ⟨steps, few, d, settles⟩ := exists_settlesIn g version name live
    exact ⟨steps, few, d, settles, settles.meets⟩
  · intro d cause
    exact replicas_updateDeployment (DesiredWorkload.ofGateway g version name) cause d

end Settling

end GatewayOperator
