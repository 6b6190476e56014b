import GatewayOperator.Proofs.Rollout.FailedPasses

/-!
# One config map for each gateway

Passes over a gateway follow one another.  Any call may be refused, and a pass may see the status
that any earlier pass has written, or none.  Still no more than one config map is left by all of
them, and it is the one that the workload reads.

## Main Definitions

* `Deployment.MountsOnly` — a workload reads a config map and no other one.
* `PassHistory` — the runs of passes over a gateway, one after another.
* `Transcript.Left` — a config map was made and is still there.
* `Generates` — what the passes so far have left behind.

## Main Statements

* `PassEnds.generates` — a pass keeps that to one config map.
* `PassHistory.one_configMap` — at most one config map is left, and the workload reads it.

## Design Notes

A status names a config map only after there was a workload, and a workload never goes.  So the
status is only asked as long as it names none, and an old status does no harm.

A call that is refused is not answered as if the object were missing: a workload whose config map is
denied would get another one.  The removal of what was made has to work, and everything else may be
refused at any point.
-/

namespace GatewayOperator

variable {P : Platform} {g : Gateway} {key : ObjectKey} {name : String} {c c' : Cluster}
  {t t' : Transcript} {r : Except Failure Requeue}

/-! ### The workload -/

/-- A workload reads a config map and no other one: its label names it, and it is the only volume
for the document. -/
structure Deployment.MountsOnly (d : Deployment) (name : String) : Prop where
  /-- The label names it. -/
  label : d.templateLabel? WellKnown.configMapLabel = some name
  /-- The volume names it, and there is no other one. -/
  volumes : d.configVolumes = [{ name := "app-gateway-config", configMap := some name }]

/-- A step towards a workload with a config map keeps it from reading another one. -/
theorem Advances.mountsOnly {document : Document} {live : Option Deployment} {d : Deployment}
    (advances : Advances g document name live d)
    (earlier : ∀ before, live = some before → before.MountsOnly name) : d.MountsOnly name := by
  cases advances with
  | made => exact ⟨templateLabel?_deployment _ g, configVolumes_deployment _ g⟩
  | @scaled before =>
    have mounts : before.MountsOnly name := earlier before rfl
    constructor
    · rw [templateLabel?_scale, mounts.label]
    · rw [configVolumes_scale, mounts.volumes]
  | @updated before =>
    have mounts : before.MountsOnly name := earlier before rfl
    constructor
    · exact templateLabel?_updateDeployment _ _ _
    · rw [configVolumes_updateDeployment, mounts.volumes]
      rfl
  | kept => exact earlier d rfl

/-- Where no config map is denied that is there, one that is not found is not there. -/
theorem Unfound.absent {ns : String} {shelf : Shelf ConfigMap}
    (h : Unfound P.AnswersTruly ns shelf t name) : shelf.get? ⟨ns, name⟩ = none := by
  obtain ⟨kind, missing, mid, mid', rfl, ⟨-, truly⟩, -⟩ := h
  have carried := truly ⟨kind, missing, rfl⟩
  exact Shelf.get?_of_fetch_error carried.1

/-! ### Passes, one after another -/

/-- The runs of passes over a gateway, with what was asked so far.  What is asked of the gateway may
change before each pass; its name and namespace stay. -/
inductive PassHistory (P : Platform) (key : ObjectKey) : Transcript → Cluster → Prop
  /-- There is no workload, and there was no pass. -/
  | start {c : Cluster} (kept : c.WellKept) (absent : c.deployments.get? key = none) :
      PassHistory P key [] c
  /-- A pass sees a status that was written before, or none. -/
  | pass {g : Gateway} {resyncSeconds : Nat} {ledger : FailureLedger} {t t' : Transcript}
      {r : Except Failure Requeue × FailureLedger} {c c' : Cluster}
      (earlier : PassHistory P key t c) (same : g.key = key)
      (seen : ∀ status, g.status = some status → status ∈ t.writtenStatuses)
      (run : (g.reconcile resyncSeconds ledger).Yields P.AnswersTruly c t' r c') :
      PassHistory P key (t ++ t') c'
  /-- Others change what has nothing to do with the gateway. -/
  | meanwhile {t : Transcript} {c c' : Cluster} (earlier : PassHistory P key t c)
      (kept : c'.WellKept) (deployment : c'.deployments.get? key = c.deployments.get? key)
      (configMaps : ∀ made ∈ t.madeConfigMaps,
        c'.configMaps.get? made = c.configMaps.get? made) : PassHistory P key t c'

/-! ### What is left -/

/-- A config map was made in a run and is still there. -/
structure Transcript.Left (t : Transcript) (c : Cluster) (key : ObjectKey) : Prop where
  /-- It was made. -/
  made : key ∈ t.madeConfigMaps
  /-- It is there. -/
  there : c.configMaps.contains key = true

namespace Transcript

/-- Where nothing is made and nothing comes or goes, the same is left. -/
theorem left_append_of_unmade (unmade : t'.madeConfigMaps = [])
    (names : ∀ key, c'.configMaps.contains key = c.configMaps.contains key) (key : ObjectKey) :
    Left (t ++ t') c' key ↔ t.Left c key := by
  have same : madeConfigMaps (t ++ t') = t.madeConfigMaps := by simp [unmade]
  constructor
  · rintro ⟨made, there⟩
    exact ⟨same ▸ made, names key ▸ there⟩
  · rintro ⟨made, there⟩
    exact ⟨same ▸ made, names key ▸ there⟩

/-- What is made under a free name and removed again is not left. -/
theorem left_append_of_removed {removed : ObjectKey} (free : c.configMaps.get? removed = none)
    (made : t'.madeConfigMaps = [removed]) (same : c'.configMaps = c.configMaps)
    (key : ObjectKey) : Left (t ++ t') c' key ↔ t.Left c key := by
  have absent : c.configMaps.contains removed = false := Dict.contains_eq_false_iff.mpr free
  constructor
  · rintro ⟨mem, there⟩
    rw [same] at there
    rw [madeConfigMaps_append, made] at mem
    rcases List.mem_append.mp mem with old | new
    · exact ⟨old, there⟩
    · rw [List.mem_singleton.mp new, absent] at there
      cases there
  · rintro ⟨mem, there⟩
    rw [← same] at there
    exact ⟨by simp [mem], there⟩

/-- What is made is left, beside what was left before. -/
theorem left_append_of_made {new : ObjectKey} {object : ConfigMap}
    (made : t'.madeConfigMaps = [new]) (stored : c'.configMaps = c.configMaps.insert new object)
    (key : ObjectKey) : Left (t ++ t') c' key ↔ key = new ∨ t.Left c key := by
  have there_iff : c'.configMaps.contains key = true ↔
      key = new ∨ c.configMaps.contains key = true := by
    rw [stored]
    exact Dict.contains_insert_iff
  constructor
  · rintro ⟨mem, there⟩
    rw [madeConfigMaps_append, made] at mem
    rcases there_iff.mp there with same | there
    · exact Or.inl same
    · rcases List.mem_append.mp mem with old | same
      · exact Or.inr ⟨old, there⟩
      · exact Or.inl (List.mem_singleton.mp same)
  · rintro (same | ⟨mem, there⟩)
    · exact ⟨by simp [made, same], there_iff.mpr (Or.inl same)⟩
    · exact ⟨by simp [mem], there_iff.mpr (Or.inr there)⟩

end Transcript

/-- What the passes so far have left behind. -/
inductive Generates (key : ObjectKey) (t : Transcript) (c : Cluster) : Prop
  /-- Nothing is left, and no status that was written names a config map. -/
  | nothing (absent : c.deployments.get? key = none) (gone : ∀ made, ¬t.Left c made)
      (unnamed : ∀ status ∈ t.writtenStatuses, status.configMapName = none)
  /-- One config map is left, and the workload reads it. -/
  | one {d : Deployment} {name : String} (running : c.deployments.get? key = some d)
      (nonempty : name ≠ "") (only : ∀ made, t.Left c made ↔ made = ⟨key.namespace_, name⟩)
      (mounts : d.MountsOnly name)

/-- A gateway that runs nothing has no config map if its status names none. -/
theorem Gateway.currentConfigMap?_none
    (unnamed : ∀ status, g.status = some status → status.configMapName = none) :
    g.currentConfigMap? none = none := by
  unfold Gateway.currentConfigMap?
  cases seen : g.status with
  | none => rfl
  | some status =>
    have none_named : status.configMapName = none := unnamed status seen
    rw [Option.bind_some, none_named]
    rfl

/-- Statuses that name no config map lead to no status that names one, if the gateway sees one of
them or none. -/
theorem Gateway.Carries.unnamed (carries : g.Carries t')
    (unnamed : ∀ status ∈ t.writtenStatuses, status.configMapName = none)
    (unknown : ∀ status, g.status = some status → status.configMapName = none) :
    ∀ status ∈ (t ++ t').writtenStatuses, status.configMapName = none := by
  intro status mem
  rw [Transcript.writtenStatuses_append] at mem
  rcases List.mem_append.mp mem with old | new
  · exact unnamed status old
  · rw [carries status new]
    cases same : g.status with
    | none => rfl
    | some observed => exact unknown observed same

/-- As long as nothing is left, a pass leaves nothing, or one config map for the workload that it
makes. -/
theorem PassEnds.generates_of_nothing (discards : P.Discards)
    (ends : PassEnds P P.AnswersTruly g c t' r c')
    (seen : ∀ status, g.status = some status → status ∈ t.writtenStatuses)
    (absent : c.deployments.get? g.key = none) (gone : ∀ made, ¬t.Left c made)
    (unnamed : ∀ status ∈ t.writtenStatuses, status.configMapName = none) :
    Generates g.key (t ++ t') c' := by
  have unknown : ∀ status, g.status = some status → status.configMapName = none :=
    fun status same => unnamed status (seen status same)
  cases ends with
  | halted same unmade carries =>
    refine .nothing (by rw [same.deployments, absent]) ?_ (carries.unnamed unnamed unknown)
    intro made left
    exact gone made ((Transcript.left_append_of_unmade unmade same.names made).mp left)
  | discarded free made' deployments removed carries =>
    refine .nothing (by rw [deployments, absent]) ?_ (carries.unnamed unnamed unknown)
    intro made left
    have restored : c'.configMaps = c.configMaps := removed (discards.removes t')
    exact gone made ((Transcript.left_append_of_removed free made' restored made).mp left)
  | stranded running =>
    rw [absent] at running
    cases running
  | advanced serves advances running =>
    rw [absent] at serves advances
    cases serves with
    | found current =>
      rw [Gateway.currentConfigMap?_none unknown] at current
      cases current
    | made missing nonempty free made' stored =>
      refine .one running nonempty ?_ (advances.mountsOnly ?_)
      · intro made
        rw [Transcript.left_append_of_made made' stored]
        exact or_iff_left (gone made)
      · intro before impossible
        cases impossible

/-- Once there is a workload with its config map, every pass keeps that as the only one. -/
theorem PassEnds.generates_of_one (discards : P.Discards)
    (ends : PassEnds P P.AnswersTruly g c t' r c') {d : Deployment}
    (running : c.deployments.get? g.key = some d) (nonempty : name ≠ "")
    (only : ∀ made, t.Left c made ↔ made = ⟨g.key.namespace_, name⟩)
    (mounts : d.MountsOnly name) : Generates g.key (t ++ t') c' := by
  -- The label of the workload comes before any status.
  have current : g.currentConfigMap? (some d) = some name := by
    rw [Gateway.currentConfigMap?_of_mounted mounts.label, Text.nonEmpty?_of_ne nonempty]
  have not_missing (missing : ∀ other, g.currentConfigMap? (some d) = some other →
      Unfound P.AnswersTruly g.namespaceText c.configMaps t' other) : False := by
    have there := ((only ⟨g.namespaceText, name⟩).mpr rfl).there
    rw [Dict.contains_eq_false_iff.mpr (missing name current).absent] at there
    cases there
  cases ends with
  | halted same unmade =>
    refine .one (same.deployments ▸ running) nonempty (fun made => ?_) mounts
    exact (Transcript.left_append_of_unmade unmade same.names made).trans (only made)
  | discarded free made' deployments removed =>
    refine .one (deployments ▸ running) nonempty (fun made => ?_) mounts
    have restored : c'.configMaps = c.configMaps := removed (discards.removes t')
    exact (Transcript.left_append_of_removed free made' restored made).trans (only made)
  | stranded running' missing =>
    cases running.symm.trans running'
    exact (not_missing missing).elim
  | advanced serves advances running' =>
    rw [running] at serves advances
    cases serves with
    | found known there unmade names =>
      cases current.symm.trans known
      refine .one running' nonempty (fun made => ?_) (advances.mountsOnly ?_)
      · exact (Transcript.left_append_of_unmade unmade names made).trans (only made)
      · rintro before ⟨⟩
        exact mounts
    | made missing => exact (not_missing missing).elim

/-- Every pass keeps what is left to one config map. -/
theorem PassEnds.generates (discards : P.Discards) (ends : PassEnds P P.AnswersTruly g c t' r c')
    (seen : ∀ status, g.status = some status → status ∈ t.writtenStatuses)
    (generates : Generates g.key t c) : Generates g.key (t ++ t') c' := by
  cases generates with
  | nothing absent gone unnamed =>
    exact ends.generates_of_nothing discards seen absent gone unnamed
  | one running nonempty only mounts =>
    exact ends.generates_of_one discards running nonempty only mounts

namespace PassHistory

theorem wellKept (history : PassHistory P key t c) : c.WellKept := by
  induction history with
  | start kept => exact kept
  | pass earlier same seen run ih =>
    exact ih.of_yields (run.mono fun _ _ _ _ answered => answered.1)
  | meanwhile earlier kept => exact kept

/-- What the passes leave behind is nothing, or one config map that the workload reads. -/
theorem generates (history : PassHistory P key t c) (discards : P.Discards) :
    Generates key t c := by
  induction history with
  | start kept absent =>
    refine .nothing absent (fun made left => ?_) (fun status impossible => ?_)
    · cases left.made
    · cases impossible
  | pass earlier same seen run ih =>
    subst same
    have within : Responder.Within P.AnswersTruly P := fun _ _ _ _ answered => answered.1
    exact (reconcile_ends within run earlier.wellKept).generates discards seen ih
  | @meanwhile t c c' earlier kept deployment configMaps ih =>
    have same (made : ObjectKey) : t.Left c' made ↔ t.Left c made := by
      constructor
      · rintro ⟨mem, there⟩
        rw [Dict.contains, configMaps made mem] at there
        exact ⟨mem, there⟩
      · rintro ⟨mem, there⟩
        rw [Dict.contains, ← configMaps made mem] at there
        exact ⟨mem, there⟩
    cases ih with
    | nothing absent gone unnamed =>
      exact .nothing (deployment.trans absent) (fun made left => gone made ((same made).mp left))
        unnamed
    | one running nonempty only mounts =>
      exact .one (deployment.trans running) nonempty (fun made => (same made).trans (only made))
        mounts

/-- **At most one config map is ever left by the passes over a gateway**, and the workload reads
it: there is neither a workload nor a config map that a pass has made, or there are both, the config
map is the only one, and label and volume of the workload name it. -/
theorem one_configMap (history : PassHistory P key t c) (discards : P.Discards) :
    (c.deployments.get? key = none ∧
      ∀ made ∈ t.madeConfigMaps, c.configMaps.contains made = false) ∨
    ∃ d name, c.deployments.get? key = some d ∧
      ⟨key.namespace_, name⟩ ∈ t.madeConfigMaps ∧
      (∀ made ∈ t.madeConfigMaps,
        c.configMaps.contains made = true ↔ made = ⟨key.namespace_, name⟩) ∧
      d.templateLabel? WellKnown.configMapLabel = some name ∧
      d.configVolumes = [{ name := "app-gateway-config", configMap := some name }] := by
  cases history.generates discards with
  | nothing absent gone =>
    refine Or.inl ⟨absent, fun made mem => ?_⟩
    exact Bool.eq_false_iff.mpr fun there => gone made ⟨mem, there⟩
  | @one d name running nonempty only mounts =>
    refine Or.inr ⟨d, name, running, ((only _).mpr rfl).made, ?_, mounts.label, mounts.volumes⟩
    intro made mem
    constructor
    · intro there
      exact (only made).mp ⟨mem, there⟩
    · intro same
      exact ((only made).mpr same).there

/-- A pass in a world goes on with a history of passes in the same network. -/
theorem perform {first w : World} (network : first.SameNetwork w) (finds : first.losing = [])
    (earlier : PassHistory first.platform g.key t w.cluster)
    (seen : ∀ status, g.status = some status → status ∈ t.writtenStatuses) :
    ∃ t', PassHistory first.platform g.key (t ++ t') (w.perform (g.reconcile 30 ∅)).2.cluster := by
  obtain ⟨t', run⟩ := w.perform_yields_truly (network.2.1.trans finds) (g.reconcile 30 ∅)
  rw [World.platform_eq network] at run
  exact ⟨t', earlier.pass rfl seen run⟩

end PassHistory

/-- The gateway without any configuration, with another image. -/
def upgradedGateway : Gateway :=
  { bareGateway with
    spec :=
      { bareGateway.spec with
        deployment := { bareGateway.spec.deployment with image := "gateway:2" } } }

/-- A world in which no status can be written, after a pass over a gateway and one over the same
gateway with another image. -/
def worldAfterUpgrade : World :=
  (((worldRefusing "patch_gateway_status").perform (bareGateway.reconcile 30 ∅)).2.perform
    (upgradedGateway.reconcile 30 ∅)).2

theorem history_worldAfterUpgrade :
    ∃ t, PassHistory (worldRefusing "patch_gateway_status").platform upgradedGateway.key t
      worldAfterUpgrade.cluster := by
  have start : PassHistory (worldRefusing "patch_gateway_status").platform bareGateway.key []
      (worldRefusing "patch_gateway_status").cluster := .start wellKept_empty rfl
  have network := World.sameNetwork_perform (worldRefusing "patch_gateway_status")
    (bareGateway.reconcile 30 ∅)
  have same : bareGateway.key = upgradedGateway.key := rfl
  have unseen {t : Transcript} :
      ∀ status, bareGateway.status = some status → status ∈ t.writtenStatuses := by
    intro status impossible
    cases impossible
  obtain ⟨t, made⟩ := PassHistory.perform ⟨rfl, rfl, rfl⟩ rfl start unseen
  rw [same] at made
  obtain ⟨t', upgraded⟩ := PassHistory.perform network rfl made unseen
  unfold worldAfterUpgrade
  exact ⟨_, upgraded⟩

/-- Two passes that cannot write their status leave the workload with its one config map. -/
theorem upgradedGateway_has_one_configMap : ∃ t d name,
    PassHistory (worldRefusing "patch_gateway_status").platform upgradedGateway.key t
        worldAfterUpgrade.cluster ∧
      (worldRefusing "patch_gateway_status").platform.Discards ∧
      worldAfterUpgrade.cluster.deployments.get? upgradedGateway.key = some d ∧
      ⟨"apps", name⟩ ∈ t.madeConfigMaps ∧
      (∀ made ∈ t.madeConfigMaps,
        worldAfterUpgrade.cluster.configMaps.contains made = true ↔ made = ⟨"apps", name⟩) ∧
      d.templateLabel? WellKnown.configMapLabel = some name ∧
      d.configVolumes = [{ name := "app-gateway-config", configMap := some name }] := by
  obtain ⟨t, history⟩ := history_worldAfterUpgrade
  have discards : (worldRefusing "patch_gateway_status").platform.Discards :=
    discards_worldRefusing (by decide)
  have running : (worldAfterUpgrade.cluster.deployments.get? upgradedGateway.key).isSome = true := by
    decide +kernel
  rcases history.one_configMap discards with ⟨absent, -⟩ | ⟨d, name, there, made, only, reads⟩
  · rw [absent] at running
    cases running
  · exact ⟨t, d, name, history, discards, there, made, only, reads⟩

end GatewayOperator
