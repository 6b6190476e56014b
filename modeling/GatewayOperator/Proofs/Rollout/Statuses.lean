import GatewayOperator.Proofs.Rollout.FailedPasses

/-!
# What a status tells of the workload

A pass that succeeds reports the number of pods that is asked for, the version of the document that
it has resolved, and the config map that holds it.  The labels of the running workload say which
version and which config map its pods were started with.  The two need not be the same: a pass that
only changes the number of pods, and one that has nothing to do, leave the labels as they are.

## Main Definitions

* `Gateway.statusAfter` — the status of a gateway after a run.
* `GatewayStatus.Tells` — a status says of a workload what can be read off it.
* `Gateway.Relabels` — a pass leaves a workload with the labels of what it reports.
* `Succeeds` — what a pass that succeeds has done and reported.

## Main Statements

* `reconcile_succeeds` — every successful pass is of this form.
* `status_tells_iff` — when the status after a pass tells what is rolled out.

## Design Notes

The number of pods is always told as it is.  What an update asks for is decided without the config
map, and not at all while the number of pods is wrong: these are the two ways in which the labels
stay behind the status.
-/

namespace GatewayOperator

variable {answers : Responder Cluster} {P : Platform} {g : Gateway} {document : Document}
  {configMap : GeneratedConfigMap} {d : Deployment} {status : GatewayStatus} {c mid c' : Cluster}
  {t before after : Transcript}

/-! ### The status after a run -/

/-- The status of a gateway after a run: the last one that was written, or the one it had. -/
def Gateway.statusAfter (g : Gateway) (t : Transcript) : Option GatewayStatus :=
  t.writtenStatuses.getLast?.or g.status

/-- Where no status is written before and after, the part between counts. -/
theorem Gateway.statusAfter_between (first : before.writtenStatuses = [])
    (last : after.writtenStatuses = []) :
    g.statusAfter (before ++ (t ++ after)) = g.statusAfter t := by
  simp [statusAfter, first, last]

/-- What a successful report leaves is the status that was reported, written or left alone. -/
theorem statusAfter_updateStatus {u : Unit}
    (run : (Attempt.ofStore (g.updateStatus status)).run.Yields answers c t (.ok u) c') :
    g.statusAfter t = some status := by
  obtain ⟨answer, reporting, same⟩ := Attempt.yields_ofStore.mp run
  unfold Gateway.updateStatus at reporting
  split at reporting
  · next known =>
    obtain ⟨rfl, -, -⟩ := reporting
    exact known
  · obtain ⟨-, rfl⟩ := Program.yields_query.mp reporting
    cases answer with
    | ok => rfl
    | error why => cases same

/-- A pass that is concluded has reported its config map. -/
theorem statusAfter_conclude {step : Gateway.Step} {requeue : Requeue}
    (run : (g.conclude configMap step).run.Yields answers c t (.ok requeue) c') :
    ∃ now, g.statusAfter t = some (g.nextStatus now true "Reconciled" step.message
      (some ⟨g.spec.replicas, configMap.version, configMap.name⟩)) := by
  obtain ⟨now, _, looking, _, timed, run₁, rfl⟩ := Attempt.yields_lift_bind.mp run
  rcases Attempt.yields_bind.mp run₁ with
    ⟨_, impossible, -⟩ | ⟨_, _, reporting, _, reported, ⟨rfl, -, -⟩, rfl⟩
  · cases impossible
  have unwritten : looking.writtenStatuses = [] :=
    (timed.plain (Program.asks_query trivial)).unwritten
  exact ⟨now, (Gateway.statusAfter_between unwritten rfl).trans (statusAfter_updateStatus reported)⟩

/-! ### Successful passes -/

/-- In a run the configuration of a gateway was resolved to a document. -/
def Gateway.Resolved (g : Gateway) (answers : Responder Cluster) (t : Transcript)
    (document : Document) : Prop :=
  ∃ sources first resolving last, Source.ofEntries g.spec.configuration = .ok sources ∧
    (resolve g.namespaceText sources).run.Yields answers first resolving (.ok document) last ∧
    resolving <:+: t

/-- What a pass that succeeds has done and reported: a config map serves the document, a step is
taken towards the workload, and the status names the config map. -/
structure Succeeds (answers : Responder Cluster) (g : Gateway) (document : Document) (c : Cluster)
    (t : Transcript) (configMap : GeneratedConfigMap) (d : Deployment) (c' : Cluster) : Prop where
  /-- The config map is that of the document. -/
  version : configMap.version = configVersion document.render
  /-- The config map is found or made. -/
  serves : Serves answers g (c.deployments.get? g.key) c.configMaps t configMap c'.configMaps
  /-- One step is taken towards the workload. -/
  advances : Advances g document configMap.name (c.deployments.get? g.key) d
  /-- The workload runs. -/
  running : c'.deployments.get? g.key = some d
  /-- The config map is reported. -/
  reported : ∃ now message, g.statusAfter t = some (g.nextStatus now true "Reconciled" message
    (some ⟨g.spec.replicas, configMap.version, configMap.name⟩))

/-- Reading before and counting after makes no difference. -/
theorem Succeeds.between {c₁ c₂ : Cluster} (first : c.SameStock c₁) (plain : before.Plain)
    (succeeds : Succeeds answers g document c₁ t configMap d c₂) (last : c₂.SameStock c')
    (plain' : after.Plain) :
    Succeeds answers g document c (before ++ (t ++ after)) configMap d c' := by
  obtain ⟨version, serves, advances, running, now, message, reported⟩ := succeeds
  rw [first.deployments, first.configMaps, ← last.configMaps] at serves
  rw [first.deployments] at advances
  rw [← last.deployments] at running
  exact ⟨version, serves.between plain.unmade plain'.unmade, advances, running, now, message,
    (Gateway.statusAfter_between plain.unwritten plain'.unwritten).trans reported⟩

/-- Once the document is resolved, a pass that succeeds is of this form. -/
theorem apply_succeeds (within : answers.Within P) {resyncSeconds : Nat}
    {live : Option Deployment} {requeue : Requeue}
    (run : (g.apply resyncSeconds live document).run.Yields answers c t (.ok requeue) c')
    (kept : c.WellKept) (seen : ∀ d, live = some d → c.deployments.get? g.key = some d) :
    ∃ configMap d, Succeeds answers g document c t configMap d c' := by
  unfold Gateway.apply at run
  rcases Attempt.yields_bind.mp run with
    ⟨_, impossible, -⟩ | ⟨configMap, c₁, ensuring, _, ensured, run₁, rfl⟩
  · cases impossible
  obtain ⟨deployments, unwritten, ⟨⟨_, impossible⟩, -⟩ | ⟨_, same, version, serves⟩⟩ :=
    ensureConfigMap_ensuringEnds within ensured kept
  · cases impossible
  cases same
  rw [version] at run₁
  have seen₁ : ∀ d, live = some d → c₁.deployments.get? g.key = some d := by
    rw [deployments]
    exact seen
  rcases Attempt.yields_bind.mp run₁ with
    ⟨_, impossible, -⟩ | ⟨step, c₂, stepping, concluding, stepped, run₂, rfl⟩
  · cases impossible
  have plain := stepped.plain ((converge_asks g _ _ _ _).mono fun _ => Query.Converging.plain)
  obtain ⟨same, unmade⟩ := yields_reporting within (g.conclude_asks configMap step) run₂
  obtain ⟨now, reported⟩ := statusAfter_conclude run₂
  cases converge_ends within stepped (kept.of_yields (ensured.mono within)) seen₁ with
  | advanced was advances running configMaps =>
    rw [deployments] at was
    subst was
    rw [← configMaps, ← same.configMaps] at serves
    rw [← same.deployments] at running
    have nothing : Transcript.madeConfigMaps [] = [] := rfl
    refine ⟨configMap, _, version, serves.between nothing ?_, advances, running, now, step.message,
      ?_⟩
    · simp [plain.unmade, unmade]
    · -- The status is written at the end, after what made sure of config map and workload.
      have whole : ensuring ++ (stepping ++ concluding) =
          (ensuring ++ stepping) ++ (concluding ++ []) := by
        simp
      have before : Transcript.writtenStatuses (ensuring ++ stepping) = [] := by
        simp [unwritten, plain.unwritten]
      rw [whole, Gateway.statusAfter_between before rfl, reported]

/-- Up to the report of a failure, a pass that succeeds is of this form. -/
theorem rollOut_succeeds (within : answers.Within P) {resyncSeconds : Nat} {requeue : Requeue}
    (run : (g.rollOut resyncSeconds).run.Yields answers c t (.ok requeue) c')
    (kept : c.WellKept) :
    ∃ document configMap d, g.Resolved answers t document ∧
      Succeeds answers g document c t configMap d c' := by
  rw [Gateway.rollOut_eq] at run
  rcases Attempt.yields_bind.mp run with
    ⟨_, impossible, -⟩ | ⟨live, c₁, looking, _, read, run₁, rfl⟩
  · cases impossible
  obtain ⟨same, plain, seen⟩ := yields_seesDeployment within read
  rcases Attempt.yields_bind.mp run₁ with
    ⟨_, impossible, -⟩ | ⟨sources, c₂, _, _, ⟨rfl, sourced, rfl⟩, run₂, rfl⟩
  · cases impossible
  rcases Attempt.yields_bind.mp run₂ with
    ⟨_, impossible, -⟩ | ⟨document, c₃, resolving, rest, resolved, run₃, rfl⟩
  · cases impossible
  have unchanged := same.sameStock.trans (resolve_sameButSecrets (resolved.mono within)).sameStock
  have kept₃ := (kept.of_yields (read.mono within)).of_yields (resolved.mono within)
  have seen₃ : ∀ d, live = some d → c₃.deployments.get? g.key = some d := by
    rintro d rfl
    rw [unchanged.deployments]
    exact seen d rfl
  have plain' := resolved.plain
    ((resolve_asks g.namespaceText sources).mono fun _ => Query.Resolving.plain)
  obtain ⟨configMap, d, succeeds⟩ := apply_succeeds within run₃ kept₃ seen₃
  have nothing : Transcript.Plain [] := ⟨rfl, rfl⟩
  have whole := Succeeds.between unchanged (plain.append plain') succeeds ⟨rfl, rfl⟩ nothing
  rw [List.append_nil, List.append_assoc] at whole
  exact ⟨document, configMap, d,
    ⟨sources, _, resolving, _, sourced.symm, resolved, looking, rest, by simp⟩, whole⟩

/-- Every successful pass is of this form, whatever is refused otherwise. -/
theorem reconcile_succeeds (within : answers.Within P) {resyncSeconds : Nat}
    {ledger ledger' : FailureLedger} {requeue : Requeue}
    (run : (g.reconcile resyncSeconds ledger).Yields answers c t (.ok requeue, ledger') c')
    (kept : c.WellKept) :
    ∃ document configMap d, g.Resolved answers t document ∧
      Succeeds answers g document c t configMap d c' := by
  obtain ⟨c₁, c₂, counting, rolling, reporting, first, kept₁, plain, rolled, last, -, -, plain',
    rfl⟩ := reconcile_yields within run kept
  obtain ⟨document, configMap, d, ⟨sources, before, resolving, after, sourced, resolved, part⟩,
    succeeds⟩ := rollOut_succeeds within rolled kept₁
  have around : rolling <:+: counting ++ (rolling ++ reporting) := ⟨counting, reporting, by simp⟩
  exact ⟨document, configMap, d, ⟨sources, before, resolving, after, sourced, resolved,
    part.trans around⟩, .between first plain succeeds last (plain' rfl)⟩

/-! ### Statuses and labels -/

/-- A status says of a workload what can be read off it. -/
structure GatewayStatus.Tells (status : GatewayStatus) (d : Deployment) : Prop where
  /-- It says how many pods there are. -/
  replicas : status.replicas = some (LiveWorkload.ofDeployment d).replicaCount
  /-- It says with which version of the configuration they were started. -/
  version : status.version = d.templateLabel? WellKnown.configVersionLabel
  /-- It says from which config map they read it. -/
  configMapName : status.configMapName = d.templateLabel? WellKnown.configMapLabel

instance (status : GatewayStatus) (d : Deployment) : Decidable (status.Tells d) :=
  decidable_of_iff
    (status.replicas = some (LiveWorkload.ofDeployment d).replicaCount ∧
      status.version = d.templateLabel? WellKnown.configVersionLabel ∧
      status.configMapName = d.templateLabel? WellKnown.configMapLabel)
    ⟨fun ⟨replicas, version, name⟩ => ⟨replicas, version, name⟩,
      fun ⟨replicas, version, name⟩ => ⟨replicas, version, name⟩⟩

/-- A pass leaves a workload with the labels of what it reports: it updates it, or the labels are
already there. -/
def Gateway.Relabels (g : Gateway) (document : Document) (name : String) (before : Deployment) :
    Prop :=
  (g.Sized before ∧ g.differences document before ≠ []) ∨
    before.templateLabel? WellKnown.configVersionLabel = some (configVersion document.render) ∧
      before.templateLabel? WellKnown.configMapLabel = some name

namespace Advances

variable {name : String} {live : Option Deployment}

/-- After a step the workload has the number of pods that is asked for. -/
theorem sized (advances : Advances g document name live d) : g.Sized d := by
  cases advances with
  | made => exact congrArg (Option.getD · 1) (changes_deployment g _ name).2
  | scaled wrong =>
    unfold Gateway.Sized
    rw [LiveWorkload.ofDeployment_scale]
    rfl
  | updated right differs =>
    exact (congrArg (Option.getD · 1) (replicas_updateDeployment _ _ _)).trans right
  | kept right same => exact right

/-- After a step the labels of the workload are those of the document and of its config map if and
only if the workload is new, or the pass has relabelled it. -/
theorem labels_iff (advances : Advances g document name live d) :
    (d.templateLabel? WellKnown.configVersionLabel = some (configVersion document.render) ∧
        d.templateLabel? WellKnown.configMapLabel = some name) ↔
      ∀ before, live = some before → g.Relabels document name before := by
  cases advances with
  | made =>
    refine iff_of_true ⟨?_, templateLabel?_deployment _ g⟩ ?_
    · rw [templateLabel?_of_labels rfl rfl rfl, Dict.ofList_eq_insertAll]
      exact (get?_insertAll_rolloutLabels _ _).1
    · rintro _ ⟨⟩
  | @scaled before wrong =>
    rw [templateLabel?_scale, templateLabel?_scale]
    constructor
    · rintro labels _ ⟨⟩
      exact Or.inr labels
    · intro relabels
      rcases relabels before rfl with ⟨right, -⟩ | labels
      · exact absurd right wrong
      · exact labels
  | updated right differs =>
    refine iff_of_true ⟨?_, templateLabel?_updateDeployment _ _ _⟩ ?_
    · rw [templateLabel?_of_labels rfl rfl rfl]
      exact (get?_insertAll_rolloutLabels _ _).1
    · rintro _ ⟨⟩
      exact Or.inl ⟨right, differs⟩
  | kept right same =>
    constructor
    · rintro labels _ ⟨⟩
      exact Or.inr labels
    · intro relabels
      rcases relabels d rfl with ⟨-, differs⟩ | labels
      · exact absurd same differs
      · exact labels

end Advances

/-- **When the status after a pass tells what is rolled out.**  A pass that succeeds reports the
number of pods that run, the version of the document that it has resolved, and a config map that
exists.  The labels of the workload agree with this if and only if the workload is new, is updated
by the pass, or had these labels before. -/
theorem status_tells_iff (kept : c.WellKept) {resyncSeconds : Nat}
    {ledger ledger' : FailureLedger} {requeue : Requeue}
    (run : (g.reconcile resyncSeconds ledger).Yields P.Answers c t (.ok requeue, ledger') c') :
    ∃ document name d status, g.Resolved P.Answers t document ∧
      c'.configMaps.contains ⟨g.namespaceText, name⟩ = true ∧
      c'.deployments.get? g.key = some d ∧ g.statusAfter t = some status ∧
      status.replicas = some (LiveWorkload.ofDeployment d).replicaCount ∧
      status.version = some (configVersion document.render) ∧ status.configMapName = some name ∧
      (status.Tells d ↔ ∀ before, c.deployments.get? g.key = some before →
        g.Relabels document name before) := by
  obtain ⟨document, configMap, d, resolved, succeeds⟩ :=
    reconcile_succeeds (fun _ _ _ _ answered => answered) run kept
  obtain ⟨version, serves, advances, running, now, message, reported⟩ := succeeds
  rw [version] at reported
  have replicas : some g.spec.replicas = some (LiveWorkload.ofDeployment d).replicaCount :=
    congrArg some advances.sized.symm
  refine ⟨document, configMap.name, d, _, resolved, ?_, running, reported, replicas, rfl, rfl, ?_⟩
  · cases serves with
    | found current there unmade names =>
      rw [names]
      exact Dict.contains_iff_exists.mpr ⟨_, there⟩
    | made missing nonempty free made stored =>
      rw [stored]
      exact Dict.contains_insert_iff.mpr (Or.inl rfl)
  · rw [← advances.labels_iff]
    exact ⟨fun tells => ⟨tells.version.symm, tells.configMapName.symm⟩,
      fun labels => ⟨replicas, labels.1.symm, labels.2.symm⟩⟩

/-- A workload of the bare gateway that was started with an earlier image and document. -/
def agedWorkload (replicas : Int) : Deployment where
  metadata := { name := some "edge", namespace_ := some "apps" }
  spec := some
    { replicas := some replicas
      matchLabels := none
      template :=
        { metadata := some
            { labels := some (Dict.ofList
                [(WellKnown.configVersionLabel, "37b128c59f1f5097"), (WellKnown.langLabel, "C"),
                  (WellKnown.configMapLabel, "edge-config")]) }
          spec := some ⟨[{ name := "edge", image := some "gateway:0" }], none, none, none⟩ } }

/-- A world in which that workload runs, and the config map that it reads is there. -/
def agedWorld (replicas : Int) : World where
  cluster :=
    { configMaps := Dict.ofList
        [(⟨"apps", "edge-config"⟩, { metadata := { name := some "edge-config" }, data := none })]
      deployments := Dict.ofList [(⟨"apps", "edge"⟩, agedWorkload replicas)] }

theorem wellKept_agedWorld (replicas : Int) : (agedWorld replicas).cluster.WellKept := by
  refine ⟨?_, ?_, ?_⟩
  · intro key object found
    obtain ⟨rfl, rfl⟩ := by
      simpa [agedWorld, Dict.ofList_eq_insertAll, Dict.get?_insert] using found
    rfl
  · intro key object impossible
    cases impossible
  · intro key d found
    obtain ⟨rfl, rfl⟩ : key = ⟨"apps", "edge"⟩ ∧ agedWorkload replicas = d := by
      simpa [agedWorld, Dict.ofList_eq_insertAll, Dict.get?_insert] using found
    rfl

/-- A pass that succeeds in a world is a successful run on its platform. -/
theorem World.reconcile_yields_ok (w : World)
    (succeeded : (w.perform (g.reconcile 30 ∅)).1.1.isOk = true) :
    ∃ requeue ledger, (g.reconcile 30 ∅).Yields w.platform.Answers w.cluster
      (w.transcript (g.reconcile 30 ∅)) (.ok requeue, ledger)
      (w.perform (g.reconcile 30 ∅)).2.cluster := by
  have run := w.yields_transcript (g.reconcile 30 ∅)
  cases result : (w.perform (g.reconcile 30 ∅)).1.1 with
  | ok requeue => exact ⟨requeue, _, by rwa [← result]⟩
  | error e =>
    rw [result] at succeeded
    cases succeeded

/-- Where the workload is updated, the status tells what is rolled out. -/
theorem status_tells_updated_workload : ∃ t requeue ledger c' d status,
    (bareGateway.reconcile 30 ∅).Yields (agedWorld 1).platform.Answers (agedWorld 1).cluster t
        (.ok requeue, ledger) c' ∧
      (agedWorld 1).cluster.WellKept ∧ c'.deployments.get? bareGateway.key = some d ∧
      bareGateway.statusAfter t = some status ∧ status.Tells d := by
  obtain ⟨requeue, ledger, run⟩ := World.reconcile_yields_ok (g := bareGateway) (agedWorld 1)
    (by decide +kernel)
  obtain ⟨document, name, d, status, -, -, running, reported, -, -, -, tells⟩ :=
    status_tells_iff (wellKept_agedWorld 1) run
  refine ⟨_, requeue, ledger, _, d, status, run, wellKept_agedWorld 1, running, reported,
    tells.mpr fun before was => Or.inl ?_⟩
  obtain rfl : agedWorkload 1 = before := Option.some.inj was
  refine ⟨rfl, fun same => ?_⟩
  -- The workload runs an earlier image, so there is a difference whatever the document is.
  have image : "gateway:0" = "gateway:1" := ((changes_eq_nil_iff _ _).mp same).2.2.2
  exact absurd image (by decide)

/-- Where only the number of pods is changed, the status tells of a version that is not rolled
out. -/
theorem status_does_not_tell_scaled_workload : ∃ t requeue ledger c' d status,
    (bareGateway.reconcile 30 ∅).Yields (agedWorld 2).platform.Answers (agedWorld 2).cluster t
        (.ok requeue, ledger) c' ∧
      (agedWorld 2).cluster.WellKept ∧ c'.deployments.get? bareGateway.key = some d ∧
      bareGateway.statusAfter t = some status ∧ ¬status.Tells d := by
  obtain ⟨requeue, ledger, run⟩ := World.reconcile_yields_ok (g := bareGateway) (agedWorld 2)
    (by decide +kernel)
  have told : ((agedWorld 2).perform (bareGateway.reconcile 30 ∅)).2.cluster.deployments.get?
        bareGateway.key = some ((agedWorkload 2).scale 1) ∧
      ∃ status ∈ bareGateway.statusAfter ((agedWorld 2).transcript (bareGateway.reconcile 30 ∅)),
        ¬status.Tells ((agedWorkload 2).scale 1) := by
    decide +kernel
  obtain ⟨running, status, reported, untold⟩ := told
  exact ⟨_, requeue, ledger, _, _, status, run, wellKept_agedWorld 2, running, reported, untold⟩

end GatewayOperator
