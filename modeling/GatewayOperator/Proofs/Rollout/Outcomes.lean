import GatewayOperator.Proofs.Rollout.Converging

/-!
# How a pass may end

Any call of a pass may be refused.  The pass ends there, and what it has done by then stays done,
but for a config map that was made for a workload which could not be made.

## Main Definitions

* `Gateway.apply`, `Gateway.conclude` — what a pass does once the document is resolved, and once the
  step towards the workload is taken.
* `PassEnds` — what a pass may come to.

## Main Statements

* `reportFailure_carries` — the report of a failure names no other config map than the status of the
  gateway.
* `reconcile_yields` — a pass is a roll-out with counts and a report around it.
* `reconcile_ends` — every run of a pass is one of these cases.
-/

namespace GatewayOperator

variable {α : Type} {answers : Responder Cluster} {P : Platform} {g : Gateway}
  {c mid c' : Cluster} {t t' before after : Transcript}

/-! ### The report -/

/-- The questions that are asked for a report. -/
def Query.Reporting : Query → Prop
  | .now | .publish .. | .measure _ | .patchStatus .. => True
  | _ => False

/-- The questions that are asked for the report of a failure: a status that is written names the
config map that the status of the gateway names. -/
def Query.ReportingFailure (g : Gateway) : Query → Prop
  | .patchStatus _ _ status => status.configMapName = g.status.bind (·.configMapName)
  | q => q.Reporting

theorem Query.ReportingFailure.reporting {q : Query} (h : q.ReportingFailure g) : q.Reporting := by
  cases q <;> first | exact h | trivial

/-- A report makes no config map and leaves all config maps and workloads as they are. -/
theorem yields_reporting (within : answers.Within P) {program : Program α} {a : α}
    (asks : program.Asks Query.Reporting) (run : program.Yields answers c t a c') :
    c.SameStock c' ∧ t.madeConfigMaps = [] := by
  have same : c.SameStock c' := by
    refine run.relates Cluster.SameStock (fun _ => ⟨rfl, rfl⟩) .trans ?_ asks
    intro q reporting s answer s' answered
    rcases within _ _ _ _ answered with carried | ⟨-, -, n, rfl⟩
    · cases q with
      | patchStatus =>
        obtain ⟨-, rfl⟩ := carried
        exact ⟨rfl, rfl⟩
      | now | publish | measure =>
        obtain rfl := carried
        exact ⟨rfl, rfl⟩
      | _ => exact reporting.elim
    · exact ⟨rfl, rfl⟩
  refine ⟨same, Transcript.filterMap_eq_nil (run.asked asks) fun q answer reporting => ?_⟩
  cases q <;> first | rfl | exact reporting.elim

theorem updateStatus_asks {p : Query → Prop} {status : GatewayStatus}
    (h : p (.patchStatus g.namespaceText g.name status)) : (g.updateStatus status).Asks p := by
  unfold Gateway.updateStatus
  split
  · exact trivial
  · exact Program.asks_query h

theorem reportFailure_asks (g : Gateway) (failure : Failure) :
    (g.reportFailure failure).Asks (Query.ReportingFailure g) := by
  refine Program.Asks.bind (Program.asks_query trivial) fun _ => ?_
  refine Program.Asks.bind (Program.asks_query trivial) fun now => ?_
  refine Program.Asks.bind (updateStatus_asks ?_) fun _ => trivial
  show (g.nextStatus now false Gateway.failedReason failure.message none).configMapName =
    g.status.bind (·.configMapName)
  unfold Gateway.nextStatus
  cases g.status <;> rfl

/-- The report of a failure names no other config map than the status of the gateway. -/
theorem reportFailure_carries {failure : Failure}
    (run : (g.reportFailure failure).Yields answers c t () c') : g.Carries t := by
  intro status mem
  obtain ⟨⟨q, answer⟩, asked, written⟩ := List.mem_filterMap.mp mem
  have reporting := run.asked (reportFailure_asks g failure) _ asked
  cases q with
  | patchStatus ns name status' =>
    cases answer with
    | ok =>
      cases written
      exact reporting
    | error why => cases written
  | _ => cases written

/-! ### The pass as a whole -/

namespace Gateway

/-- The end of a pass, once a step towards the workload is taken: the status is written. -/
def conclude (g : Gateway) (configMap : GeneratedConfigMap) (step : Step) : Attempt Requeue := do
  let now ← ExceptT.lift (Program.query .now)
  let rollout : Rollout := ⟨g.spec.replicas, configMap.version, configMap.name⟩
  Attempt.ofStore (g.updateStatus (g.nextStatus now true "Reconciled" step.message (some rollout)))
  return step.requeue

/-- The rest of a pass, once the document is resolved. -/
def apply (g : Gateway) (resyncSeconds : Nat) (live : Option Deployment) (document : Document) :
    Attempt Requeue := do
  let configMap ← g.ensureConfigMap live document.render
  let step ← g.converge resyncSeconds
    (DesiredWorkload.ofGateway g configMap.version configMap.name) configMap live
  g.conclude configMap step

/-- A pass resolves the document and applies it. -/
theorem rollOut_eq (g : Gateway) (resyncSeconds : Nat) :
    g.rollOut resyncSeconds = (do
      let live ← Attempt.found (Program.query (.getDeployment g.namespaceText g.name))
      let sources ← Attempt.ofExcept (Source.ofEntries g.spec.configuration)
      let document ← resolve g.namespaceText sources
      g.apply resyncSeconds live document) :=
  rfl

theorem conclude_asks (g : Gateway) (configMap : GeneratedConfigMap) (step : Step) :
    (g.conclude configMap step).run.Asks Query.Reporting := by
  refine Attempt.asks_bind (Attempt.asks_lift (Program.asks_query trivial)) fun now => ?_
  refine Attempt.asks_bind (Attempt.asks_ofStore (updateStatus_asks trivial)) fun _ => ?_
  exact Attempt.asks_pure _

end Gateway

/-- What a pass may come to. -/
inductive PassEnds (P : Platform) (answers : Responder Cluster) (g : Gateway) (c : Cluster)
    (t : Transcript) : Except Failure Requeue → Cluster → Prop
  /-- The pass stops, and no config map has come or gone. -/
  | halted {e : Failure} {c' : Cluster} (same : c.SameRollout c') (unmade : t.madeConfigMaps = [])
      (carries : g.Carries t) : PassEnds P answers g c t (.error e) c'
  /-- The workload is refused, and the config map that was made for it goes, if it can be
  removed. -/
  | discarded {e : Failure} {c' : Cluster} {name : String}
      (free : c.configMaps.get? ⟨g.namespaceText, name⟩ = none)
      (made : t.madeConfigMaps = [⟨g.namespaceText, name⟩])
      (deployments : c'.deployments = c.deployments)
      (removed : P.Removes t → c'.configMaps = c.configMaps) (carries : g.Carries t) :
      PassEnds P answers g c t (.error e) c'
  /-- A change of the workload is refused, and a config map that was made before stays. -/
  | stranded {e : Failure} {c' : Cluster} {name : String} {object : ConfigMap} {d : Deployment}
      (running : c.deployments.get? g.key = some d)
      (missing : ∀ current ∈ g.currentConfigMap? (some d),
        Unfound answers g.namespaceText c.configMaps t current)
      (free : c.configMaps.get? ⟨g.namespaceText, name⟩ = none)
      (made : t.madeConfigMaps = [⟨g.namespaceText, name⟩])
      (deployments : c'.deployments = c.deployments)
      (stored : c'.configMaps = c.configMaps.insert ⟨g.namespaceText, name⟩ object)
      (carries : g.Carries t) : PassEnds P answers g c t (.error e) c'
  /-- A step towards the workload is taken. -/
  | advanced {r : Except Failure Requeue} {c' : Cluster} {document : Document}
      {configMap : GeneratedConfigMap} {d : Deployment}
      (serves : Serves answers g (c.deployments.get? g.key) c.configMaps t configMap c'.configMaps)
      (advances : Advances g document configMap.name (c.deployments.get? g.key) d)
      (running : c'.deployments.get? g.key = some d) : PassEnds P answers g c t r c'

/-- Reading before and reporting after makes no difference. -/
theorem PassEnds.between {c₁ c₂ : Cluster} {r : Except Failure Requeue} (first : c.SameStock c₁)
    (plain : before.Plain) (ends : PassEnds P answers g c₁ t r c₂) (last : c₂.SameStock c')
    (unmade : after.madeConfigMaps = []) (carries : g.Carries after) :
    PassEnds P answers g c (before ++ (t ++ after)) r c' := by
  have part : ∀ x ∈ t, x ∈ before ++ (t ++ after) := fun x mem =>
    List.mem_append_right _ (List.mem_append_left _ mem)
  have made : Transcript.madeConfigMaps (before ++ (t ++ after)) = t.madeConfigMaps := by
    simp [plain.unmade, unmade]
  have all (h : g.Carries t) : g.Carries (before ++ (t ++ after)) :=
    plain.carries.append (h.append carries)
  cases ends with
  | halted same unmade' carries' =>
    exact .halted (first.sameRollout.trans (same.trans last.sameRollout)) (made.trans unmade')
      (all carries')
  | discarded free made' deployments removed carries' =>
    rw [first.configMaps] at free
    rw [← last.deployments, first.deployments] at deployments
    refine .discarded free (made.trans made') deployments (fun removes => ?_) (all carries')
    rw [last.configMaps, removed (removes.mono part), first.configMaps]
  | stranded running missing free made' deployments stored carries' =>
    rw [first.deployments] at running
    rw [first.configMaps] at missing free
    rw [← last.deployments, first.deployments] at deployments
    rw [← last.configMaps, first.configMaps] at stored
    refine .stranded running (fun current known => ?_) free (made.trans made') deployments stored
      (all carries')
    exact (missing current known).mono part
  | advanced serves advances running =>
    rw [first.deployments, first.configMaps, ← last.configMaps] at serves
    rw [first.deployments] at advances
    rw [← last.deployments] at running
    exact .advanced (serves.between plain.unmade unmade) advances running

/-- A pass whose step is refused keeps the config map that it found, and the one that it made goes
with the workload that could not be made. -/
theorem Serves.passEnds_of_refused {document : Document} {configMap : GeneratedConfigMap}
    {live : Option Deployment} {e e' : Failure}
    (serves : Serves answers g live c.configMaps t configMap mid.configMaps)
    (unwritten : t.writtenStatuses = []) (same : mid.deployments = c.deployments)
    (seen : ∀ d, live = some d → c.deployments.get? g.key = some d) (plain : t'.Plain)
    (ends : StepEnds P g document configMap live mid t' (.error e) c') :
    PassEnds P answers g c (t ++ t') (.error e') c' := by
  have carries : g.Carries (t ++ t') := Gateway.Carries.append
    (fun status mem => by rw [unwritten] at mem; cases mem) plain.carries
  have made : Transcript.madeConfigMaps (t ++ t') = t.madeConfigMaps := by simp [plain.unmade]
  cases serves with
  | found current there unmade names =>
    cases ends with
    | refused found deployments configMaps =>
      refine .halted ⟨fun key => ?_, deployments.trans same⟩ (made.trans unmade) carries
      rw [configMaps, names]
    | discarded created => cases created
  | made missing nonempty free made' stored =>
    cases ends with
    | refused found deployments configMaps =>
      obtain ⟨d, rfl⟩ := found rfl
      refine .stranded (seen d rfl) (fun current known => ?_) free (made.trans made')
        (deployments.trans same) (configMaps.trans stored) carries
      exact (missing current known).mono fun x mem => List.mem_append_left _ mem
    | discarded created deployments removed =>
      refine .discarded free (made.trans made') (deployments.trans same) (fun removes => ?_) carries
      -- What was inserted under a free name is erased again.
      rw [removed (removes.mono fun x mem => List.mem_append_right _ mem), stored,
        Dict.erase_insert_self, Dict.erase_of_get?_eq_none free]

/-- Once the document is resolved, a pass ends in one of these ways. -/
theorem apply_ends (within : answers.Within P) {document : Document} {resyncSeconds : Nat}
    {live : Option Deployment} {r : Except Failure Requeue}
    (run : (g.apply resyncSeconds live document).run.Yields answers c t r c') (kept : c.WellKept)
    (seen : ∀ d, live = some d → c.deployments.get? g.key = some d) :
    PassEnds P answers g c t r c' := by
  unfold Gateway.apply at run
  rcases Attempt.yields_bind.mp run with
    ⟨e, rfl, failed⟩ | ⟨configMap, c₁, ensuring, rest, ensured, run₁, rfl⟩
  · obtain ⟨deployments, unwritten, ⟨-, same, unmade⟩ | ⟨_, impossible, -⟩⟩ :=
      ensureConfigMap_ensuringEnds within failed kept
    · exact .halted same unmade (Transcript.Plain.carries ⟨unmade, unwritten⟩)
    · cases impossible
  obtain ⟨deployments, unwritten, ⟨⟨_, impossible⟩, -⟩ | ⟨_, same, version, serves⟩⟩ :=
    ensureConfigMap_ensuringEnds within ensured kept
  · cases impossible
  cases same
  rw [version] at run₁
  have kept₁ := kept.of_yields (ensured.mono within)
  have seen₁ : ∀ d, live = some d → c₁.deployments.get? g.key = some d := by
    rw [deployments]
    exact seen
  rcases Attempt.yields_bind.mp run₁ with
    ⟨e, rfl, failed⟩ | ⟨step, c₂, stepping, concluding, stepped, run₂, rfl⟩
  · have ends := converge_ends within failed kept₁ seen₁
    exact serves.passEnds_of_refused unwritten deployments seen
      (failed.plain ((converge_asks g _ _ _ _).mono fun _ => Query.Converging.plain)) ends
  · have plain := stepped.plain ((converge_asks g _ _ _ _).mono fun _ => Query.Converging.plain)
    obtain ⟨same, unmade⟩ := yields_reporting within (g.conclude_asks configMap step) run₂
    cases converge_ends within stepped kept₁ seen₁ with
    | advanced was advances running configMaps =>
      rw [deployments] at was
      subst was
      rw [← configMaps, ← same.configMaps] at serves
      rw [← same.deployments] at running
      have nothing : Transcript.madeConfigMaps [] = [] := rfl
      refine .advanced (serves.between nothing ?_) advances running
      simp [plain.unmade, unmade]

/-- Every run of a pass, up to the report of a failure, ends in one of these ways. -/
theorem rollOut_ends (within : answers.Within P) {resyncSeconds : Nat}
    {r : Except Failure Requeue} (run : (g.rollOut resyncSeconds).run.Yields answers c t r c')
    (kept : c.WellKept) : PassEnds P answers g c t r c' := by
  rw [Gateway.rollOut_eq] at run
  have nothing : Transcript.Plain [] := ⟨rfl, rfl⟩
  have halts {before after : Transcript} {e : Failure} (plain : before.Plain) (plain' : after.Plain)
      (same : c.SameStock c') : PassEnds P answers g c (before ++ after) (.error e) c' :=
    .halted same.sameRollout (plain.append plain').unmade (plain.append plain').carries
  rcases Attempt.yields_bind.mp run with ⟨e, rfl, read⟩ | ⟨live, c₁, _, _, read, run₁, rfl⟩
  · obtain ⟨same, plain, -⟩ := yields_seesDeployment within read
    exact halts nothing plain same.sameStock
  obtain ⟨same, plain, seen⟩ := yields_seesDeployment within read
  rcases Attempt.yields_bind.mp run₁ with
    ⟨e, rfl, rfl, -, rfl⟩ | ⟨sources, c₂, _, _, ⟨rfl, -, rfl⟩, run₂, rfl⟩
  · exact halts plain nothing same.sameStock
  have resolving := (resolve_asks g.namespaceText sources).mono fun _ => Query.Resolving.plain
  rcases Attempt.yields_bind.mp run₂ with
    ⟨e, rfl, failed⟩ | ⟨document, c₃, _, _, resolved, run₃, rfl⟩
  · have unchanged := (resolve_sameButSecrets (failed.mono within)).sameStock
    exact halts plain (failed.plain resolving) (same.sameStock.trans unchanged)
  have unchanged := same.sameStock.trans (resolve_sameButSecrets (resolved.mono within)).sameStock
  have kept₃ := (kept.of_yields (read.mono within)).of_yields (resolved.mono within)
  have seen₃ : ∀ d, live = some d → c₃.deployments.get? g.key = some d := by
    rintro d rfl
    rw [unchanged.deployments]
    exact seen d rfl
  have ends := apply_ends within run₃ kept₃ seen₃
  have whole := PassEnds.between unchanged (plain.append (resolved.plain resolving)) ends
    ⟨rfl, rfl⟩ nothing.unmade nothing.carries
  rwa [List.append_nil, List.append_assoc] at whole

/-- Counting leaves config maps and workloads as they are. -/
theorem yields_counting (within : answers.Within P) {m : Measurement}
    (run : (Program.query (.measure m)).Yields answers c t () c') : c.SameStock c' ∧ t.Plain := by
  have asks : (Program.query (.measure m)).Asks Query.Reporting := Program.asks_query trivial
  exact ⟨(yields_reporting within asks run).1, run.plain (Program.asks_query trivial)⟩

/-- A pass counts, rolls out and counts again; where it has failed, the failure is reported. -/
theorem reconcile_yields (within : answers.Within P) {resyncSeconds : Nat} {ledger : FailureLedger}
    {r : Except Failure Requeue × FailureLedger}
    (run : (g.reconcile resyncSeconds ledger).Yields answers c t r c') (kept : c.WellKept) :
    ∃ c₁ c₂ counting rolling reporting, c.SameStock c₁ ∧ c₁.WellKept ∧ counting.Plain ∧
      (g.rollOut resyncSeconds).run.Yields answers c₁ rolling r.1 c₂ ∧ c₂.SameStock c' ∧
      reporting.madeConfigMaps = [] ∧ g.Carries reporting ∧ (r.1.isOk = true → reporting.Plain) ∧
      t = counting ++ (rolling ++ reporting) := by
  unfold Gateway.reconcile at run
  obtain ⟨_, c₁, counting, _, counted, run₁, rfl⟩ := Program.yields_bind.mp run
  obtain ⟨same₁, plain₁⟩ := yields_counting within counted
  obtain ⟨result, c₂, rolling, _, rolled, run₂, rfl⟩ := Program.yields_bind.mp run₁
  obtain ⟨_, c₃, timing, _, timed, run₃, rfl⟩ := Program.yields_bind.mp run₂
  obtain ⟨same₃, plain₃⟩ := yields_counting within timed
  have kept₁ := kept.of_yields (counted.mono within)
  cases result with
  | ok requeue =>
    obtain ⟨rfl, rfl, rfl⟩ := run₃
    have plain : Transcript.Plain (timing ++ []) := plain₃.append ⟨rfl, rfl⟩
    exact ⟨c₁, c₂, counting, rolling, _, same₁, kept₁, plain₁, rolled, same₃, plain.unmade,
      plain.carries, fun _ => plain, rfl⟩
  | error failure =>
    obtain ⟨_, c₄, _, _, reported, ⟨rfl, rfl, rfl⟩, rfl⟩ := Program.yields_bind.mp run₃
    obtain ⟨same₄, unmade⟩ := yields_reporting within
      ((reportFailure_asks g failure).mono fun _ => Query.ReportingFailure.reporting) reported
    rw [List.append_nil]
    refine ⟨c₁, c₂, counting, rolling, timing ++ _, same₁, kept₁, plain₁, rolled,
      same₃.trans same₄, ?_, plain₃.carries.append (reportFailure_carries reported), ?_, rfl⟩
    · rw [Transcript.madeConfigMaps_append, plain₃.unmade, unmade]
      rfl
    · intro impossible
      cases impossible

/-- **Every run of a pass ends in one of these ways**, whatever is refused. -/
theorem reconcile_ends (within : answers.Within P) {resyncSeconds : Nat} {ledger : FailureLedger}
    {r : Except Failure Requeue × FailureLedger}
    (run : (g.reconcile resyncSeconds ledger).Yields answers c t r c') (kept : c.WellKept) :
    PassEnds P answers g c t r.1 c' := by
  obtain ⟨c₁, c₂, counting, rolling, reporting, first, kept₁, plain, rolled, last, unmade, carries,
    -, rfl⟩ := reconcile_yields within run kept
  exact PassEnds.between first plain (rollOut_ends within rolled kept₁) last unmade carries

end GatewayOperator
