import GatewayOperator.Proofs.Rollout.Effects

/-!
# Rollouts that settle

Pass after pass, every pass with the status that the one before it wrote: when do the passes have
nothing left to do, and is the document rolled out by then?

## Main Definitions

* `Passes` — passes over a gateway, one after another.
* `Gateway.Tracked` — the running workload will be updated, or says which config map it reads.
* `Gateway.Lost` — it will not be updated, and the config map that it says it reads is missing.
* `Gateway.Rolled` — the config map that it says it reads holds the document.
* `Gateway.AtRest` — nothing is left to do.
* `Passes.Settled` — from the fourth on, a pass only reads, and the document is rolled out.

## Main Statements

* `Leaves.tracked`, `Leaves.lost` — what a pass makes of a workload that is tracked, and of one that
  is lost.
* `Leaves.atRest`, `Gateway.AtRest.stays` — a gateway comes to rest, and stays there.
* `Passes.settled_iff` — passes settle if and only if the workload is tracked, or a config map is
  made by chance under the name that it is lost for.

## Design Notes

The label that names the config map is written with an update, and an update is only asked for by
other differences.  So a workload that has none of these, and whose label names no config map, is
lost: every pass looks for its config map in vain.
-/

namespace GatewayOperator

variable {P : Platform} {g : Gateway} {document : Document} {sources : List Source}
  {resyncSeconds : Nat} {c c' : Cluster} {t : Transcript} {name : String}

/-- A run that changes nothing. -/
def Transcript.Quiet (t : Transcript) : Prop := ∀ x ∈ t, x.query.ReadOnly

theorem Transcript.quiet_append {t t' : Transcript} :
    Transcript.Quiet (t ++ t') ↔ t.Quiet ∧ t'.Quiet :=
  List.forall_mem_append

namespace Gateway

/-- A gateway with the status that the cluster holds for it. -/
def observed (g : Gateway) (c : Cluster) : Gateway := { g with status := c.statuses.get? g.key }

/-- The running workload will be updated, or says which config map it reads. -/
def Tracked (g : Gateway) (document : Document) (c : Cluster) : Prop :=
  ∀ d, c.deployments.get? g.key = some d → g.differences document d ≠ [] ∨
    ∃ name object, mounted? d = some name ∧ name ≠ "" ∧
      c.configMaps.get? ⟨g.namespaceText, name⟩ = some object

/-- The running workload will not be updated, and the config map that it says it reads is
missing. -/
def Lost (g : Gateway) (document : Document) (c : Cluster) (label : Option String) : Prop :=
  ∃ d, c.deployments.get? g.key = some d ∧ g.differences document d = [] ∧ mounted? d = label ∧
    ∀ name ∈ label, name ≠ "" → c.configMaps.get? ⟨g.namespaceText, name⟩ = none

/-- The config map that the running workload says it reads holds the document. -/
def Rolled (g : Gateway) (document : Document) (c : Cluster) : Prop :=
  ∃ d name object, c.deployments.get? g.key = some d ∧ mounted? d = some name ∧
    c.configMaps.get? ⟨g.namespaceText, name⟩ = some object ∧
    object.entry? WellKnown.configKey = some document.render

/-- Nothing is left to do: the workload runs as it is asked for, its config map holds the document,
the status says so, and the client is registered. -/
structure AtRest (g : Gateway) (document : Document) (sources : List Source) (c : Cluster) :
    Prop where
  /-- The workload runs as it is asked for, and reads the config map that the status names. -/
  done : ∃ d name object, c.deployments.get? g.key = some d ∧
    g.stepsFrom document (some d) = 0 ∧ mounted? d = some name ∧ name ≠ "" ∧
    c.configMaps.get? ⟨g.namespaceText, name⟩ = some object ∧
    object.entry? WellKnown.configKey = some document.render ∧
    ∀ now, (g.observed c).status = some ((g.observed c).nextStatus now true "Reconciled"
      "Gateway is up to date" (some ⟨g.spec.replicas, configVersion document.render, name⟩))
  /-- The client is registered. -/
  registered : ∀ r ∈ registrationOf? sources, r.Registered g.namespaceText c

/-- A workload is tracked or lost. -/
theorem tracked_or_lost (g : Gateway) (document : Document) (c : Cluster) :
    g.Tracked document c ∨ ∃ label, g.Lost document c label := by
  cases running : c.deployments.get? g.key with
  | none =>
    refine Or.inl fun d impossible => ?_
    rw [running] at impossible
    cases impossible
  | some d =>
    by_cases same : g.differences document d = []
    · -- No update will come, so all depends on the label that is there.
      by_cases there : ∃ name object, mounted? d = some name ∧ name ≠ "" ∧
        c.configMaps.get? ⟨g.namespaceText, name⟩ = some object
      · refine Or.inl fun d' found => Or.inr ?_
        rw [running] at found
        cases found
        exact there
      · refine Or.inr ⟨_, d, running, same, rfl, ?_⟩
        intro name labelled nonempty
        cases missing : c.configMaps.get? ⟨g.namespaceText, name⟩ with
        | none => rfl
        | some object => exact absurd ⟨name, object, labelled, nonempty, missing⟩ there
    · refine Or.inl fun d' found => Or.inl ?_
      rw [running] at found
      cases found
      exact same

end Gateway

/-! ### One pass -/

namespace Leaves

/-- A step is taken if there is one left. -/
theorem stepsLeft (leaves : Leaves g document sources c t name c') :
    g.stepsLeft document c' = g.stepsLeft document c - 1 := by
  obtain ⟨d, running, advances⟩ := leaves.workload
  unfold Gateway.stepsLeft
  rw [running]
  exact advances.stepsFrom

/-- A workload that is tracked stays tracked. -/
theorem tracked (leaves : Leaves g document sources c t name c')
    (before : g.Tracked document c) : g.Tracked document c' := by
  obtain ⟨d, running, advances⟩ := leaves.workload
  obtain ⟨object, there, -⟩ := leaves.written
  intro d' found
  rw [running] at found
  cases found
  rcases advances.mounts with ⟨mounted, -⟩ | ⟨former, was, mounted, same⟩
  · exact Or.inr ⟨name, object, mounted, leaves.nonempty, there⟩
  · rcases before former was with differs | ⟨label, kept, labelled, nonempty, present⟩
    · rw [same]
      exact Or.inl differs
    · rw [mounted]
      -- The config map that the workload reads was written over or left alone.
      by_cases own : label = name
      · subst own
        exact Or.inr ⟨label, object, labelled, nonempty, there⟩
      · refine Or.inr ⟨label, kept, labelled, nonempty, ?_⟩
        rw [leaves.others _ fun key => own (congrArg ObjectKey.name key)]
        exact present

/-- A workload that is lost stays lost, unless the name that it is lost for is given by chance. -/
theorem lost (leaves : Leaves g document sources c t name c') {label : Option String}
    (before : g.Lost document c label) :
    g.Lost document c' label ∨ label = some name ∧ ⟨g.namespaceText, name⟩ ∈ t.madeConfigMaps := by
  obtain ⟨former, was, none_left, labelled, missing⟩ := before
  obtain ⟨d, running, advances⟩ := leaves.workload
  rcases advances.mounts with ⟨-, differs⟩ | ⟨former', was', mounted, same⟩
  · exact absurd none_left (differs former was)
  · rw [was] at was'
    cases was'
    by_cases own : label = some name
    · rcases leaves.made with ⟨-, -, object, there⟩ | ⟨made, -⟩
      · rw [missing name own leaves.nonempty] at there
        cases there
      · exact Or.inr ⟨own, by rw [made]; exact List.mem_singleton_self _⟩
    · refine Or.inl ⟨d, running, same.trans none_left, mounted.trans labelled, ?_⟩
      intro other given nonempty
      have different : other ≠ name := by
        rintro rfl
        exact own given
      rw [leaves.others _ fun key => different (congrArg ObjectKey.name key)]
      exact missing other given nonempty

/-- Over a workload that is lost, a pass is not quiet, or the document is not rolled out. -/
theorem not_settled_of_lost (leaves : Leaves g document sources c t name c')
    {label : Option String} (lost : g.Lost document c label) :
    ¬(t.Quiet ∧ g.Rolled document c) := by
  rintro ⟨quiet, d, mount, object, running, mounted, there, -⟩
  obtain ⟨d', was, -, labelled, missing⟩ := lost
  rw [running] at was
  cases was
  rw [mounted] at labelled
  subst labelled
  -- The label is empty, so the pass made a config map.
  have empty : mount = "" := by
    by_cases nonempty : mount = ""
    · exact nonempty
    · rw [missing mount rfl nonempty] at there
      cases there
  have none_known : g.currentConfigMap? (c.deployments.get? g.key) = none := by
    rw [running, Gateway.currentConfigMap?_of_mounted mounted, empty]
    rfl
  have unmade := Transcript.madeConfigMaps_of_readOnly quiet
  rcases leaves.made with ⟨-, current, -⟩ | ⟨made, -⟩
  · rw [none_known] at current
    cases current
  · rw [unmade] at made
    cases made

/-- What was made is there. -/
theorem tracked_of_made (leaves : Leaves g document sources c t name c') {label : String}
    (lost : g.Lost document c (some label))
    (made : ⟨g.namespaceText, label⟩ ∈ t.madeConfigMaps) : g.Tracked document c' := by
  obtain ⟨former, was, -, labelled, -⟩ := lost
  obtain ⟨d, running, advances⟩ := leaves.workload
  obtain ⟨object, there, -⟩ := leaves.written
  have own : label = name := by
    rcases leaves.made with ⟨unmade, -⟩ | ⟨only, -⟩
    · rw [unmade] at made
      cases made
    · rw [only] at made
      exact congrArg ObjectKey.name (List.mem_singleton.mp made)
  subst own
  intro d' found
  rw [running] at found
  cases found
  refine Or.inr ⟨label, object, ?_, leaves.nonempty, there⟩
  rcases advances.mounts with ⟨mounted, -⟩ | ⟨former', was', mounted, -⟩
  · exact mounted
  · rw [was] at was'
    cases was'
    exact mounted.trans labelled

/-- A gateway comes to rest with the pass that finds no step left and the workload tracked
afterwards. -/
theorem atRest (leaves : Leaves (g.observed c) document sources c t name c')
    (left : g.stepsLeft document c = 0) (tracked : g.Tracked document c') :
    g.AtRest document sources c' := by
  have left' : g.stepsFrom document (c.deployments.get? g.key) = 0 := left
  obtain ⟨d, running, advances⟩ := leaves.workload
  obtain ⟨object, there, written⟩ := leaves.written
  obtain ⟨now, message, reported, told⟩ := leaves.reported rfl
  have running' : c'.deployments.get? g.key = some d := running
  have still : g.stepsFrom document (some d) = 0 := by
    have advanced : g.stepsFrom document (some d) =
      g.stepsFrom document (c.deployments.get? g.key) - 1 := advances.stepsFrom
    omega
  refine ⟨?_, leaves.registered⟩
  obtain ⟨_, same, -, none_left⟩ := Gateway.stepsFrom_eq_zero_iff.mp still
  cases same
  rcases tracked d running' with differs | ⟨label, kept, mounted, nonempty, present⟩
  · exact absurd none_left differs
  -- The pass found the config map that the workload names, or made it under that name.
  have own : label = name := by
    rcases advances.mounts with ⟨mounted', -⟩ | ⟨former, was, mounted', -⟩
    · rw [mounted] at mounted'
      exact Option.some.inj mounted'
    · have current : (g.observed c).currentConfigMap? (c.deployments.get? g.key) = some label := by
        have was' : c.deployments.get? g.key = some former := was
        rw [was', Gateway.currentConfigMap?_of_mounted (mounted'.symm.trans mounted)]
        exact Text.nonEmpty?_of_ne nonempty
      rcases leaves.made with ⟨-, named, -⟩ | ⟨made, missing⟩
      · exact Option.some.inj (current.symm.trans named)
      · by_cases own : label = name
        · exact own
        · have absent := missing label current
          rw [← leaves.others _ fun key => own (congrArg ObjectKey.name key)] at absent
          rw [show c'.configMaps.get? ⟨(g.observed c).namespaceText, label⟩ = some kept from
            present] at absent
          cases absent
  subst own
  refine ⟨d, label, object, running', still, mounted, nonempty, there, written, ?_⟩
  rw [told left] at reported
  intro later
  have again := Gateway.nextStatus_again (g.observed c) now later "Reconciled"
    "Gateway is up to date" ⟨g.spec.replicas, configVersion document.render, label⟩
  have seen : g.observed c' = { g.observed c with status := some ((g.observed c).nextStatus now true
      "Reconciled" "Gateway is up to date"
      (some ⟨g.spec.replicas, configVersion document.render, label⟩)) } := by
    unfold Gateway.observed
    exact congrArg (fun status => { g with status := status }) reported
  rw [seen, again]

end Leaves

/-- At rest, a pass is quiet and changes nothing. -/
theorem Gateway.AtRest.stays (reliable : P.Reliable) (rest : g.AtRest document sources c)
    (steps : RollsOut P (g.observed c) resyncSeconds document sources c t c') :
    c' = c ∧ t.Quiet := by
  obtain ⟨⟨d, name, object, running, left, mounted, nonempty, there, written, reported⟩,
    registered⟩ := rest
  obtain ⟨_, same, right, none_left⟩ := Gateway.stepsFrom_eq_zero_iff.mp left
  cases same
  have current : (g.observed c).currentConfigMap? (some d) = some name := by
    rw [Gateway.currentConfigMap?_of_mounted mounted]
    exact Text.nonEmpty?_of_ne nonempty
  cases steps with
  | @steps before resolving ensuring converging asking reporting after c₁ c₂ c₃ _ configMap step
      now resolved ensured converged reported' reading =>
    obtain ⟨rfl, quiet⟩ := resolve_of_registered reliable registered resolved
    rw [show c₁.deployments.get? ⟨(g.observed c₁).namespaceText, (g.observed c₁).name⟩ = some d from
      running] at ensured converged
    -- Stage by stage, what it would write is there already.
    have ensuring_quiet : configMap.name = name ∧
        configMap.version = configVersion document.render ∧ c₂ = c₁ ∧ ensuring.Quiet := by
      cases ensured with
      | kept named =>
        rw [current] at named
        cases named
        exact ⟨rfl, rfl, rfl, by simp [Transcript.Quiet, Query.ReadOnly]⟩
      | rewritten named found differs =>
        rw [current] at named
        cases named
        cases there.symm.trans found
        exact absurd written differs
      | made missing =>
        cases there.symm.trans (missing name current)
    obtain ⟨rfl, version, rfl, ensuring_quiet⟩ := ensuring_quiet
    rw [version] at converged reported'
    have converging_quiet : step.message = "Gateway is up to date" ∧ c₃ = c₂ ∧
        converging.Quiet := by
      cases converged with
      | made absent => cases absent
      | scaled found wrong =>
        cases found
        exact absurd right wrong
      | updated found _ differs =>
        cases found
        exact absurd none_left differs
      | kept => exact ⟨rfl, rfl, by simp [Transcript.Quiet, Query.ReadOnly]⟩
    obtain ⟨message, rfl, converging_quiet⟩ := converging_quiet
    rw [message] at reported'
    have reporting_quiet : c' = c₃ ∧ reporting.Quiet := by
      cases reported' with
      | kept => exact ⟨rfl, by simp [Transcript.Quiet]⟩
      | written differs => exact absurd (reported now) differs
    obtain ⟨rfl, reporting_quiet⟩ := reporting_quiet
    have others : before.Quiet ∧ asking.Quiet ∧ after.Quiet := by
      have all := Transcript.quiet_append.mp reading
      exact ⟨(Transcript.quiet_append.mp all.1).1, (Transcript.quiet_append.mp all.1).2, all.2⟩
    refine ⟨rfl, ?_⟩
    simp only [Transcript.quiet_append]
    exact ⟨⟨⟨⟨⟨⟨others.1, quiet⟩, ensuring_quiet⟩, converging_quiet⟩, others.2.1⟩,
      reporting_quiet⟩, others.2.2⟩

/-! ### Pass after pass -/

/-- Passes over a gateway, one after another, each with the status that the one before it wrote. -/
structure Passes (P : Platform) (g : Gateway) (resyncSeconds : Nat) where
  /-- The cluster before each pass. -/
  cluster : Nat → Cluster
  /-- The failures that are counted before each pass. -/
  ledger : Nat → FailureLedger
  /-- What is asked and answered in each pass. -/
  transcript : Nat → Transcript
  /-- What each pass comes to. -/
  result : Nat → Except Failure Requeue
  /-- Every pass is a pass over the gateway as the cluster shows it. -/
  pass : ∀ n, ((g.observed (cluster n)).reconcile resyncSeconds (ledger n)).Yields P.Answers
    (cluster n) (transcript n) (result n, ledger (n + 1)) (cluster (n + 1))

namespace Passes

/-- From the fourth on, a pass only reads, and the document is rolled out. -/
def Settled (passes : Passes P g resyncSeconds) (document : Document) : Prop :=
  ∀ n, 3 ≤ n → (passes.transcript n).Quiet ∧ g.Rolled document (passes.cluster n)

/-- Every state of a cluster has passes that start with it. -/
theorem exists_from (P : Platform) (g : Gateway) (resyncSeconds : Nat) (c : Cluster) :
    ∃ passes : Passes P g resyncSeconds, passes.cluster 0 = c := by
  have next (s : Cluster × FailureLedger) : ∃ u : Transcript × Except Failure Requeue ×
      (Cluster × FailureLedger), ((g.observed s.1).reconcile resyncSeconds s.2).Yields P.Answers
        s.1 u.1 (u.2.1, u.2.2.2) u.2.2.1 := by
    obtain ⟨t, ⟨result, ledger⟩, c', run⟩ := Program.exists_yields P.total
      ((g.observed s.1).reconcile resyncSeconds s.2) s.1
    exact ⟨⟨t, result, c', ledger⟩, run⟩
  -- A pass may come out in many ways, of which one is chosen for each state.
  obtain ⟨pass, isPass⟩ := Classical.axiomOfChoice next
  let states (n : Nat) : Cluster × FailureLedger := n.rec (c, ∅) fun _ s => (pass s).2.2
  exact ⟨{ cluster := fun n => (states n).1
           ledger := fun n => (states n).2
           transcript := fun n => (pass (states n)).1
           result := fun n => (pass (states n)).2.1
           pass := fun n => isPass (states n) }, rfl⟩

section Run

variable (passes : Passes P g resyncSeconds) (reliable : P.Reliable)
  (kept : (passes.cluster 0).WellKept)
  (sourced : Source.ofEntries g.spec.configuration = .ok sources)
  (resolves : ∀ n t r c', (resolve g.namespaceText sources).run.Yields P.Answers
    (passes.cluster n) t r c' → r = .ok document)

include kept in
theorem wellKept (n : Nat) : (passes.cluster n).WellKept := by
  induction n with
  | zero => exact kept
  | succ n ih => exact ih.of_yields (passes.pass n)

include reliable kept sourced resolves

theorem rollsOut (n : Nat) :
    RollsOut P (g.observed (passes.cluster n)) resyncSeconds document sources (passes.cluster n)
      (passes.transcript n) (passes.cluster (n + 1)) :=
  reconcile_rollsOut reliable (passes.wellKept kept n) sourced (resolves n) (passes.pass n)

theorem leaves (n : Nat) : ∃ name, Leaves (g.observed (passes.cluster n)) document sources
    (passes.cluster n) (passes.transcript n) name (passes.cluster (n + 1)) :=
  (passes.rollsOut reliable kept sourced resolves n).leaves reliable (passes.wellKept kept n)

/-- Two passes take all the steps there are. -/
theorem stepsLeft (n : Nat) : g.stepsLeft document (passes.cluster n) ≤ 2 - n := by
  induction n with
  | zero => exact Gateway.stepsFrom_le _ _ _
  | succ n ih =>
    obtain ⟨name, leaves⟩ := passes.leaves reliable kept sourced resolves n
    have step : g.stepsLeft document (passes.cluster (n + 1)) =
      g.stepsLeft document (passes.cluster n) - 1 := leaves.stepsLeft
    omega

theorem tracked {m n : Nat} (later : m ≤ n) (tracked : g.Tracked document (passes.cluster m)) :
    g.Tracked document (passes.cluster n) := by
  induction later with
  | refl => exact tracked
  | @step n _ ih =>
    obtain ⟨name, leaves⟩ := passes.leaves reliable kept sourced resolves n
    exact leaves.tracked ih

/-- A workload that is lost stays lost until its name is given by chance; then it is tracked. -/
theorem tracked_or_lost {label : Option String}
    (lost : g.Lost document (passes.cluster 0) label) (n : Nat) :
    g.Lost document (passes.cluster n) label ∨ g.Tracked document (passes.cluster n) ∧
      ∃ name m, m < n ∧ label = some name ∧
        ⟨g.namespaceText, name⟩ ∈ (passes.transcript m).madeConfigMaps := by
  induction n with
  | zero => exact Or.inl lost
  | succ n ih =>
    obtain ⟨name, leaves⟩ := passes.leaves reliable kept sourced resolves n
    rcases ih with lost | ⟨tracked, given, m, earlier, named, made⟩
    · rcases leaves.lost lost with lost | ⟨rfl, made⟩
      · exact Or.inl lost
      · exact Or.inr ⟨leaves.tracked_of_made lost made, name, n, Nat.lt_succ_self n, rfl, made⟩
    · exact Or.inr ⟨leaves.tracked tracked, given, m, Nat.lt_succ_of_lt earlier, named, made⟩

/-- From the third pass on, a workload that is tracked is at rest. -/
theorem atRest (tracked : g.Tracked document (passes.cluster 3)) (n : Nat) (late : 3 ≤ n) :
    g.AtRest document sources (passes.cluster n) := by
  -- Two passes take the steps, and the third one reports that there are none left.
  induction late with
  | refl =>
    obtain ⟨name, leaves⟩ := passes.leaves reliable kept sourced resolves 2
    have left := passes.stepsLeft reliable kept sourced resolves 2
    exact leaves.atRest (Nat.le_zero.mp left) tracked
  | @step n _ ih =>
    obtain ⟨same, -⟩ := ih.stays reliable (passes.rollsOut reliable kept sourced resolves n)
    rw [same]
    exact ih

theorem settled_of_tracked (tracked : g.Tracked document (passes.cluster 3)) :
    passes.Settled document := by
  intro n late
  have rest := passes.atRest reliable kept sourced resolves tracked n late
  obtain ⟨-, quiet⟩ := rest.stays reliable (passes.rollsOut reliable kept sourced resolves n)
  obtain ⟨d, name, object, running, -, mounted, -, there, written, -⟩ := rest.done
  exact ⟨quiet, d, name, object, running, mounted, there, written⟩

/-- **Passes settle within three if and only if the workload is tracked.**  A workload that is lost
is found again only if a new config map happens to get the name that its label gives. -/
theorem settled_iff :
    passes.Settled document ↔ g.Tracked document (passes.cluster 0) ∨
      ∃ name n, n < 3 ∧ g.Lost document (passes.cluster 0) (some name) ∧
        ⟨g.namespaceText, name⟩ ∈ (passes.transcript n).madeConfigMaps := by
  constructor
  · intro settled
    rcases g.tracked_or_lost document (passes.cluster 0) with tracked | ⟨label, lost⟩
    · exact Or.inl tracked
    rcases passes.tracked_or_lost reliable kept sourced resolves lost 3 with
      still | ⟨-, name, n, early, rfl, made⟩
    · obtain ⟨name, leaves⟩ := passes.leaves reliable kept sourced resolves 3
      exact absurd (settled 3 (Nat.le_refl 3)) (leaves.not_settled_of_lost still)
    · exact Or.inr ⟨name, n, early, lost, made⟩
  · rintro (tracked | ⟨name, n, early, lost, made⟩)
    · exact passes.settled_of_tracked reliable kept sourced resolves
        (passes.tracked reliable kept sourced resolves (Nat.zero_le 3) tracked)
    · -- The pass that gives the name away finds the workload, if no earlier one did.
      have found : g.Tracked document (passes.cluster (n + 1)) := by
        obtain ⟨_, leaves⟩ := passes.leaves reliable kept sourced resolves n
        rcases passes.tracked_or_lost reliable kept sourced resolves lost n with still | ⟨found, -⟩
        · exact leaves.tracked_of_made still made
        · exact leaves.tracked found
      exact passes.settled_of_tracked reliable kept sourced resolves
        (passes.tracked reliable kept sourced resolves early found)

end Run

end Passes

/-! ### A gateway with an inline document -/

/-- A gateway with an empty inline document. -/
def sampleGateway : Gateway where
  metadata := { name := some "edge", namespace_ := some "apps" }
  spec :=
    { replicas := 1
      deployment := ⟨"gateway:1", none, [], none, "C", none, none, none, []⟩
      configuration := [{ ConfigurationEntry.bare .literal with value := some "{}" }] }
  status := none

/-- In an empty cluster the sample gateway is rolled out and then left alone. -/
theorem sampleGateway_settles : ∃ document, ∃ passes : Passes secludedPlatform sampleGateway 30,
    passes.cluster 0 = {} ∧ passes.Settled document := by
  obtain ⟨layer, parsed⟩ := parse_emptyDocument
  obtain ⟨passes, start⟩ := Passes.exists_from secludedPlatform sampleGateway 30 {}
  have kept : (passes.cluster 0).WellKept := by
    rw [start]
    refine ⟨?_, ?_, ?_⟩
    all_goals
      intro key object impossible
      cases impossible
  have tracked : sampleGateway.Tracked (Document.empty.merge layer) (passes.cluster 0) := by
    rw [start]
    intro d impossible
    cases impossible
  have sourced : Source.ofEntries sampleGateway.spec.configuration = .ok [.literal "{}"] := rfl
  exact ⟨_, passes, start, (passes.settled_iff (fun _ => trivial) kept sourced
    fun _ _ _ _ run => resolve_literal parsed run).mpr (Or.inl tracked)⟩

/-- A workload of the sample gateway that runs as it is asked for, but does not say which config map
it reads. -/
def unlabelledWorkload (document : Document) : Deployment where
  metadata := { name := some "edge", namespace_ := some "apps" }
  spec := some
    { replicas := some 1
      matchLabels := none
      template :=
        { metadata := some
            { labels := some (Dict.ofList
                [(WellKnown.configVersionLabel, configVersion document.render),
                  (WellKnown.langLabel, "C")]) }
          spec := some ⟨[{ name := "edge", image := some "gateway:1" }], none, none, none⟩ } }

/-- The sample gateway does not settle over that workload, although every call is carried out. -/
theorem sampleGateway_does_not_settle : ∃ document,
    ∃ passes : Passes secludedPlatform sampleGateway 30,
      passes.cluster 0 =
          { deployments := Dict.ofList [(⟨"apps", "edge"⟩, unlabelledWorkload document)] } ∧
        secludedPlatform.Reliable ∧ (passes.cluster 0).WellKept ∧
        Source.ofEntries sampleGateway.spec.configuration = .ok [.literal "{}"] ∧
        (∀ n t r c', (resolve "apps" [.literal "{}"]).run.Yields secludedPlatform.Answers
          (passes.cluster n) t r c' → r = .ok document) ∧
        ¬passes.Settled document := by
  obtain ⟨layer, parsed⟩ := parse_emptyDocument
  let document := Document.empty.merge layer
  obtain ⟨passes, start⟩ := Passes.exists_from secludedPlatform sampleGateway 30
    { deployments := Dict.ofList [(⟨"apps", "edge"⟩, unlabelledWorkload document)] }
  have running : (passes.cluster 0).deployments.get? ⟨"apps", "edge"⟩ =
      some (unlabelledWorkload document) := by
    rw [start]
    rfl
  have kept : (passes.cluster 0).WellKept := by
    rw [start]
    refine ⟨?_, ?_, ?_⟩
    · intro key object impossible
      cases impossible
    · intro key object impossible
      cases impossible
    · intro key d found
      obtain ⟨rfl, rfl⟩ : key = ⟨"apps", "edge"⟩ ∧ unlabelledWorkload document = d := by
        simpa [Dict.ofList_eq_insertAll, Dict.get?_insert] using found
      rfl
  have labels (key : String) : (unlabelledWorkload document).templateLabel? key =
      if key = WellKnown.langLabel then some "C"
      else if key = WellKnown.configVersionLabel then some (configVersion document.render)
      else none := by
    rw [templateLabel?_of_labels rfl rfl rfl]
    simp [Dict.ofList_eq_insertAll, Dict.get?_insert]
  have lost : sampleGateway.Lost document (passes.cluster 0) none := by
    refine ⟨_, running, (changes_eq_nil_iff _ _).mpr ⟨?_, ?_, rfl, rfl⟩, ?_, ?_⟩
    · exact (labels WellKnown.configVersionLabel).trans (if_neg (by decide))
    · exact congrArg (Option.getD · "") (labels WellKnown.langLabel)
    · exact labels WellKnown.configMapLabel
    · intro name impossible
      cases impossible
  have carried : secludedPlatform.Reliable := fun _ => trivial
  have sourced : Source.ofEntries sampleGateway.spec.configuration = .ok [.literal "{}"] := rfl
  have resolves (n : Nat) (t : Transcript) (r : Except Failure Document) (c' : Cluster)
      (run : (resolve "apps" [.literal "{}"]).run.Yields secludedPlatform.Answers
        (passes.cluster n) t r c') : r = .ok document := resolve_literal parsed run
  -- No name that a config map gets can be the label, for there is none.
  have still : sampleGateway.Lost document (passes.cluster 3) none := by
    rcases passes.tracked_or_lost carried kept sourced resolves lost 3 with
      still | ⟨-, name, n, -, impossible, -⟩
    · exact still
    · cases impossible
  refine ⟨document, passes, start, carried, kept, sourced, resolves, fun settled => ?_⟩
  obtain ⟨name, leaves⟩ := passes.leaves carried kept sourced resolves 3
  exact leaves.not_settled_of_lost still (settled 3 (Nat.le_refl 3))

end GatewayOperator
