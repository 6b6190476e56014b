import GatewayOperator.Proofs.Injection.Flows
import GatewayOperator.Proofs.Rollout.Serving

/-!
# The step towards the workload, if calls may be refused

Once a config map holds the document, a pass takes one step towards the workload that reads it.
Where the workload cannot be made, a config map that was just made for it is removed again.

## Main Definitions

* `StepEnds` — what the step may come to.

## Main Statements

* `converge_ends` — every run of the step is one of these cases.
-/

namespace GatewayOperator

variable {answers : Responder Cluster} {P : Platform} {g : Gateway} {c c' : Cluster}
  {t : Transcript}

/-- A workload with a name is made where there is none, or nothing is changed. -/
theorem Platform.answers_createDeployment {ns name : String} {object : Deployment}
    {answer : Except StoreError Deployment} (named : object.metadata.name = some name)
    (answered : P.Answers (.createDeployment ns object) c answer c') :
    (∃ value n, answer = .ok value ∧ c.deployments.get? ⟨ns, name⟩ = none ∧
      c' = { c with
        deployments := c.deployments.insert ⟨ns, name⟩
          { object with metadata := object.metadata.placed ns name }
        namesGiven := n }) ∨
    (∃ why, answer = .error why) ∧ c.SameObjects c' := by
  rcases answered with ⟨shelf, n, created, rfl⟩ | ⟨-, refused, n, rfl⟩
  · rcases created with ⟨given, either, free, rfl, rfl⟩ | ⟨given, why, -, -, rfl, rfl⟩
    · obtain rfl : name = given := by
        rcases either with same | ⟨unnamed, -⟩
        · exact Option.some.inj (named.symm.trans same)
        · rw [named] at unnamed
          cases unnamed
      exact Or.inl ⟨_, n, rfl, free, rfl⟩
    · exact Or.inr ⟨⟨why, rfl⟩, n, rfl⟩
  · exact Or.inr ⟨refused, n, rfl⟩

/-- A workload is written over, or nothing is changed. -/
theorem Platform.answers_replaceDeployment {ns name : String} {object : Deployment}
    {answer : Except StoreError Deployment} (named : object.metadata.nameText = name)
    (answered : P.Answers (.replaceDeployment ns object) c answer c') :
    (∃ value, answer = .ok value) ∧
        c' = { c with deployments := c.deployments.insert ⟨ns, name⟩ object } ∨
      (∃ why, answer = .error why) ∧ c.SameObjects c' := by
  rcases answered with ⟨shelf, settled, rfl⟩ | ⟨-, refused, n, rfl⟩
  · unfold Shelf.Settles Shelf.overwrite at settled
    rw [named] at settled
    by_cases present : c.deployments.contains ⟨ns, name⟩ = true
    · rw [if_pos present] at settled
      obtain ⟨rfl, rfl⟩ := settled
      exact Or.inl ⟨⟨_, rfl⟩, rfl⟩
    · rw [if_neg present] at settled
      obtain ⟨rfl, rfl⟩ := settled
      exact Or.inr ⟨⟨_, rfl⟩, .refl _⟩
  · exact Or.inr ⟨refused, n, rfl⟩

/-- What the step towards the workload may come to. -/
inductive StepEnds (P : Platform) (g : Gateway) (document : Document)
    (configMap : GeneratedConfigMap) (live : Option Deployment) (c : Cluster) (t : Transcript) :
    Except Failure Gateway.Step → Cluster → Prop
  /-- The step is taken. -/
  | advanced {step : Gateway.Step} {d : Deployment} {c' : Cluster}
      (was : c.deployments.get? g.key = live)
      (advances : Advances g document configMap.name live d)
      (running : c'.deployments.get? g.key = some d)
      (configMaps : c'.configMaps = c.configMaps) :
      StepEnds P g document configMap live c t (.ok step) c'
  /-- The step is refused, and everything stays as it is. -/
  | refused {e : Failure} {c' : Cluster}
      (found : configMap.created = true → ∃ d, live = some d)
      (deployments : c'.deployments = c.deployments) (configMaps : c'.configMaps = c.configMaps) :
      StepEnds P g document configMap live c t (.error e) c'
  /-- The workload is refused, and the config map that was made for it goes, if it can be
  removed. -/
  | discarded {e : Failure} {c' : Cluster} (created : configMap.created = true)
      (deployments : c'.deployments = c.deployments)
      (removed : P.Removes t →
        c'.configMaps = c.configMaps.erase ⟨g.namespaceText, configMap.name⟩) :
      StepEnds P g document configMap live c t (.error e) c'

/-- Removing a config map leaves it standing only if it cannot be removed. -/
theorem removes_of_answers {ns name : String} {first : Answered} {answer : Except StoreError Unit}
    (answered : P.Answers (.deleteConfigMap ns name) c answer c') :
    c'.deployments = c.deployments ∧
      (P.Removes [first, ⟨.deleteConfigMap ns name, answer⟩] →
        c'.configMaps = c.configMaps.erase ⟨ns, name⟩) := by
  rcases Platform.answers_deleteConfigMap answered with
    ⟨rfl, rfl⟩ | ⟨⟨why, rfl⟩, ⟨n, rfl⟩, missing⟩
  · exact ⟨rfl, fun _ => rfl⟩
  · refine ⟨rfl, fun removes => ?_⟩
    rcases removes with sure | removed
    · exact (Dict.erase_of_get?_eq_none (missing (sure ns name).2)).symm
    · have impossible := removed ⟨.deleteConfigMap ns name, .error why⟩ (by simp)
      cases impossible

/-- A workload is made, or what was made for it goes. -/
theorem createWorkload_ends (within : answers.Within P) (document : Document)
    {configMap : GeneratedConfigMap} {desired : DesiredWorkload} (named : desired.name = g.name)
    {r : Except Failure Unit}
    (run : (g.createWorkload desired configMap).run.Yields answers c t r c') :
    (r = .ok () ∧ c.deployments.get? g.key = none ∧
      c'.deployments.get? g.key = some (desired.placedDeployment g) ∧
      c'.configMaps = c.configMaps) ∨
    ∃ e, r = .error e ∧ StepEnds P g document configMap none c t (.error e) c' := by
  unfold Gateway.createWorkload at run
  rw [ExceptT.run_mk] at run
  obtain ⟨answer, mid, _, _, asked, rest, rfl⟩ := Program.yields_bind.mp run
  obtain ⟨answered, rfl⟩ := Program.yields_query.mp asked
  have called : (desired.deployment g).metadata.name = some g.name := congrArg some named
  rcases Platform.answers_createDeployment called (within _ _ _ _ answered) with
    ⟨value, n, rfl, free, rfl⟩ | ⟨⟨why, rfl⟩, n, rfl⟩
  · obtain ⟨rfl, rfl, rfl⟩ := rest
    have placed : { desired.deployment g with
        metadata := (desired.deployment g).metadata.placed g.namespaceText g.name } =
          desired.placedDeployment g := by
      rw [← named]
      rfl
    refine Or.inl ⟨rfl, free, ?_, rfl⟩
    rw [← placed]
    exact Dict.get?_insert_self _ _ _
  · dsimp only at rest
    by_cases created : configMap.created = true
    · rw [if_pos created] at rest
      obtain ⟨answer, mid, _, _, asked, ⟨rfl, rfl, rfl⟩, rfl⟩ := Program.yields_bind.mp rest
      obtain ⟨answered, rfl⟩ := Program.yields_query.mp asked
      obtain ⟨deployments, removed⟩ := removes_of_answers (within _ _ _ _ answered)
      exact Or.inr ⟨_, rfl, .discarded created deployments removed⟩
    · rw [if_neg created] at rest
      obtain ⟨rfl, rfl, rfl⟩ := rest
      exact Or.inr ⟨_, rfl, .refused (fun impossible => absurd impossible created) rfl rfl⟩

/-- The questions by which the step towards the workload is taken. -/
def Query.Converging : Query → Prop
  | .createDeployment .. | .replaceDeployment .. | .deleteConfigMap .. | .publish .. | .measure _ =>
    True
  | _ => False

theorem Query.Converging.plain {q : Query} (h : q.Converging) : q.Plain := by
  cases q <;> trivial

theorem createWorkload_asks (g : Gateway) (desired : DesiredWorkload)
    (configMap : GeneratedConfigMap) :
    (g.createWorkload desired configMap).run.Asks Query.Converging := by
  refine Program.Asks.bind (Program.asks_query trivial) fun answer => ?_
  cases answer with
  | ok object => exact trivial
  | error why =>
    dsimp only
    split
    · exact Program.Asks.bind (Program.asks_query trivial) fun _ => trivial
    · exact trivial

theorem announce_asks (g : Gateway) (reason note : String) :
    (g.announce reason note).run.Asks Query.Converging :=
  Attempt.asks_lift (Program.asks_query trivial)

theorem converge_asks (g : Gateway) (resyncSeconds : Nat) (desired : DesiredWorkload)
    (configMap : GeneratedConfigMap) (live : Option Deployment) :
    (g.converge resyncSeconds desired configMap live).run.Asks Query.Converging := by
  have measures (m : Measurement) : (Attempt.measure m).run.Asks Query.Converging :=
    Attempt.asks_lift (Program.asks_query trivial)
  unfold Gateway.converge
  split
  · refine Attempt.asks_bind (createWorkload_asks g desired configMap) fun _ => ?_
    exact Attempt.asks_bind (announce_asks g _ _) fun _ => Attempt.asks_pure _
  · refine Attempt.asks_bind (Attempt.asks_ofStore (Program.asks_query trivial)) fun _ => ?_
    exact Attempt.asks_pure _
  · refine Attempt.asks_bind (Attempt.asks_ofStore (Program.asks_query trivial)) fun _ => ?_
    exact Attempt.asks_bind (announce_asks g _ _) fun _ => Attempt.asks_pure _
  · exact Attempt.asks_bind (measures _) fun _ => Attempt.asks_pure _

/-- A workload that is written over runs, or everything stays as it is. -/
theorem yields_replaceDeployment (within : answers.Within P) {object : Deployment}
    {r : Except Failure Deployment}
    (run : (Attempt.ofStore (Program.query (.replaceDeployment g.namespaceText object))).run.Yields
      answers c t r c')
    (named : object.metadata.nameText = g.name) :
    (∃ value, r = .ok value) ∧ c'.deployments.get? g.key = some object ∧
        c'.configMaps = c.configMaps ∨
      (∃ e, r = .error e) ∧ c.SameObjects c' := by
  obtain ⟨answer, asked, rfl⟩ := Attempt.yields_ofStore.mp run
  rcases Platform.answers_replaceDeployment named
      (within _ _ _ _ (Program.yields_query.mp asked).1) with
    ⟨⟨value, rfl⟩, rfl⟩ | ⟨⟨why, rfl⟩, same⟩
  · exact Or.inl ⟨⟨value, rfl⟩, Dict.get?_insert_self _ _ _, rfl⟩
  · exact Or.inr ⟨⟨_, rfl⟩, same⟩

/-- An announcement cannot fail, and leaves everything as it is. -/
theorem yields_announced (within : answers.Within P) {reason note : String} {step : Gateway.Step}
    {r : Except Failure Gateway.Step}
    (run : (do g.announce reason note; return step : Attempt Gateway.Step).run.Yields
      answers c t r c') : (∃ taken, r = .ok taken) ∧ c' = c := by
  rcases Attempt.yields_bind.mp run with ⟨e, rfl, failed⟩ | ⟨_, mid, _, _, told, last, rfl⟩
  · cases (announce_yields (failed.mono within)).1
  · obtain ⟨-, -, rfl⟩ := announce_yields (told.mono within)
    obtain ⟨rfl, rfl, rfl⟩ := last
    exact ⟨⟨step, rfl⟩, rfl⟩

/-- A step that writes over a workload is taken, or everything stays as it is, if nothing fails
after the workload is written. -/
theorem replaceWorkload_ends (within : answers.Within P) {document : Document}
    {configMap : GeneratedConfigMap} {d object : Deployment}
    {next : Deployment → Attempt Gateway.Step} {r : Except Failure Gateway.Step}
    (run : (Attempt.ofStore (Program.query (.replaceDeployment g.namespaceText object)) >>=
      next).run.Yields answers c t r c')
    (named : object.metadata.nameText = g.name) (there : c.deployments.get? g.key = some d)
    (advances : Advances g document configMap.name (some d) object)
    (done : ∀ {written : Deployment} {mid : Cluster} {after : Transcript},
      (next written).run.Yields answers mid after r c' →
        (∃ step, r = .ok step) ∧ c' = mid) :
    StepEnds P g document configMap (some d) c t r c' := by
  rcases Attempt.yields_bind.mp run with ⟨e, rfl, failed⟩ | ⟨_, mid, _, _, written, last, rfl⟩
  · rcases yields_replaceDeployment within failed named with ⟨⟨_, impossible⟩, -⟩ | ⟨-, n, rfl⟩
    · cases impossible
    · exact .refused (fun _ => ⟨d, rfl⟩) rfl rfl
  · obtain ⟨⟨step, rfl⟩, rfl⟩ := done last
    rcases yields_replaceDeployment within written named with
      ⟨-, running, configMaps⟩ | ⟨⟨_, impossible⟩, -⟩
    · exact .advanced there advances running configMaps
    · cases impossible

/-- Where nothing runs, the workload is made. -/
theorem converge_none_ends (within : answers.Within P) {document : Document} {resyncSeconds : Nat}
    {configMap : GeneratedConfigMap} {r : Except Failure Gateway.Step}
    (run : (g.converge resyncSeconds
      (DesiredWorkload.ofGateway g (configVersion document.render) configMap.name) configMap
      none).run.Yields answers c t r c') :
    StepEnds P g document configMap none c t r c' := by
  unfold Gateway.converge at run
  dsimp only [Option.map_none, plan] at run
  rcases Attempt.yields_bind.mp run with ⟨e, rfl, failed⟩ | ⟨_, mid, _, _, made, told, rfl⟩
  · rcases createWorkload_ends within document rfl failed with ⟨impossible, -⟩ | ⟨_, same, ends⟩
    · cases impossible
    · cases same
      exact ends
  · obtain ⟨⟨step, rfl⟩, rfl⟩ := yields_announced within told
    rcases createWorkload_ends within document rfl made with
      ⟨-, absent, running, configMaps⟩ | ⟨_, impossible, -⟩
    · exact .advanced absent .made running configMaps
    · cases impossible

/-- Every run of the step towards the workload ends in one of these ways. -/
theorem converge_ends (within : answers.Within P) {document : Document} {resyncSeconds : Nat}
    {configMap : GeneratedConfigMap} {live : Option Deployment} {r : Except Failure Gateway.Step}
    (run : (g.converge resyncSeconds
      (DesiredWorkload.ofGateway g (configVersion document.render) configMap.name) configMap
      live).run.Yields answers c t r c')
    (kept : c.WellKept) (seen : ∀ d, live = some d → c.deployments.get? g.key = some d) :
    StepEnds P g document configMap live c t r c' := by
  cases live with
  | none => exact converge_none_ends within run
  | some d =>
    have there : c.deployments.get? g.key = some d := seen d rfl
    have named : d.metadata.nameText = g.name := kept.deployments _ _ there
    unfold Gateway.converge at run
    dsimp only [Option.map_some, plan] at run
    -- Updates wait until the number of replicas is right.
    by_cases wrong : (LiveWorkload.ofDeployment d).replicaCount ≠
        (DesiredWorkload.ofGateway g (configVersion document.render) configMap.name).replicas
    · rw [if_pos wrong] at run
      refine replaceWorkload_ends within run named there (.scaled wrong) ?_
      rintro written mid after ⟨rfl, rfl, rfl⟩
      exact ⟨⟨_, rfl⟩, rfl⟩
    rw [if_neg wrong] at run
    have right := Decidable.not_not.mp wrong
    cases changes : DesiredWorkload.changes
        (DesiredWorkload.ofGateway g (configVersion document.render) configMap.name)
        (LiveWorkload.ofDeployment d) with
    | nil =>
      rw [changes] at run
      obtain ⟨_, mid, _, _, counted, ⟨rfl, rfl, rfl⟩, rfl⟩ := Attempt.yields_lift_bind.mp run
      obtain ⟨answered, rfl⟩ := Program.yields_query.mp counted
      obtain rfl := Platform.answers_measure (within _ _ _ _ answered)
      exact .advanced there (.kept right changes) there rfl
    | cons first others =>
      have differs : g.differences document d ≠ [] := by
        refine fun none_left => ?_
        cases changes.symm.trans none_left
      rw [changes] at run
      exact replaceWorkload_ends within run named there (.updated right differs)
        (yields_announced within)

end GatewayOperator
