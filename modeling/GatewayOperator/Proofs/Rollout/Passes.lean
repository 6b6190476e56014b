import GatewayOperator.Proofs.Registering
import GatewayOperator.Proofs.Rollout.Workloads
import GatewayOperator.Rollout.Reconcile

/-!
# The runs of a pass

On a platform where every call is carried out, a pass over a gateway whose document can be resolved
always succeeds.  This module says what each of its steps does to the cluster.

## Main Definitions

* `EnsuresConfigMap` — what making sure of the config map may come to.
* `Converges` — what the step towards the workload may come to.
* `Reports` — what writing the status may come to.
* `RollsOut` — a pass that succeeds, step by step.

## Main Statements

* `ensureConfigMap_ensures`, `converge_converges`, `updateStatus_reports` — every run of a step is
  one of the cases of its description.
* `EnsuresConfigMap.holds` — afterwards the config map holds the document.
* `rollOut_rollsOut`, `reconcile_rollsOut` — a pass is a run of these steps one after another.
-/

namespace GatewayOperator

variable {P : Platform} {c c' : Cluster} {t : Transcript}

/-! ### Reading -/

/-- What is read off a shelf is found exactly if it is there. -/
theorem yields_found_fetch {α : Type} {p : Program (Except StoreError α)} {shelf : Shelf α}
    {kind : ObjectKind} {key : ObjectKey} {r : Except Failure (Option α)}
    (run : (Attempt.found p).run.Yields P.Answers c t r c')
    (reads : ∀ answer, p.Yields P.Answers c t answer c' → answer = shelf.fetch kind key) :
    r = .ok (shelf.get? key) ∧ ∃ answer, p.Yields P.Answers c t answer c' := by
  rcases Attempt.yields_found.mp run with
    ⟨object, asked, rfl⟩ | ⟨_, missing, asked, rfl⟩ | ⟨e, other, asked, rfl⟩
  all_goals
    refine ⟨?_, _, asked⟩
    have answered := reads _ asked
    unfold Shelf.fetch at answered
    split at answered
  · next found there =>
    cases answered
    rw [there]
  · cases answered
  · cases answered
  · next absent =>
    rw [absent]
  · cases answered
  · cases answered
    cases other

/-- A config map is found exactly if it is there. -/
theorem Platform.Reliable.yields_findConfigMap (reliable : P.Reliable) {ns name : String}
    {r : Except Failure (Option ConfigMap)}
    (run : (Attempt.found (Program.query (.getConfigMap ns name))).run.Yields P.Answers c t r c') :
    c' = c ∧ (∃ answer, t = [⟨.getConfigMap ns name, answer⟩]) ∧
      r = .ok (c.configMaps.get? ⟨ns, name⟩) := by
  obtain ⟨rfl, answer, asked⟩ := yields_found_fetch run fun answer asked =>
    (reliable.carried (Program.yields_query.mp asked).1).1
  obtain ⟨answered, rfl⟩ := Program.yields_query.mp asked
  exact ⟨(reliable.carried answered).2, ⟨answer, rfl⟩, rfl⟩

/-- A workload is found exactly if it is there. -/
theorem Platform.Reliable.yields_findDeployment (reliable : P.Reliable) {ns name : String}
    {r : Except Failure (Option Deployment)}
    (run : (Attempt.found (Program.query (.getDeployment ns name))).run.Yields P.Answers c t r c') :
    c' = c ∧ (∃ answer, t = [⟨.getDeployment ns name, answer⟩]) ∧
      r = .ok (c.deployments.get? ⟨ns, name⟩) := by
  obtain ⟨rfl, answer, asked⟩ := yields_found_fetch run fun answer asked =>
    (reliable.carried (Program.yields_query.mp asked).1).1
  obtain ⟨answered, rfl⟩ := Program.yields_query.mp asked
  exact ⟨(reliable.carried answered).2, ⟨answer, rfl⟩, rfl⟩

/-! ### The config map -/

/-- The config map of a gateway under the name it got. -/
def Gateway.placedConfigMap (g : Gateway) (document name : String) : ConfigMap :=
  { g.generatedConfigMap document with
    metadata := (g.generatedConfigMap document).metadata.placed g.namespaceText name }

/-- What making sure of the config map may come to. -/
inductive EnsuresConfigMap (g : Gateway) (live : Option Deployment) (document : String)
    (c : Cluster) : Transcript → GeneratedConfigMap → Cluster → Prop
  /-- The config map of the gateway holds the document. -/
  | kept {name : String} {object : ConfigMap} {answer : Except StoreError ConfigMap}
      (current : g.currentConfigMap? live = some name)
      (there : c.configMaps.get? ⟨g.namespaceText, name⟩ = some object)
      (written : object.entry? WellKnown.configKey = some document) :
      EnsuresConfigMap g live document c [⟨.getConfigMap g.namespaceText name, answer⟩]
        ⟨name, configVersion document, false⟩ c
  /-- The config map of the gateway is written over. -/
  | rewritten {name : String} {object : ConfigMap} {t : Transcript}
      (current : g.currentConfigMap? live = some name)
      (there : c.configMaps.get? ⟨g.namespaceText, name⟩ = some object)
      (differs : object.entry? WellKnown.configKey ≠ some document)
      (unmade : t.madeConfigMaps = []) :
      EnsuresConfigMap g live document c t ⟨name, configVersion document, false⟩
        { c with
          configMaps := c.configMaps.insert ⟨g.namespaceText, name⟩
            (object.setEntry WellKnown.configKey document) }
  /-- There is no config map of the gateway, and one is made under a free name. -/
  | made {name : String} {n : Nat} {t : Transcript}
      (missing : ∀ current ∈ g.currentConfigMap? live,
        c.configMaps.get? ⟨g.namespaceText, current⟩ = none)
      (nonempty : name ≠ "") (free : c.configMaps.get? ⟨g.namespaceText, name⟩ = none)
      (made : t.madeConfigMaps = [⟨g.namespaceText, name⟩]) :
      EnsuresConfigMap g live document c t ⟨name, configVersion document, true⟩
        { c with
          configMaps := c.configMaps.insert ⟨g.namespaceText, name⟩
            (g.placedConfigMap document name)
          namesGiven := n }

/-- On a reliable platform the config map of a gateway can be made. -/
theorem createConfigMap_makes (reliable : P.Reliable) {g : Gateway} {document : String}
    {r : Except Failure GeneratedConfigMap}
    (run : (g.createConfigMap document).run.Yields P.Answers c t r c') :
    ∃ name n, name ≠ "" ∧ c.configMaps.get? ⟨g.namespaceText, name⟩ = none ∧
      r = .ok ⟨name, configVersion document, true⟩ ∧
      t.madeConfigMaps = [⟨g.namespaceText, name⟩] ∧
      c' = { c with
        configMaps := c.configMaps.insert ⟨g.namespaceText, name⟩ (g.placedConfigMap document name)
        namesGiven := n } := by
  unfold Gateway.createConfigMap at run
  rcases Attempt.yields_ofStore_bind.mp run with
    ⟨why, asked, rfl⟩ | ⟨made, c₁, _, _, asked, last, rfl⟩
  · obtain ⟨answered, -⟩ := Program.yields_query.mp asked
    rcases Platform.answers_createConfigMap rfl answered with
      ⟨_, _, -, -, impossible, -⟩ | ⟨uncertain, -⟩
    · cases impossible
    · exact absurd (reliable _) uncertain
  · obtain ⟨answered, rfl⟩ := Program.yields_query.mp asked
    obtain ⟨rfl, rfl, rfl⟩ := last
    rcases Platform.answers_createConfigMap rfl answered with
      ⟨name, n, nonempty, free, same, rfl⟩ | ⟨uncertain, -⟩
    · cases same
      exact ⟨name, n, nonempty, free, rfl, rfl, rfl⟩
    · exact absurd (reliable _) uncertain

/-- On a reliable platform the config map of a gateway can be written over where it is. -/
theorem refreshConfigMap_writes (reliable : P.Reliable) (kept : c.WellKept) {g : Gateway}
    {name document : String} {object : ConfigMap}
    (there : c.configMaps.get? ⟨g.namespaceText, name⟩ = some object)
    {r : Except Failure GeneratedConfigMap}
    (run : (g.refreshConfigMap object document).run.Yields P.Answers c t r c') :
    r = .ok ⟨name, configVersion document, false⟩ ∧
      (object.entry? WellKnown.configKey = some document ∧ t = [] ∧ c' = c ∨
        object.entry? WellKnown.configKey ≠ some document ∧ t.madeConfigMaps = [] ∧
          c' = { c with
            configMaps := c.configMaps.insert ⟨g.namespaceText, name⟩
              (object.setEntry WellKnown.configKey document) }) := by
  have named : object.metadata.nameText = name := kept.configMaps _ _ there
  unfold Gateway.refreshConfigMap at run
  rw [named] at run
  split at run
  · next written =>
    obtain ⟨rfl, rfl, rfl⟩ := run
    exact ⟨rfl, Or.inl ⟨written, rfl, rfl⟩⟩
  · next differs =>
    -- The object is written under the name it carries, which is the one it was found under.
    have overwritten {answer : Except StoreError ConfigMap} {mid : Cluster}
        (answered : P.Answers (.replaceConfigMap g.namespaceText
          (object.setEntry WellKnown.configKey document)) c answer mid) :
        (∃ value, answer = .ok value) ∧ mid = { c with
          configMaps := c.configMaps.insert ⟨g.namespaceText, name⟩
            (object.setEntry WellKnown.configKey document) } := by
      obtain ⟨shelf, settled, rfl⟩ := reliable.carried answered
      have present : c.configMaps.contains ⟨g.namespaceText, name⟩ = true :=
        Dict.contains_iff_exists.mpr ⟨object, there⟩
      have key : (object.setEntry WellKnown.configKey document).metadata.nameText = name := named
      unfold Shelf.Settles Shelf.overwrite at settled
      rw [key, if_pos present] at settled
      obtain ⟨rfl, rfl⟩ := settled
      exact ⟨⟨_, rfl⟩, rfl⟩
    rcases Attempt.yields_ofStore_bind.mp run with
      ⟨why, asked, rfl⟩ | ⟨_, c₁, _, _, asked, last, rfl⟩
    · obtain ⟨⟨value, impossible⟩, -⟩ := overwritten (Program.yields_query.mp asked).1
      cases impossible
    · obtain ⟨answered, rfl⟩ := Program.yields_query.mp asked
      obtain ⟨rfl, rfl, rfl⟩ := last
      exact ⟨rfl, Or.inr ⟨differs, rfl, (overwritten answered).2⟩⟩

/-- Every run of making sure of the config map succeeds, in one of the ways described. -/
theorem ensureConfigMap_ensures (reliable : P.Reliable) (kept : c.WellKept) {g : Gateway}
    {live : Option Deployment} {document : String} {r : Except Failure GeneratedConfigMap}
    (run : (g.ensureConfigMap live document).run.Yields P.Answers c t r c') :
    ∃ configMap, r = .ok configMap ∧ EnsuresConfigMap g live document c t configMap c' := by
  unfold Gateway.ensureConfigMap Gateway.findConfigMap at run
  cases current : g.currentConfigMap? live with
  | none =>
    rw [current] at run
    rcases Attempt.yields_bind.mp run with
      ⟨e, -, -, impossible, -⟩ | ⟨found, c₁, _, _, ⟨rfl, same, rfl⟩, run₁, rfl⟩
    · cases impossible
    cases same
    obtain ⟨name, n, nonempty, free, rfl, made, rfl⟩ := createConfigMap_makes reliable run₁
    refine ⟨_, rfl, .made ?_ nonempty free ?_⟩
    · simp [current]
    · exact made
  | some name =>
    rw [current] at run
    rcases Attempt.yields_bind.mp run with ⟨e, -, read⟩ | ⟨found, c₁, _, _, read, run₁, rfl⟩
    · cases (reliable.yields_findConfigMap read).2.2
    obtain ⟨rfl, ⟨answer, rfl⟩, same⟩ := reliable.yields_findConfigMap read
    cases same
    -- A name is known, but the object may be gone.
    cases there : c₁.configMaps.get? ⟨g.namespaceText, name⟩ with
    | none =>
      rw [there] at run₁
      obtain ⟨name', n, nonempty, free, rfl, made, rfl⟩ := createConfigMap_makes reliable run₁
      refine ⟨_, rfl, .made ?_ nonempty free ?_⟩
      · simpa [current] using there
      · rw [Transcript.madeConfigMaps_append, made]
        rfl
    | some object =>
      rw [there] at run₁
      rcases refreshConfigMap_writes reliable kept there run₁ with
        ⟨rfl, ⟨written, rfl, rfl⟩ | ⟨differs, unmade, rfl⟩⟩
      · exact ⟨_, rfl, .kept current there written⟩
      · refine ⟨_, rfl, .rewritten current there differs ?_⟩
        rw [Transcript.madeConfigMaps_append, unmade]
        rfl

/-- Afterwards the config map holds the document, and nothing else has changed. -/
theorem EnsuresConfigMap.holds {g : Gateway} {live : Option Deployment} {document : String}
    {configMap : GeneratedConfigMap} (ensured : EnsuresConfigMap g live document c t configMap c') :
    (∃ object, c'.configMaps.get? ⟨g.namespaceText, configMap.name⟩ = some object ∧
      object.entry? WellKnown.configKey = some document) ∧
    configMap.version = configVersion document ∧ c'.deployments = c.deployments ∧
      c'.statuses = c.statuses ∧ c'.secrets = c.secrets := by
  cases ensured with
  | kept current there written => exact ⟨⟨_, there, written⟩, rfl, rfl, rfl, rfl⟩
  | rewritten =>
    refine ⟨⟨_, Dict.get?_insert_self _ _ _, ?_⟩, rfl, rfl, rfl, rfl⟩
    simp [ConfigMap.setEntry, ConfigMap.entry?]
  | made =>
    refine ⟨⟨_, Dict.get?_insert_self _ _ _, ?_⟩, rfl, rfl, rfl, rfl⟩
    simp [Gateway.placedConfigMap, Gateway.generatedConfigMap, ConfigMap.entry?,
      Dict.ofList_eq_insertAll]

/-! ### The workload -/

/-- The workload of a gateway once it stands in its namespace. -/
def DesiredWorkload.placedDeployment (desired : DesiredWorkload) (g : Gateway) : Deployment :=
  { desired.deployment g with
    metadata := (desired.deployment g).metadata.placed g.namespaceText desired.name }

/-- What the step towards the workload may come to. -/
inductive Converges (g : Gateway) (desired : DesiredWorkload) (live : Option Deployment)
    (resyncSeconds : Nat) (c : Cluster) : Transcript → Gateway.Step → Cluster → Prop
  /-- There is no workload, and it is made. -/
  | made {t : Transcript} {step : Gateway.Step} {n : Nat} (absent : live = none)
      (unmade : t.madeConfigMaps = []) :
      Converges g desired live resyncSeconds c t step
        { c with
          deployments := c.deployments.insert ⟨g.namespaceText, g.name⟩
            (desired.placedDeployment g)
          namesGiven := n }
  /-- The number of pods is wrong, and it is changed. -/
  | scaled {t : Transcript} {step : Gateway.Step} {d : Deployment} (there : live = some d)
      (wrong : (LiveWorkload.ofDeployment d).replicaCount ≠ desired.replicas)
      (unmade : t.madeConfigMaps = []) :
      Converges g desired live resyncSeconds c t step
        { c with
          deployments := c.deployments.insert ⟨g.namespaceText, g.name⟩
            (d.scale desired.replicas) }
  /-- Something else differs, and everything is changed. -/
  | updated {t : Transcript} {step : Gateway.Step} {d : Deployment} {cause : String}
      (there : live = some d)
      (right : (LiveWorkload.ofDeployment d).replicaCount = desired.replicas)
      (differs : desired.changes (LiveWorkload.ofDeployment d) ≠ [])
      (unmade : t.madeConfigMaps = []) :
      Converges g desired live resyncSeconds c t step
        { c with
          deployments := c.deployments.insert ⟨g.namespaceText, g.name⟩
            (desired.updateDeployment cause d) }
  /-- Nothing is left to do. -/
  | kept {d : Deployment} (there : live = some d)
      (right : (LiveWorkload.ofDeployment d).replicaCount = desired.replicas)
      (same : desired.changes (LiveWorkload.ofDeployment d) = []) :
      Converges g desired live resyncSeconds c [⟨.measure (.requeue .resync), ()⟩]
        ⟨.after resyncSeconds, "Gateway is up to date"⟩ c

/-- On a reliable platform a workload can be written over where it is. -/
theorem Platform.Reliable.overwrites (reliable : P.Reliable) {ns name : String}
    {object : Deployment} (named : object.metadata.nameText = name)
    (present : c.deployments.contains ⟨ns, name⟩ = true) {r : Except Failure Deployment}
    (run : (Attempt.ofStore (Program.query (.replaceDeployment ns object))).run.Yields
      P.Answers c t r c') :
    r = .ok object ∧ t.madeConfigMaps = [] ∧
      c' = { c with deployments := c.deployments.insert ⟨ns, name⟩ object } := by
  obtain ⟨answer, asked, rfl⟩ := Attempt.yields_ofStore.mp run
  obtain ⟨answered, rfl⟩ := Program.yields_query.mp asked
  obtain ⟨shelf, settled, rfl⟩ := reliable.carried answered
  unfold Shelf.Settles Shelf.overwrite at settled
  rw [named, if_pos present] at settled
  obtain ⟨rfl, rfl⟩ := settled
  exact ⟨rfl, rfl, rfl⟩

/-- An announcement changes nothing. -/
theorem announce_yields {g : Gateway} {reason note : String} {r : Except Failure Unit}
    (run : (g.announce reason note).run.Yields P.Answers c t r c') :
    r = .ok () ∧ t.madeConfigMaps = [] ∧ c' = c := by
  obtain ⟨answer, asked, rfl⟩ := Attempt.yields_lift.mp run
  obtain ⟨answered, rfl⟩ := Program.yields_query.mp asked
  exact ⟨rfl, rfl, Platform.answers_publish answered⟩

/-- On a reliable platform a workload can be made where there is none. -/
theorem createWorkload_makes (reliable : P.Reliable) {g : Gateway} {desired : DesiredWorkload}
    {configMap : GeneratedConfigMap} (named : desired.name = g.name)
    (absent : c.deployments.get? ⟨g.namespaceText, g.name⟩ = none) {r : Except Failure Unit}
    (run : (g.createWorkload desired configMap).run.Yields P.Answers c t r c') :
    r = .ok () ∧ t.madeConfigMaps = [] ∧ ∃ n, c' = { c with
      deployments := c.deployments.insert ⟨g.namespaceText, g.name⟩ (desired.placedDeployment g)
      namesGiven := n } := by
  unfold Gateway.createWorkload at run
  rw [ExceptT.run_mk] at run
  obtain ⟨answer, mid, before, after, asked, rest, rfl⟩ := Program.yields_bind.mp run
  obtain ⟨answered, rfl⟩ := Program.yields_query.mp asked
  obtain ⟨shelf, n, created, rfl⟩ := reliable.carried answered
  rcases created with ⟨name, given, free, rfl, rfl⟩ | ⟨name, why, given, taken, -⟩
  · obtain ⟨rfl, rfl, rfl⟩ := rest
    rcases given with given | ⟨impossible, -⟩
    · cases given
      exact ⟨rfl, rfl, n, by rw [← named]; rfl⟩
    · cases impossible
  · cases given
    rw [named, Dict.contains_iff_exists, absent] at taken
    obtain ⟨_, impossible⟩ := taken
    cases impossible

/-- Every run of the step towards the workload succeeds, in one of the ways described. -/
theorem converge_converges (reliable : P.Reliable) (kept : c.WellKept) {g : Gateway}
    {resyncSeconds : Nat} {desired : DesiredWorkload} {configMap : GeneratedConfigMap}
    {live : Option Deployment} (named : desired.name = g.name)
    (found : live = c.deployments.get? ⟨g.namespaceText, g.name⟩) {r : Except Failure Gateway.Step}
    (run : (g.converge resyncSeconds desired configMap live).run.Yields P.Answers c t r c') :
    ∃ step, r = .ok step ∧ Converges g desired live resyncSeconds c t step c' := by
  unfold Gateway.converge at run
  cases live with
  | none =>
    dsimp only [Option.map_none, plan] at run
    rcases Attempt.yields_bind.mp run with ⟨e, rfl, failed⟩ | ⟨_, c₁, _, _, made, run₁, rfl⟩
    · cases (createWorkload_makes reliable named found.symm failed).1
    obtain ⟨-, unmade, n, rfl⟩ := createWorkload_makes reliable named found.symm made
    rcases Attempt.yields_bind.mp run₁ with ⟨e, rfl, failed⟩ | ⟨_, c₂, _, _, told, last, rfl⟩
    · cases (announce_yields failed).1
    obtain ⟨-, untold, rfl⟩ := announce_yields told
    obtain ⟨rfl, rfl, rfl⟩ := last
    exact ⟨_, rfl, .made rfl (by simp [unmade, untold])⟩
  | some d =>
    have there : c.deployments.contains ⟨g.namespaceText, g.name⟩ = true :=
      Dict.contains_iff_exists.mpr ⟨d, found.symm⟩
    have dnamed : d.metadata.nameText = g.name := kept.deployments _ _ found.symm
    have scaledNamed : (d.scale desired.replicas).metadata.nameText = g.name := dnamed
    have updatedNamed (cause : String) :
        (desired.updateDeployment cause d).metadata.nameText = g.name := dnamed
    dsimp only [Option.map_some, plan] at run
    -- Updates wait until the number of replicas is right.
    by_cases wrong : (LiveWorkload.ofDeployment d).replicaCount ≠ desired.replicas
    · rw [if_pos wrong] at run
      rcases Attempt.yields_bind.mp run with ⟨e, rfl, failed⟩ | ⟨_, c₁, _, _, written, last, rfl⟩
      · cases (reliable.overwrites scaledNamed there failed).1
      obtain ⟨-, unmade, rfl⟩ := reliable.overwrites scaledNamed there written
      obtain ⟨rfl, rfl, rfl⟩ := last
      exact ⟨_, rfl, .scaled rfl wrong (by simp [unmade])⟩
    · rw [if_neg wrong] at run
      have right := Decidable.not_not.mp wrong
      cases changes : desired.changes (LiveWorkload.ofDeployment d) with
      | nil =>
        rw [changes] at run
        obtain ⟨_, c₁, _, _, counted, ⟨rfl, rfl, rfl⟩, rfl⟩ := Attempt.yields_lift_bind.mp run
        obtain ⟨answered, rfl⟩ := Program.yields_query.mp counted
        obtain rfl := Platform.answers_measure answered
        exact ⟨_, rfl, .kept rfl right changes⟩
      | cons first others =>
        rw [changes] at run
        rcases Attempt.yields_bind.mp run with ⟨e, rfl, failed⟩ | ⟨_, c₁, _, _, written, run₁, rfl⟩
        · cases (reliable.overwrites (updatedNamed _) there failed).1
        obtain ⟨-, unmade, rfl⟩ := reliable.overwrites (updatedNamed _) there written
        rcases Attempt.yields_bind.mp run₁ with ⟨e, rfl, failed⟩ | ⟨_, c₂, _, _, told, last, rfl⟩
        · cases (announce_yields failed).1
        obtain ⟨-, untold, rfl⟩ := announce_yields told
        obtain ⟨rfl, rfl, rfl⟩ := last
        refine ⟨_, rfl, .updated rfl right ?_ (by simp [unmade, untold])⟩
        rw [changes]
        exact List.cons_ne_nil _ _

/-! ### The report -/

/-- What writing the status may come to. -/
inductive Reports (g : Gateway) (status : GatewayStatus) (c : Cluster) :
    Transcript → Cluster → Prop
  /-- The gateway has the status. -/
  | kept (same : g.status = some status) : Reports g status c [] c
  /-- The status is written. -/
  | written {t : Transcript} (differs : g.status ≠ some status) (unmade : t.madeConfigMaps = []) :
      Reports g status c t
        { c with statuses := c.statuses.insert ⟨g.namespaceText, g.name⟩ status }

/-- Every run of writing the status succeeds, in one of the ways described. -/
theorem updateStatus_reports (reliable : P.Reliable) {g : Gateway} {status : GatewayStatus}
    {r : Except StoreError Unit} (run : (g.updateStatus status).Yields P.Answers c t r c') :
    r = .ok () ∧ Reports g status c t c' := by
  unfold Gateway.updateStatus at run
  split at run
  · next same =>
    obtain ⟨rfl, rfl, rfl⟩ := run
    exact ⟨rfl, .kept same⟩
  · next differs =>
    obtain ⟨answered, rfl⟩ := Program.yields_query.mp run
    obtain ⟨rfl, rfl⟩ := reliable.carried answered
    exact ⟨rfl, .written differs rfl⟩

/-! ### The pass as a whole -/

/-- A pass that succeeds: what it read, and what each of its steps came to. -/
inductive RollsOut (P : Platform) (g : Gateway) (resyncSeconds : Nat) (document : Document)
    (sources : List Source) (c : Cluster) : Transcript → Cluster → Prop
  /-- The configuration is resolved, the config map made sure of, a step taken towards the workload
  and the status written. -/
  | steps {before resolving ensuring converging asking reporting after : Transcript}
      {c₁ c₂ c₃ c₄ : Cluster} {configMap : GeneratedConfigMap} {step : Gateway.Step} {now : String}
      (resolved : (resolve g.namespaceText sources).run.Yields P.Answers c resolving
        (.ok document) c₁)
      (ensured : EnsuresConfigMap g (c.deployments.get? ⟨g.namespaceText, g.name⟩) document.render
        c₁ ensuring configMap c₂)
      (converged : Converges g (DesiredWorkload.ofGateway g configMap.version configMap.name)
        (c.deployments.get? ⟨g.namespaceText, g.name⟩) resyncSeconds c₂ converging step c₃)
      (reported : Reports g (g.nextStatus now true "Reconciled" step.message
        (some ⟨g.spec.replicas, configMap.version, configMap.name⟩)) c₃ reporting c₄)
      (reading : ∀ x ∈ before ++ asking ++ after, x.query.ReadOnly) :
      RollsOut P g resyncSeconds document sources c
        (before ++ resolving ++ ensuring ++ converging ++ asking ++ reporting ++ after) c₄

/-- Reading before and after a pass makes no difference. -/
theorem RollsOut.between {g : Gateway} {resyncSeconds : Nat} {document : Document}
    {sources : List Source} {before after : Transcript}
    (steps : RollsOut P g resyncSeconds document sources c t c')
    (outside : ∀ x ∈ before ++ after, x.query.ReadOnly) :
    RollsOut P g resyncSeconds document sources c (before ++ t ++ after) c' := by
  cases steps with
  | @steps first resolving ensuring converging asking reporting last _ _ _ _ _ _ _
      resolved ensured converged reported reading =>
    have longer : RollsOut P g resyncSeconds document sources c ((before ++ first) ++ resolving ++
        ensuring ++ converging ++ asking ++ reporting ++ (last ++ after)) c' := by
      refine .steps resolved ensured converged reported fun x mem => ?_
      have either : x ∈ before ++ after ∨ x ∈ first ++ asking ++ last := by
        simp only [List.mem_append] at mem ⊢
        rcases mem with ((mem | mem) | mem) | mem | mem
        · exact Or.inl (Or.inl mem)
        · exact Or.inr (Or.inl (Or.inl mem))
        · exact Or.inr (Or.inl (Or.inr mem))
        · exact Or.inr (Or.inr mem)
        · exact Or.inl (Or.inr mem)
      rcases either with mem | mem
      · exact outside x mem
      · exact reading x mem
    simpa only [List.append_assoc] using longer

/-- Every run of a pass whose configuration can be resolved succeeds, step by step. -/
theorem rollOut_rollsOut (reliable : P.Reliable) (kept : c.WellKept) {g : Gateway}
    {resyncSeconds : Nat} {document : Document} {sources : List Source}
    (sourced : Source.ofEntries g.spec.configuration = .ok sources)
    (resolves : ∀ t r c', (resolve g.namespaceText sources).run.Yields P.Answers c t r c' →
      r = .ok document)
    {r : Except Failure Requeue}
    (run : (g.rollOut resyncSeconds).run.Yields P.Answers c t r c') :
    (∃ requeue, r = .ok requeue) ∧ RollsOut P g resyncSeconds document sources c t c' := by
  unfold Gateway.rollOut at run
  rcases Attempt.yields_bind.mp run with ⟨e, -, read⟩ | ⟨live, c₁, _, _, read, run₁, rfl⟩
  · cases (reliable.yields_findDeployment read).2.2
  obtain ⟨rfl, ⟨answer, rfl⟩, found⟩ := reliable.yields_findDeployment read
  cases found
  rw [sourced] at run₁
  rcases Attempt.yields_bind.mp run₁ with
    ⟨e, -, -, impossible, -⟩ | ⟨_, c₂, _, _, ⟨rfl, same, rfl⟩, run₂, rfl⟩
  · cases impossible
  cases same
  rcases Attempt.yields_bind.mp run₂ with ⟨e, -, failed⟩ | ⟨_, c₃, _, _, resolved, run₃, rfl⟩
  · cases resolves _ _ _ failed
  cases resolves _ _ _ resolved
  have keptOn := kept.of_yields resolved
  have unchanged := resolve_sameButSecrets resolved
  rcases Attempt.yields_bind.mp run₃ with ⟨e, -, failed⟩ | ⟨_, c₄, _, _, ensured, run₄, rfl⟩
  · obtain ⟨_, impossible, -⟩ := ensureConfigMap_ensures reliable keptOn failed
    cases impossible
  have keptStill := keptOn.of_yields ensured
  obtain ⟨configMap, same, ensures⟩ := ensureConfigMap_ensures reliable keptOn ensured
  cases same
  -- The workload was looked up at the start, but nothing has touched it since.
  have found : c₂.deployments.get? ⟨g.namespaceText, g.name⟩ =
      c₄.deployments.get? ⟨g.namespaceText, g.name⟩ := by
    rw [ensures.holds.2.2.1, unchanged.deployments]
  rcases Attempt.yields_bind.mp run₄ with ⟨e, -, failed⟩ | ⟨_, c₅, _, _, converged, run₅, rfl⟩
  · obtain ⟨_, impossible, -⟩ := converge_converges reliable keptStill rfl found failed
    cases impossible
  obtain ⟨step, same, converges⟩ := converge_converges reliable keptStill rfl found converged
  cases same
  obtain ⟨now, c₆, _, _, asked, run₆, rfl⟩ := Attempt.yields_lift_bind.mp run₅
  obtain ⟨answered, rfl⟩ := Program.yields_query.mp asked
  obtain rfl := Platform.answers_now answered
  dsimp only at run₆
  rcases Attempt.yields_ofStore_bind.mp run₆ with
    ⟨why, failed, -⟩ | ⟨_, c₇, _, _, reported, last, rfl⟩
  · obtain ⟨impossible, -⟩ := updateStatus_reports reliable failed
    cases impossible
  obtain ⟨-, reports⟩ := updateStatus_reports reliable reported
  obtain ⟨rfl, rfl, rfl⟩ := last
  refine ⟨⟨_, rfl⟩, ?_⟩
  have reading : ∀ x ∈ [⟨.getDeployment g.namespaceText g.name, answer⟩] ++ [⟨.now, now⟩] ++ [],
      Query.ReadOnly (Answered.query x) := by
    simp [Query.ReadOnly]
  simpa using RollsOut.steps resolved ensures converges reports reading

/-- Every run of a pass over a gateway whose document can be resolved succeeds, step by step. -/
theorem reconcile_rollsOut (reliable : P.Reliable) (kept : c.WellKept) {g : Gateway}
    {resyncSeconds : Nat} {document : Document} {sources : List Source} {ledger : FailureLedger}
    (sourced : Source.ofEntries g.spec.configuration = .ok sources)
    (resolves : ∀ t r c', (resolve g.namespaceText sources).run.Yields P.Answers c t r c' →
      r = .ok document)
    {r : Except Failure Requeue × FailureLedger}
    (run : (g.reconcile resyncSeconds ledger).Yields P.Answers c t r c') :
    RollsOut P g resyncSeconds document sources c t c' := by
  unfold Gateway.reconcile at run
  obtain ⟨_, c₁, _, _, counted, run₁, rfl⟩ := Program.yields_bind.mp run
  obtain ⟨answered, rfl⟩ := Program.yields_query.mp counted
  obtain rfl := Platform.answers_measure answered
  obtain ⟨result, c₂, _, _, rolled, run₂, rfl⟩ := Program.yields_bind.mp run₁
  obtain ⟨⟨requeue, rfl⟩, steps⟩ := rollOut_rollsOut reliable kept sourced resolves rolled
  obtain ⟨_, c₃, _, _, counted, ⟨rfl, rfl, rfl⟩, rfl⟩ := Program.yields_bind.mp run₂
  obtain ⟨answered, rfl⟩ := Program.yields_query.mp counted
  obtain rfl := Platform.answers_measure answered
  have outside : ∀ x ∈ [⟨.measure .reconciliation, ()⟩] ++ [⟨.measure .reconciliationDuration, ()⟩],
      Query.ReadOnly (Answered.query x) := by
    simp [Query.ReadOnly]
  simpa using steps.between outside

end GatewayOperator
