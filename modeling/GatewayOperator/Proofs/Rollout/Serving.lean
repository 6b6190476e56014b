import GatewayOperator.Proofs.Provisioning
import GatewayOperator.Proofs.Rollout.Effects

/-!
# Making sure of a config map, if calls may be refused

Any call of a pass may be refused.  Before the workload is looked after, a pass makes sure that a
config map holds the document: it writes over the one that the gateway has, or makes one.  If that
fails, no config map has come or gone.

## Main Definitions

* `Responder.Within` — a responder that answers only what a platform may answer.
* `Transcript.writtenStatuses` — the statuses that were written in a run.
* `Transcript.Plain` — in a run no config map was made and no status was written.
* `Cluster.SameStock`, `Cluster.SameRollout` — two clusters with the same config maps, or with
  config maps of the same names, and with the same workloads.
* `Unfound` — a config map was said to be missing.
* `Serves`, `EnsuringEnds` — what making sure of the config map may come to.

## Main Statements

* `ensureConfigMap_ensuringEnds` — every run of it is one of these cases.

## Design Notes

A config map that is said to be missing need not be: that depends on who answers.  So it is only
recorded that this was answered, and at which config maps.
-/

namespace GatewayOperator

variable {α : Type} {answers : Responder Cluster} {P : Platform} {g : Gateway}
  {c mid c' : Cluster} {t t' before after : Transcript}

/-- Whatever a responder answers, a platform may answer. -/
def Responder.Within (answers : Responder Cluster) (P : Platform) : Prop :=
  ∀ q c answer c', answers q c answer c' → P.Answers q c answer c'

/-! ### What is written in a run -/

/-- The status that was written by a question, if one was. -/
def Answered.writtenStatus? : Answered → Option GatewayStatus
  | ⟨.patchStatus _ _ status, .ok _⟩ => some status
  | _ => none

/-- The statuses that were written in a run. -/
def Transcript.writtenStatuses (t : Transcript) : List GatewayStatus :=
  t.filterMap Answered.writtenStatus?

@[simp] theorem Transcript.writtenStatuses_append (t t' : Transcript) :
    writtenStatuses (t ++ t') = t.writtenStatuses ++ t'.writtenStatuses :=
  List.filterMap_append

/-- In a run no config map was made and no status was written. -/
structure Transcript.Plain (t : Transcript) : Prop where
  /-- No config map was made. -/
  unmade : t.madeConfigMaps = []
  /-- No status was written. -/
  unwritten : t.writtenStatuses = []

theorem Transcript.Plain.append (h : t.Plain) (h' : t'.Plain) : Transcript.Plain (t ++ t') :=
  ⟨by simp [h.unmade, h'.unmade], by simp [h.unwritten, h'.unwritten]⟩

/-- The questions that neither make a config map nor write a status. -/
def Query.Plain : Query → Prop
  | .createConfigMap .. | .patchStatus .. => False
  | _ => True

theorem Query.ReadOnly.plain {q : Query} (h : q.ReadOnly) : q.Plain := by
  cases q <;> trivial

theorem Query.Resolving.plain {q : Query} (h : q.Resolving) : q.Plain := by
  cases q <;> trivial

theorem Program.Yields.plain {program : Program α} {a : α}
    (run : program.Yields answers c t a c') (asks : program.Asks Query.Plain) : t.Plain := by
  have asked := run.asked asks
  constructor
  · refine Transcript.filterMap_eq_nil asked fun q answer plain => ?_
    cases q <;> first | rfl | exact plain.elim
  · refine Transcript.filterMap_eq_nil asked fun q answer plain => ?_
    cases q <;> first | rfl | exact plain.elim

/-- The statuses that were written in a run name the config map that the status of a gateway
names. -/
def Gateway.Carries (g : Gateway) (t : Transcript) : Prop :=
  ∀ status ∈ t.writtenStatuses, status.configMapName = g.status.bind (·.configMapName)

theorem Transcript.Plain.carries (h : t.Plain) : g.Carries t := by
  intro status mem
  rw [h.unwritten] at mem
  cases mem

theorem Gateway.Carries.append (h : g.Carries t) (h' : g.Carries t') :
    g.Carries (t ++ t') := by
  intro status mem
  rw [Transcript.writtenStatuses_append] at mem
  rcases List.mem_append.mp mem with mem | mem
  · exact h status mem
  · exact h' status mem

/-- The same config maps and the same workloads stand in two clusters. -/
structure Cluster.SameStock (c c' : Cluster) : Prop where
  /-- The config maps are the same. -/
  configMaps : c'.configMaps = c.configMaps
  /-- The workloads are the same. -/
  deployments : c'.deployments = c.deployments

theorem Cluster.SameStock.trans (h : c.SameStock mid) (h' : mid.SameStock c') : c.SameStock c' :=
  ⟨h'.configMaps.trans h.configMaps, h'.deployments.trans h.deployments⟩

theorem Cluster.SameObjects.sameStock (h : c.SameObjects c') : c.SameStock c' := by
  obtain ⟨n, rfl⟩ := h
  exact ⟨rfl, rfl⟩

theorem Cluster.SameButSecrets.sameStock (h : c.SameButSecrets c') : c.SameStock c' :=
  ⟨h.configMaps, h.deployments⟩

/-- The same config maps, by name, and the same workloads stand in two clusters. -/
structure Cluster.SameRollout (c c' : Cluster) : Prop where
  /-- The config maps have the same names. -/
  names : ∀ key, c'.configMaps.contains key = c.configMaps.contains key
  /-- The workloads are the same. -/
  deployments : c'.deployments = c.deployments

namespace Cluster.SameRollout

theorem refl (c : Cluster) : c.SameRollout c := ⟨fun _ => rfl, rfl⟩

theorem trans (h : c.SameRollout mid) (h' : mid.SameRollout c') : c.SameRollout c' :=
  ⟨fun key => (h'.names key).trans (h.names key), h'.deployments.trans h.deployments⟩

end Cluster.SameRollout

theorem Cluster.SameStock.sameRollout (h : c.SameStock c') : c.SameRollout c' :=
  ⟨fun key => by rw [h.configMaps], h.deployments⟩

/-! ### Reading -/

/-- A config map was said to be missing, to one who saw these config maps. -/
def Unfound (answers : Responder Cluster) (ns : String) (shelf : Shelf ConfigMap) (t : Transcript)
    (name : String) : Prop :=
  ∃ kind missing mid mid', mid.configMaps = shelf ∧
    answers (.getConfigMap ns name) mid (.error (.notFound kind missing)) mid' ∧
    ⟨.getConfigMap ns name, .error (.notFound kind missing)⟩ ∈ t

theorem Unfound.mono {ns name : String} {shelf : Shelf ConfigMap}
    (h : Unfound answers ns shelf t name) (part : ∀ x ∈ t, x ∈ t') :
    Unfound answers ns shelf t' name := by
  obtain ⟨kind, missing, mid, mid', same, answered, mem⟩ := h
  exact ⟨kind, missing, mid, mid', same, answered, part _ mem⟩

/-- A workload that is found is there. -/
theorem yields_seesDeployment (within : answers.Within P) {ns name : String}
    {r : Except Failure (Option Deployment)}
    (run : (Attempt.found (Program.query (.getDeployment ns name))).run.Yields answers c t r c') :
    c.SameObjects c' ∧ t.Plain ∧ ∀ d, r = .ok (some d) → c.deployments.get? ⟨ns, name⟩ = some d := by
  have asks : (Attempt.found (Program.query (.getDeployment ns name))).run.Asks Query.ReadOnly :=
    Attempt.asks_found (Program.asks_query trivial)
  refine ⟨sameObjects_of_asks asks (run.mono within),
    run.plain (asks.mono fun _ => Query.ReadOnly.plain), ?_⟩
  rintro d rfl
  rcases Attempt.yields_found.mp run with ⟨found, asked, same⟩ | ⟨_, _, -, same⟩ | ⟨_, -, -, same⟩
  · cases same
    rcases within _ _ _ _ (Program.yields_query.mp asked).1 with
      ⟨carried, -⟩ | ⟨-, ⟨why, impossible⟩, -⟩
    · exact Shelf.get?_of_fetch carried
    · cases impossible
  · cases same
  · cases same

/-- A config map that is found is there, and one that is not found was said to be missing. -/
theorem yields_seesConfigMap (within : answers.Within P) {ns name : String}
    {r : Except Failure (Option ConfigMap)}
    (run : (Attempt.found (Program.query (.getConfigMap ns name))).run.Yields answers c t r c') :
    c.SameObjects c' ∧ t.Plain ∧
      (∀ object, r = .ok (some object) → c.configMaps.get? ⟨ns, name⟩ = some object) ∧
      (r = .ok none → Unfound answers ns c.configMaps t name) := by
  have asks : (Attempt.found (Program.query (.getConfigMap ns name))).run.Asks Query.ReadOnly :=
    Attempt.asks_found (Program.asks_query trivial)
  refine ⟨sameObjects_of_asks asks (run.mono within),
    run.plain (asks.mono fun _ => Query.ReadOnly.plain), ?_, ?_⟩
  · rintro object rfl
    rcases Attempt.yields_found.mp run with
      ⟨found, asked, same⟩ | ⟨_, _, -, same⟩ | ⟨_, -, -, same⟩
    · cases same
      rcases within _ _ _ _ (Program.yields_query.mp asked).1 with
        ⟨carried, -⟩ | ⟨-, ⟨why, impossible⟩, -⟩
      · exact Shelf.get?_of_fetch carried
      · cases impossible
    · cases same
    · cases same
  · rintro rfl
    rcases Attempt.yields_found.mp run with
      ⟨_, -, same⟩ | ⟨kind, missing, asked, -⟩ | ⟨_, -, -, same⟩
    · cases same
    · obtain ⟨answered, rfl⟩ := Program.yields_query.mp asked
      exact ⟨kind, missing, c, c', rfl, answered, List.mem_singleton_self _⟩
    · cases same

/-! ### The config map -/

/-- What making sure of the config map may come to, if it succeeds. -/
inductive Serves (answers : Responder Cluster) (g : Gateway) (live : Option Deployment)
    (shelf : Shelf ConfigMap) (t : Transcript) : GeneratedConfigMap → Shelf ConfigMap → Prop
  /-- The config map of the gateway is found. -/
  | found {name version : String} {object : ConfigMap} {shelf' : Shelf ConfigMap}
      (current : g.currentConfigMap? live = some name)
      (there : shelf.get? ⟨g.namespaceText, name⟩ = some object)
      (unmade : t.madeConfigMaps = [])
      (names : ∀ key, shelf'.contains key = shelf.contains key) :
      Serves answers g live shelf t ⟨name, version, false⟩ shelf'
  /-- No config map of the gateway is known or found, and one is made under a free name. -/
  | made {name version : String} {object : ConfigMap} {shelf' : Shelf ConfigMap}
      (missing : ∀ current ∈ g.currentConfigMap? live,
        Unfound answers g.namespaceText shelf t current)
      (nonempty : name ≠ "") (free : shelf.get? ⟨g.namespaceText, name⟩ = none)
      (made : t.madeConfigMaps = [⟨g.namespaceText, name⟩])
      (stored : shelf' = shelf.insert ⟨g.namespaceText, name⟩ object) :
      Serves answers g live shelf t ⟨name, version, true⟩ shelf'

/-- Whatever else is asked before and after makes no difference, if it makes no config map. -/
theorem Serves.between {live : Option Deployment} {shelf shelf' : Shelf ConfigMap}
    {configMap : GeneratedConfigMap} (serves : Serves answers g live shelf t configMap shelf')
    (first : before.madeConfigMaps = []) (last : after.madeConfigMaps = []) :
    Serves answers g live shelf (before ++ (t ++ after)) configMap shelf' := by
  cases serves with
  | found current there unmade names =>
    exact .found current there (by simp [first, last, unmade]) names
  | made missing nonempty free made stored =>
    refine .made (fun current known => (missing current known).mono ?_) nonempty free
      (by simp [first, last, made]) stored
    intro x mem
    exact List.mem_append_right _ (List.mem_append_left _ mem)

/-- A config map is made under a free name, or nothing is made. -/
theorem createConfigMap_ends (within : answers.Within P) {document : String}
    {r : Except Failure GeneratedConfigMap}
    (run : (g.createConfigMap document).run.Yields answers c t r c') :
    c'.deployments = c.deployments ∧ t.writtenStatuses = [] ∧
      ((∃ e, r = .error e) ∧ c.SameRollout c' ∧ t.madeConfigMaps = [] ∨
      ∃ name object, r = .ok ⟨name, configVersion document, true⟩ ∧ name ≠ "" ∧
        c.configMaps.get? ⟨g.namespaceText, name⟩ = none ∧
        t.madeConfigMaps = [⟨g.namespaceText, name⟩] ∧
        c'.configMaps = c.configMaps.insert ⟨g.namespaceText, name⟩ object) := by
  unfold Gateway.createConfigMap at run
  rcases Attempt.yields_ofStore_bind.mp run with
    ⟨why, asked, rfl⟩ | ⟨made, c₁, _, _, asked, last, rfl⟩
  · obtain ⟨answered, rfl⟩ := Program.yields_query.mp asked
    rcases Platform.answers_createConfigMap rfl (within _ _ _ _ answered) with
      ⟨_, _, -, -, impossible, -⟩ | ⟨-, -, n, rfl⟩
    · cases impossible
    · exact ⟨rfl, rfl, Or.inl ⟨⟨_, rfl⟩, ⟨fun _ => rfl, rfl⟩, rfl⟩⟩
  · obtain ⟨answered, rfl⟩ := Program.yields_query.mp asked
    obtain ⟨rfl, rfl, rfl⟩ := last
    rcases Platform.answers_createConfigMap rfl (within _ _ _ _ answered) with
      ⟨name, n, nonempty, free, same, rfl⟩ | ⟨-, ⟨_, impossible⟩, -⟩
    · cases same
      exact ⟨rfl, rfl, Or.inr ⟨name, _, rfl, nonempty, free, rfl, rfl⟩⟩
    · cases impossible

/-- A config map that is written over keeps its name. -/
theorem sameRollout_of_replaceConfigMap {ns : String} {object : ConfigMap}
    {answer : Except StoreError ConfigMap}
    (answered : P.Answers (.replaceConfigMap ns object) c answer c') : c.SameRollout c' := by
  rcases answered with ⟨shelf, settled, rfl⟩ | ⟨-, -, n, rfl⟩
  · unfold Shelf.Settles Shelf.overwrite at settled
    by_cases present : c.configMaps.contains ⟨ns, object.metadata.nameText⟩ = true
    · rw [if_pos present] at settled
      obtain ⟨-, rfl⟩ := settled
      refine ⟨fun key => Bool.eq_iff_iff.mpr (Dict.contains_insert_iff.trans ⟨?_, Or.inr⟩), rfl⟩
      rintro (rfl | there)
      · exact present
      · exact there
    · rw [if_neg present] at settled
      obtain ⟨-, rfl⟩ := settled
      exact .refl _
  · exact ⟨fun _ => rfl, rfl⟩

/-- Making sure that a config map holds a document keeps the names of all config maps. -/
theorem refreshConfigMap_ends (within : answers.Within P) {object : ConfigMap} {document : String}
    {r : Except Failure GeneratedConfigMap}
    (run : (g.refreshConfigMap object document).run.Yields answers c t r c') :
    c.SameRollout c' ∧ t.Plain ∧
      ∀ configMap, r = .ok configMap →
        configMap = ⟨object.metadata.nameText, configVersion document, false⟩ := by
  unfold Gateway.refreshConfigMap at run
  split at run
  · obtain ⟨rfl, rfl, rfl⟩ := run
    refine ⟨.refl _, ⟨rfl, rfl⟩, ?_⟩
    rintro configMap ⟨⟩
    rfl
  · rcases Attempt.yields_ofStore_bind.mp run with
      ⟨why, asked, rfl⟩ | ⟨_, c₁, _, _, asked, last, rfl⟩
    · obtain ⟨answered, rfl⟩ := Program.yields_query.mp asked
      refine ⟨sameRollout_of_replaceConfigMap (within _ _ _ _ answered), ⟨rfl, rfl⟩, ?_⟩
      intro configMap impossible
      cases impossible
    · obtain ⟨answered, rfl⟩ := Program.yields_query.mp asked
      obtain ⟨rfl, rfl, rfl⟩ := last
      refine ⟨sameRollout_of_replaceConfigMap (within _ _ _ _ answered), ⟨rfl, rfl⟩, ?_⟩
      rintro configMap ⟨⟩
      rfl

/-- What making sure of the config map may come to. -/
structure EnsuringEnds (answers : Responder Cluster) (g : Gateway) (live : Option Deployment)
    (document : String) (c : Cluster) (t : Transcript) (r : Except Failure GeneratedConfigMap)
    (c' : Cluster) : Prop where
  /-- The workloads are as before. -/
  deployments : c'.deployments = c.deployments
  /-- No status is written. -/
  unwritten : t.writtenStatuses = []
  /-- It fails and no config map comes or goes, or it succeeds. -/
  ends : (∃ e, r = .error e) ∧ c.SameRollout c' ∧ t.madeConfigMaps = [] ∨
    ∃ configMap, r = .ok configMap ∧ configMap.version = configVersion document ∧
      Serves answers g live c.configMaps t configMap c'.configMaps

/-- A config map is made where none was found. -/
theorem createConfigMap_ensuringEnds (within : answers.Within P) {live : Option Deployment}
    {document : String} {r : Except Failure GeneratedConfigMap} (plain : before.Plain)
    (same : c.SameObjects mid)
    (missing : ∀ current ∈ g.currentConfigMap? live,
      Unfound answers g.namespaceText c.configMaps before current)
    (run : (g.createConfigMap document).run.Yields answers mid after r c') :
    EnsuringEnds answers g live document c (before ++ after) r c' := by
  obtain ⟨n, rfl⟩ := same
  obtain ⟨deployments, unwritten, refused | ⟨name, object, rfl, nonempty, free, made, stored⟩⟩ :=
    createConfigMap_ends within run
  · obtain ⟨failed, same, unmade⟩ := refused
    refine ⟨deployments, by simp [plain.unwritten, unwritten], Or.inl ⟨failed, ?_, ?_⟩⟩
    · exact ⟨same.names, same.deployments⟩
    · simp [plain.unmade, unmade]
  · refine ⟨deployments, by simp [plain.unwritten, unwritten], Or.inr ⟨_, rfl, rfl, ?_⟩⟩
    refine .made (fun current known => (missing current known).mono ?_) nonempty free ?_ stored
    · exact fun x mem => List.mem_append_left _ mem
    · rw [Transcript.madeConfigMaps_append, plain.unmade, made, List.nil_append]

/-- Every run of making sure of the config map ends in one of these ways. -/
theorem ensureConfigMap_ensuringEnds (within : answers.Within P) {live : Option Deployment}
    {document : String} {r : Except Failure GeneratedConfigMap}
    (run : (g.ensureConfigMap live document).run.Yields answers c t r c') (kept : c.WellKept) :
    EnsuringEnds answers g live document c t r c' := by
  unfold Gateway.ensureConfigMap Gateway.findConfigMap at run
  cases current : g.currentConfigMap? live with
  | none =>
    rw [current] at run
    rcases Attempt.yields_bind.mp run with
      ⟨e, -, -, impossible, -⟩ | ⟨_, _, _, _, ⟨rfl, same, rfl⟩, run₁, rfl⟩
    · cases impossible
    cases same
    have plain : Transcript.Plain [] := ⟨rfl, rfl⟩
    exact createConfigMap_ensuringEnds within plain (.refl _) (by simp [current]) run₁
  | some name =>
    rw [current] at run
    rcases Attempt.yields_bind.mp run with ⟨e, rfl, read⟩ | ⟨found, mid, _, _, read, run₁, rfl⟩
    · obtain ⟨same, plain, -⟩ := yields_seesConfigMap within read
      exact ⟨same.sameStock.deployments, plain.unwritten,
        Or.inl ⟨⟨e, rfl⟩, same.sameStock.sameRollout, plain.unmade⟩⟩
    obtain ⟨same, plain, there, missing⟩ := yields_seesConfigMap within read
    cases found with
    | none =>
      refine createConfigMap_ensuringEnds within plain same (fun other known => ?_) run₁
      cases current.symm.trans known
      exact missing rfl
    | some object =>
      have there := there object rfl
      obtain ⟨refreshed, plain', served⟩ := refreshConfigMap_ends within run₁
      have same := same.sameStock.sameRollout.trans refreshed
      refine ⟨same.deployments, (plain.append plain').unwritten, ?_⟩
      cases r with
      | error e => exact Or.inl ⟨⟨e, rfl⟩, same, (plain.append plain').unmade⟩
      | ok configMap =>
        have named : object.metadata.nameText = name := kept.configMaps _ _ there
        have served := served configMap rfl
        rw [named] at served
        subst served
        exact Or.inr ⟨_, rfl, rfl, .found current there (plain.append plain').unmade same.names⟩

end GatewayOperator
