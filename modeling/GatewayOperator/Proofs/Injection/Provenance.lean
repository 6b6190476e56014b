import GatewayOperator.Proofs.Injection.Removals

/-!
# Where removed objects come from

Reviews remove services and config maps by the names that stored workloads record, and clients may
write these names as they like.  So whatever a review removes was made by this review or an earlier
one, or a client has written its name.

## Main Definitions

* `Handling` — a request that was handled, and what was asked of the cluster meanwhile.
* `Site.Serves`, `Site.Logs` — requests of any kind are handled one after another.
* `Site.Explains` — where the name of a removed object may come from.

## Main Statements

* `Site.Serves.records` — one request adds to what is recorded only what it made or what it wrote.
* `Site.removals_explained` — every removal of every request is explained by what happened up to it.
* `sharedSite_loses_configMap` — an object that no review has made is removed once its name was
  written.

## Design Notes

Clients submit what they like here, unlike in the runs of `Site.Reaches`, and the cluster may refuse
to store what was admitted.  An annotation that does not concern a part of a gateway can be changed
without any review noticing, so a written name may take effect much later.
-/

namespace GatewayOperator

/-- A request that was handled, and what was asked of the cluster meanwhile. -/
structure Handling where
  /-- The request. -/
  request : AdmissionRequest
  /-- What was asked and answered. -/
  transcript : Transcript

/-- A client writes the name of a service or config map with a request for a workload. -/
def Handling.Writes (h : Handling) (x : Companion) (key : ObjectKey) : Prop :=
  ∃ kind, WorkloadKind.ofName? h.request.kind = some kind ∧ h.request.Writes kind x key

variable {P : Platform} {s s' : Site} {w : WorkloadKey} {request : AdmissionRequest}
  {submitted : Option Json} {log before after : List Handling} {h : Handling} {x : Companion}
  {key : ObjectKey}

namespace Site

/-- A stored workload records the name of a service or config map. -/
def Records (s : Site) (x : Companion) (key : ObjectKey) : Prop :=
  ∃ w, w.namespace_ = key.namespace_ ∧ x.nameIn w.kind (s.workloads w) = some key.name

/-- What is submitted for a workload, in requests that say what was stored of it. -/
inductive Delivers (s : Site) (w : WorkloadKey) (request : AdmissionRequest) : Option Json → Prop
  /-- A new workload, whatever its annotations are. -/
  | create (operation : request.operation = .create) (former : request.oldObject = none) :
      Delivers s w request request.object
  /-- A change of a stored workload, whatever is changed. -/
  | update (operation : request.operation = .update) (former : request.oldObject = s.workloads w) :
      Delivers s w request request.object
  /-- The end of a stored workload. -/
  | delete (operation : request.operation = .delete) (former : request.oldObject = s.workloads w) :
      Delivers s w request none

/-- One request is handled, under either policy and however the cluster and its network answer. -/
inductive Serves (P : Platform) (s : Site) : Handling → Site → Prop
  /-- A workload of a kind that is reviewed is stored as it was answered, or stays as it was because
  something else keeps it from being stored. -/
  | reviewed {policy : FailurePolicy} {request : AdmissionRequest} {w : WorkloadKey}
      {submitted stored : Option Json} {t : Transcript} {response : AdmissionResponse}
      {c' : Cluster}
      (kind : WorkloadKind.ofName? request.kind = some w.kind)
      (located : request.namespace_.getD "" = w.namespace_)
      (named : request.name = w.name ∨ request.name = "")
      (delivers : s.Delivers w request submitted)
      (run : (decideAdmission policy request).Yields P.Answers s.cluster t response c')
      (outcome : stored = response.stored (s.workloads w) submitted ∨ stored = s.workloads w) :
      Serves P s ⟨request, t⟩ (s.after w t stored c')
  /-- Objects of other kinds are stored elsewhere, and nothing is stored when something is only
  connected to. -/
  | idle {policy : FailurePolicy} {request : AdmissionRequest} {t : Transcript}
      {response : AdmissionResponse} {c' : Cluster}
      (idle : WorkloadKind.ofName? request.kind = none ∨ request.operation = .connect)
      (run : (decideAdmission policy request).Yields P.Answers s.cluster t response c') :
      Serves P s ⟨request, t⟩ { s with cluster := c' }

/-- Requests are handled one after another. -/
inductive Logs (P : Platform) (s : Site) : List Handling → Site → Prop
  /-- None is. -/
  | nil : Logs P s [] s
  /-- One more is. -/
  | snoc {log : List Handling} {s' s'' : Site} {h : Handling} (logs : Logs P s log s')
      (serves : s'.Serves P h s'') : Logs P s (log ++ [h]) s''

/-- Where the name of a service or config map may come from. -/
inductive Explains (s : Site) (log : List Handling) (x : Companion) (key : ObjectKey) : Prop
  /-- The object was made while a request was handled. -/
  | made {h : Handling} (mem : h ∈ log) (made : key ∈ x.made h.transcript)
  /-- A client has written the name. -/
  | written {h : Handling} (mem : h ∈ log) (writes : h.Writes x key)
  /-- The name was recorded from the beginning. -/
  | found (records : s.Records x key)

theorem Explains.mono {log' : List Handling} (explains : s.Explains log x key)
    (part : ∀ h ∈ log, h ∈ log') : s.Explains log' x key := by
  cases explains with
  | made mem made => exact .made (part _ mem) made
  | written mem writes => exact .written (part _ mem) writes
  | found records => exact .found records

/-- What explained a name so far still does after one more request. -/
theorem Explains.snoc
    (known : key ∈ x.made h.transcript ∨ h.Writes x key ∨ s.Explains log x key) :
    s.Explains (log ++ [h]) x key := by
  have last : h ∈ log ++ [h] := List.mem_append_right _ (List.mem_singleton_self h)
  rcases known with made | writes | before
  · exact .made last made
  · exact .written last writes
  · exact before.mono fun _ mem => List.mem_append_left _ mem

/-! ### One request -/

/-- A name that the workload recorded according to a request is one that is stored. -/
theorem Delivers.records (delivers : s.Delivers w request submitted)
    (located : request.namespace_.getD "" = w.namespace_) (names : request.Names w.kind x key) :
    s.Records x key := by
  obtain ⟨here, recorded⟩ := names
  cases delivers with
  | create _ former =>
    rw [former] at recorded
    cases recorded
  | update _ former =>
    rw [former] at recorded
    exact ⟨w, located.symm.trans here, recorded⟩
  | delete _ former =>
    rw [former] at recorded
    exact ⟨w, located.symm.trans here, recorded⟩

theorem Delivers.present (delivers : s.Delivers w request submitted) {object : Json}
    (present : submitted = some object) : request.object = some object := by
  cases delivers with
  | create => exact present
  | update => exact present
  | delete => cases present

/-- A name in what is submitted was recorded before or is written. -/
theorem Delivers.writes_or_records (delivers : s.Delivers w request submitted)
    (kind : WorkloadKind.ofName? request.kind = some w.kind)
    (located : request.namespace_.getD "" = w.namespace_) {t : Transcript}
    (here : w.namespace_ = key.namespace_) (recorded : x.nameIn w.kind submitted = some key.name) :
    Handling.Writes ⟨request, t⟩ x key ∨ s.Records x key := by
  have submits (operation : request.operation = .create ∨ request.operation = .update)
      (recorded : x.nameIn w.kind request.object = some key.name) :
      Handling.Writes ⟨request, t⟩ x key ∨ s.Records x key := by
    rcases AdmissionRequest.names_or_writes operation (located.trans here) recorded with
      writes | names
    · exact Or.inl ⟨w.kind, kind, writes⟩
    · exact Or.inr (delivers.records located names)
  cases delivers with
  | create operation former => exact submits (Or.inl operation) recorded
  | update operation former => exact submits (Or.inr operation) recorded
  | delete operation former => cases recorded

/-- The outcome of a review is counted, which makes and removes nothing. -/
theorem counted (x : Companion) (t : Transcript) (q : Measurement) :
    x.made (t ++ [⟨.measure q, ()⟩]) = x.made t ∧
      x.removed (t ++ [⟨.measure q, ()⟩]) = x.removed t := by
  rw [Companion.made_append, Companion.removed_append]
  cases x <;> exact ⟨List.append_nil _, List.append_nil _⟩

/-- What is stored after a review records what was made for it, or what was recorded in what was
submitted or stored before. -/
theorem stored_names {kind : WorkloadKind} {c c' : Cluster} {t : Transcript}
    {r : Except Failure Mutation} {policy : FailurePolicy} {former : Option Json} {n : String}
    (known : WorkloadKind.ofName? request.kind = some kind)
    (reviewing : (review request).run.Yields P.Answers c t r c')
    (present : ∀ object, submitted = some object → request.object = some object)
    (recorded : x.nameIn kind ((policy.answer r).stored former submitted) = some n) :
    ⟨request.namespace_.getD "", n⟩ ∈ x.made t ∨ x.nameIn kind submitted = some n ∨
      x.nameIn kind former = some n := by
  by_cases patched : ∃ patch, r = .ok (.patch patch)
  · obtain ⟨patch, rfl⟩ := patched
    replace recorded : x.nameIn kind ((submitted.bind patch.apply).or former) = some n := recorded
    cases patching : submitted.bind patch.apply with
    | none =>
      rw [patching] at recorded
      exact Or.inr (Or.inr recorded)
    | some object' =>
      rw [patching] at recorded
      obtain ⟨object, rfl, applied⟩ := Option.bind_eq_some_iff.mp patching
      have asked := present object rfl
      rw [← asked]
      exact (review_names known reviewing asked applied recorded).imp_right Or.inl
  · have unpatched : ∀ patch, r ≠ .ok (.patch patch) := fun patch same => patched ⟨patch, same⟩
    rcases stored_of_unpatched unpatched former submitted with same | same
    · rw [same] at recorded
      exact Or.inr (Or.inl recorded)
    · rw [same] at recorded
      exact Or.inr (Or.inr recorded)

/-- One request adds to what is recorded only what was made for it or what it writes. -/
theorem Serves.records (serves : s.Serves P h s') (recorded : s'.Records x key) :
    key ∈ x.made h.transcript ∨ h.Writes x key ∨ s.Records x key := by
  cases serves with
  | idle idle run => exact Or.inr (Or.inr recorded)
  | @reviewed policy request w submitted stored t response c' kind located named delivers run
      outcome =>
    obtain ⟨v, there, recorded⟩ := recorded
    by_cases own : v = w
    · subst own
      rw [show (s.after v t stored c').workloads v = stored from if_pos rfl] at recorded
      obtain ⟨r, reviewed, _, reviewing, rfl, rfl⟩ := decideAdmission_yields run
      rcases outcome with rfl | rfl
      · rcases stored_names kind reviewing (fun _ => delivers.present) recorded with
          made | now | before
        · rw [located, there] at made
          rw [(counted x _ _).1]
          exact Or.inl made
        · exact Or.inr (delivers.writes_or_records kind located there now)
        · exact Or.inr (Or.inr ⟨v, there, before⟩)
      · exact Or.inr (Or.inr ⟨v, there, recorded⟩)
    · rw [show (s.after w t stored c').workloads v = s.workloads v from if_neg own] at recorded
      exact Or.inr (Or.inr ⟨v, there, recorded⟩)

/-- One request removes only what was made for it, what it writes, or what is recorded. -/
theorem Serves.removed (serves : s.Serves P h s') (removed : key ∈ x.removed h.transcript) :
    key ∈ x.made h.transcript ∨ h.Writes x key ∨ s.Records x key := by
  cases serves with
  | idle idle run =>
    obtain ⟨r, reviewed, _, reviewing, rfl, rfl⟩ := decideAdmission_yields run
    obtain rfl := review_of_idle idle reviewing
    rw [(counted x _ _).2] at removed
    cases removed
  | @reviewed policy request w submitted stored t response c' kind located named delivers run
      outcome =>
    obtain ⟨r, reviewed, _, reviewing, rfl, rfl⟩ := decideAdmission_yields run
    rw [(counted x _ _).2] at removed
    rw [(counted x _ _).1]
    rcases review_removesOnly kind reviewing x key removed with made | writes | names
    · exact Or.inl made
    · exact Or.inr (Or.inl ⟨w.kind, kind, writes⟩)
    · exact Or.inr (Or.inr (delivers.records located names))

/-! ### Runs of any length -/

/-- What is recorded is explained by what happened so far. -/
theorem Logs.records (logs : s.Logs P log s') (recorded : s'.Records x key) :
    s.Explains log x key := by
  induction logs with
  | nil => exact .found recorded
  | snoc _ serves ih => exact .snoc ((serves.records recorded).imp_right (Or.imp_right ih))

end Site

/-! ### A name that a client has written -/

/-- A workload without annotations. -/
def silentWorkload : Json := sampleWorkload []

/-- The same workload with a recorded config map. -/
def namingWorkload : Json := sampleWorkload [("configMapName", "settings")]

/-- A request for the workload. -/
def requestFor (operation : AdmissionOperation) (object oldObject : Option Json) :
    AdmissionRequest :=
  { requestWithoutImage with operation, object, oldObject }

/-- A request that was let through without being acted on. -/
def Handling.letThrough (request : AdmissionRequest) : Handling :=
  ⟨request, [⟨.measure (.admission request.operation.label .allowed), ()⟩]⟩

/-- The end of the workload, with which the recorded config map goes. -/
def Handling.lastOne : Handling where
  request := requestFor .delete none (some namingWorkload)
  transcript := [⟨.deleteConfigMap "apps" "settings", .ok ()⟩,
    ⟨.measure (.admission AdmissionOperation.delete.label .allowed), ()⟩]

/-- The workload is created, the name is written, and the workload is deleted. -/
def sharedHistory : List Handling :=
  [.letThrough (requestFor .create (some silentWorkload) none),
    .letThrough (requestFor .update (some namingWorkload) (some silentWorkload)), .lastOne]

/-- A site with a config map of someone else. -/
def sharedSite : Site :=
  { vacantSite with
    cluster.configMaps :=
      Dict.ofList [(⟨"apps", "settings"⟩, ⟨{ name := some "settings" }, none⟩)] }

theorem yields_letThrough {policy : FailurePolicy} {c : Cluster}
    (allowed : review request = pure .allow) :
    (decideAdmission policy request).Yields P.Answers c
      [⟨.measure (.admission request.operation.label .allowed), ()⟩] .allow c := by
  unfold decideAdmission
  rw [allowed]
  exact ⟨(), c, [], Or.inl rfl, rfl, rfl, rfl, rfl⟩

theorem Site.serves_letThrough (kind : WorkloadKind.ofName? request.kind = some w.kind)
    (located : request.namespace_.getD "" = w.namespace_) (named : request.name = w.name)
    (delivers : s.Delivers w request submitted) (allowed : review request = pure .allow) :
    s.Serves P (.letThrough request)
      (s.after w (Handling.letThrough request).transcript submitted s.cluster) :=
  .reviewed kind located (Or.inl named) delivers
    (yields_letThrough allowed : (decideAdmission .fail request).Yields _ _ _ _ _) (Or.inl rfl)

/-- The config map goes with the workload. -/
theorem sharedSite_logs : ∃ s', sharedSite.Logs secludedPlatform sharedHistory s' ∧
    ¬s'.cluster.configMaps.Holds ⟨"apps", "settings"⟩ := by
  let w : WorkloadKey := ⟨.deployment, "apps", "edge"⟩
  let create := requestFor .create (some silentWorkload) none
  let update := requestFor .update (some namingWorkload) (some silentWorkload)
  let s₁ := sharedSite.after w (Handling.letThrough create).transcript (some silentWorkload)
    sharedSite.cluster
  let s₂ := s₁.after w (Handling.letThrough update).transcript (some namingWorkload) s₁.cluster
  have first : sharedSite.Serves secludedPlatform (.letThrough create) s₁ :=
    Site.serves_letThrough rfl rfl rfl (.create rfl rfl) rfl
  have second : s₁.Serves secludedPlatform (.letThrough update) s₂ :=
    Site.serves_letThrough rfl rfl rfl (.update rfl rfl) rfl
  -- The last review finds the name in what is stored.
  have run : (decideAdmission .fail Handling.lastOne.request).Yields secludedPlatform.Answers
      s₂.cluster Handling.lastOne.transcript .allow { s₂.cluster with configMaps := ∅ } := by
    have deleted : secludedPlatform.Answers (.deleteConfigMap "apps" "settings") s₂.cluster (.ok ())
        { s₂.cluster with configMaps := ∅ } :=
      Or.inl ⟨∅, ⟨rfl, rfl⟩, rfl⟩
    exact ⟨.ok (), _, _, deleted, rfl, (), _, [], Or.inl rfl, rfl, rfl, rfl, rfl⟩
  have third : s₂.Serves secludedPlatform .lastOne
      (s₂.after w Handling.lastOne.transcript none { s₂.cluster with configMaps := ∅ }) :=
    .reviewed rfl rfl (Or.inl rfl) (.delete rfl rfl) run (Or.inl rfl)
  refine ⟨_, .snoc (.snoc (.snoc .nil first) second) third, ?_⟩
  rintro ⟨object, found⟩
  cases found

/-! ### Every removal -/

/-- **Removals are explained.**  Whatever requests are handled, under either policy and however they
are answered, every service and config map whose removal a request asks for was made for this
request or an earlier one, or a client wrote its name with one of these, or a workload recorded it
from the beginning. -/
theorem Site.removals_explained (logs : s.Logs P log s') (split : log = before ++ h :: after)
    (x : Companion) (removed : key ∈ x.removed h.transcript) :
    s.Explains (before ++ [h]) x key := by
  induction logs generalizing after with
  | nil => simp at split
  | @snoc log s' s'' h' logs serves ih =>
    rcases List.eq_nil_or_concat after with rfl | ⟨rest, last, rfl⟩
    · -- The last request removes what is recorded by then.
      obtain ⟨rfl, same⟩ := List.append_inj' split rfl
      cases same
      exact .snoc ((serves.removed removed).imp_right (Or.imp_right logs.records))
    · have shorter : log = before ++ h :: rest := by
        rw [List.concat_eq_append, ← List.cons_append, ← List.append_assoc] at split
        exact (List.append_inj' split rfl).1
      exact ih shorter

/-- The end of the shared site's workload is explained by the name that was written before. -/
theorem sharedSite_removal_explained : ∃ s', sharedSite.Logs secludedPlatform sharedHistory s' ∧
    ⟨"apps", "settings"⟩ ∈ Companion.configMap.removed Handling.lastOne.transcript ∧
    sharedSite.Explains sharedHistory .configMap ⟨"apps", "settings"⟩ := by
  obtain ⟨s', logs, -⟩ := sharedSite_logs
  have split : sharedHistory = [_, _] ++ .lastOne :: [] := rfl
  have removed :
      ⟨"apps", "settings"⟩ ∈ Companion.configMap.removed Handling.lastOne.transcript := by
    decide
  exact ⟨s', logs, removed, Site.removals_explained logs split .configMap removed⟩

/-- **A name is enough.**  A config map that no review has made is removed, once a client has
written its name into an annotation. -/
theorem sharedSite_loses_configMap : ∃ s', sharedSite.Logs secludedPlatform sharedHistory s' ∧
    sharedSite.services = [] ∧ sharedSite.configMaps = [] ∧ (∀ w, sharedSite.workloads w = none) ∧
    ⟨"apps", "settings"⟩ ∈ Companion.configMap.removed Handling.lastOne.transcript ∧
    sharedSite.cluster.configMaps.Holds ⟨"apps", "settings"⟩ ∧
    ¬s'.cluster.configMaps.Holds ⟨"apps", "settings"⟩ ∧
    ∀ h ∈ sharedHistory, ∀ x, Companion.made x h.transcript = [] := by
  obtain ⟨s', logs, lost⟩ := sharedSite_logs
  refine ⟨s', logs, rfl, rfl, fun _ => rfl, by decide, ⟨_, rfl⟩, lost, ?_⟩
  intro h mem x
  simp only [sharedHistory, List.mem_cons, List.not_mem_nil, or_false] at mem
  rcases mem with rfl | rfl | rfl <;> cases x <;> rfl

end GatewayOperator
