import GatewayOperator.Proofs.Injection.Atomicity
import GatewayOperator.Proofs.Injection.Owners
import GatewayOperator.Proofs.Injection.PatchedWorkloads

/-!
# No orphans

Workloads are created, changed and deleted, one request after another.  What reviews have made for
them and have not removed is what the stored workloads record, after every request.

## Main Definitions

* `Site` — a cluster with its stored workloads, and what reviews have made so far.
* `Site.Submits` — what clients may submit for a workload.
* `Site.Handles` — one request is handled.
* `Site.Reaches` — requests are handled one after another.
* `Site.Tidy` — what was made and is still there is what the stored workloads record.

## Main Statements

* `Injects.stored`, `Refreshes.stored` — what is recorded after a patch was applied.
* `Site.Kept.follows_create` and its counterparts — the cluster changes as what is recorded.
* `Site.Kept.handles` — every request keeps objects owned.
* `Site.tidy_of_reaches` — nothing is ever orphaned.

## Design Notes

An object is owned by the one workload that records it.  This is kept because a new object gets a
name that is free, and what is recorded is never the name of an object that is gone.
-/

namespace GatewayOperator

open PatchOperation

variable {P : Platform} {kind : WorkloadKind} {ns name : String} {object : Json}
  {metadata : Metadata} {pod : PodSpec} {c c' : Cluster} {t : Transcript} {patch : Patch}

/-! ### Patched workloads -/

/-- The annotations of an object, none if it cannot be read. -/
def AdmittedObject.annotationsOf (kind : WorkloadKind) (object : Json) : TextMap :=
  ((AdmittedObject.parts? kind object).bind (·.1.annotations)).getD ∅

theorem AdmittedObject.Legible.annotationsOf
    (legible : AdmittedObject.Legible kind object metadata pod) :
    AdmittedObject.annotationsOf kind object = metadata.annotations.getD ∅ := by
  unfold AdmittedObject.Legible at legible
  unfold AdmittedObject.annotationsOf
  rw [legible]
  rfl

theorem AdmittedObject.Legible.decode (legible : AdmittedObject.Legible kind object metadata pod) :
    AdmittedObject.decode kind object = .ok ⟨metadata.annotations, pod⟩ := by
  unfold AdmittedObject.Legible at legible
  unfold AdmittedObject.decode
  rw [legible]
  rfl

/-- After an injection, a workload records what was made for it. -/
theorem Injects.stored (discards : P.Discards)
    (legible : AdmittedObject.Legible kind object metadata pod)
    (injects : Injects P kind name ns ⟨metadata.annotations, pod⟩ c t patch c') :
    ∃ object' metadata' pod' configMap, patch.apply object = some object' ∧
      AdmittedObject.Legible kind object' metadata' pod' ∧
      Annotations.configMapName? (metadata'.annotations.getD ∅) = some configMap ∧
      Shelf.Exchanged ns (Annotations.serviceName? (metadata'.annotations.getD ∅)) none
        t.madeServices c.services c'.services ∧
      Shelf.Exchanged ns (some configMap) none t.madeConfigMaps c.configMaps c'.configMaps := by
  cases injects with
  | @intro entries sources service configMap _ c₁ _ t₁ t₂ valid sourced offered written patched =>
    obtain ⟨a, annotated⟩ := annotated_of_validate valid
    dsimp only at annotated
    rw [annotated] at patched
    obtain ⟨container, object', -, applied, legible'⟩ := apply_createPatch legible annotated patched
    refine ⟨object', _, _, configMap, applied, legible', ?_, ?_, ?_⟩
    · exact configMapName?_injected a written.nonempty service
    · show Shelf.Exchanged ns (Annotations.serviceName?
        (updateAnnotations a (injectedNames service configMap))) _ _ _ _
      rw [serviceName?_injected a offered.nonempty, Transcript.madeServices_append,
        written.frame.2, List.append_nil]
      exact offered.exchanged discards written.frame.1 .absent
    · rw [Transcript.madeConfigMaps_append, offered.frame.2.2, List.nil_append,
        ← offered.frame.1]
      exact written.exchanged discards rfl .absent

/-- After a renewal, the cluster has changed as what the workload records. -/
theorem Refreshes.stored (discards : P.Discards)
    (legible : AdmittedObject.Legible kind object metadata pod) {previous : TextMap}
    (sameService : Annotations.serviceName? (metadata.annotations.getD ∅) =
      Annotations.serviceName? previous)
    (sameConfigMap : Annotations.configMapName? (metadata.annotations.getD ∅) =
      Annotations.configMapName? previous)
    (refreshes : Refreshes P kind name ns ⟨metadata.annotations, pod⟩ previous c t patch c') :
    ∃ object' metadata' pod', patch.apply object = some object' ∧
      AdmittedObject.Legible kind object' metadata' pod' ∧
      Shelf.Followed ns (Annotations.serviceName? previous)
        (Annotations.serviceName? (metadata'.annotations.getD ∅)) t.madeServices c.services
        c'.services ∧
      Shelf.Followed ns (Annotations.configMapName? previous)
        (Annotations.configMapName? (metadata'.annotations.getD ∅)) t.madeConfigMaps c.configMaps
        c'.configMaps := by
  cases refreshes with
  | @intro entries sources service configMap _ c₁ c₂ c₃ _ t₁ t₂ t₃ t₄ valid sourced offered written
      patched staleService staleConfigMap =>
    obtain ⟨a, annotated⟩ := annotated_of_validate valid
    obtain ⟨container, rendered⟩ := sidecarContainer_of_validate valid
      (SidecarNames.ofWorkload name kind)
    have formerService : formerService? ⟨metadata.annotations, pod⟩ previous = _ :=
      formerService?_of_same sameService
    have formerConfigMap : formerConfigMap? ⟨metadata.annotations, pod⟩ previous = _ :=
      formerConfigMap?_of_same sameConfigMap
    rw [ite_bind_nonEmpty? (formerService?_bind _ _), formerService] at staleService
    rw [ite_bind_nonEmpty? (formerConfigMap?_bind _ _), formerConfigMap] at staleConfigMap
    generalize refreshScope kind ⟨metadata.annotations, pod⟩ previous = scope
      at offered written patched staleService
    dsimp only at annotated
    rw [annotated] at offered rendered patched sameService sameConfigMap
    rw [Option.getD_some] at sameService sameConfigMap
    obtain ⟨object', applied, legible'⟩ := apply_updatePatch legible annotated rendered patched
    have recordedService := serviceName?_renewed a scope offered.nonempty configMap
    have recordedConfigMap := configMapName?_renewed a scope written.nonempty service
    rw [sameService] at recordedService
    rw [sameConfigMap] at recordedConfigMap
    refine ⟨object', _, _, applied, legible', ?_, ?_⟩
    · show Shelf.Followed ns _ (Annotations.serviceName?
        (updateAnnotations a (recordedNames scope service configMap))) _ _ _
      simp only [Transcript.madeServices_append, written.frame.2, staleService.unmade.1,
        staleConfigMap.unmade.1, List.append_nil]
      have untouched : c'.services = c₃.services := staleConfigMap.others .service (by decide)
      rw [recordedService, untouched]
      cases needed : scope.service with
      | true =>
        rw [needed, if_pos rfl] at staleService
        exact Or.inr (offered.exchanged discards written.frame.1 staleService)
      | false =>
        -- A service that is not made anew is not discarded either.
        rw [needed] at offered staleService
        cases offered
        cases staleService
        exact Or.inl ⟨rfl, written.frame.1, by simp [Transcript.madeServices]⟩
    · show Shelf.Followed ns _ (Annotations.configMapName?
        (updateAnnotations a (recordedNames scope service configMap))) _ _ _
      simp only [Transcript.madeConfigMaps_append, offered.frame.2.2, staleService.unmade.2,
        staleConfigMap.unmade.2, List.append_nil, List.nil_append]
      have untouched : c₃.configMaps = c₂.configMaps := staleService.others .configMap (by decide)
      rw [recordedConfigMap, ← offered.frame.1]
      cases configMap with
      | some configMap =>
        exact Or.inr (written.of_some.exchanged discards untouched staleConfigMap)
      | none =>
        -- Without a new config map the old one stays.
        obtain ⟨rfl, rfl⟩ := written.of_none
        cases staleConfigMap
        exact Or.inl ⟨rfl, untouched, by simp [Transcript.madeConfigMaps]⟩

/-! ### Sites -/

/-- A cluster with its stored workloads, and what reviews have made so far. -/
structure Site where
  /-- The cluster. -/
  cluster : Cluster
  /-- The stored workloads. -/
  workloads : WorkloadKey → Option Json
  /-- The services that were made, whether or not they are still there. -/
  services : List ObjectKey
  /-- The config maps that were made, whether or not they are still there. -/
  configMaps : List ObjectKey

/-- What is stored of a workload after a request, from what was stored before and what was
submitted. -/
def AdmissionResponse.stored (response : AdmissionResponse) (before submitted : Option Json) :
    Option Json :=
  match response with
  | .allow => submitted
  | .patch patch => (submitted.bind patch.apply).or before
  | .deny _ => before

/-- The service that is recorded in what is stored of a workload. -/
def serviceIn (kind : WorkloadKind) (stored : Option Json) : Option String :=
  stored.bind fun object => Annotations.serviceName? (AdmittedObject.annotationsOf kind object)

/-- The config map that is recorded in what is stored of a workload. -/
def configMapIn (kind : WorkloadKind) (stored : Option Json) : Option String :=
  stored.bind fun object => Annotations.configMapName? (AdmittedObject.annotationsOf kind object)

theorem AdmittedObject.Legible.serviceIn
    (legible : AdmittedObject.Legible kind object metadata pod) :
    serviceIn kind (some object) = Annotations.serviceName? (metadata.annotations.getD ∅) := by
  unfold GatewayOperator.serviceIn
  rw [Option.bind_some, legible.annotationsOf]

theorem AdmittedObject.Legible.configMapIn
    (legible : AdmittedObject.Legible kind object metadata pod) :
    configMapIn kind (some object) = Annotations.configMapName? (metadata.annotations.getD ∅) := by
  unfold GatewayOperator.configMapIn
  rw [Option.bind_some, legible.annotationsOf]

namespace Site

variable {s s' : Site} {w : WorkloadKey} {request : AdmissionRequest} {policy : FailurePolicy}
  {submitted stored : Option Json} {r : Except Failure Mutation}

/-- The service that a workload records. -/
def serviceOf (s : Site) (w : WorkloadKey) : Option String := serviceIn w.kind (s.workloads w)

/-- The config map that a workload records. -/
def configMapOf (s : Site) (w : WorkloadKey) : Option String := configMapIn w.kind (s.workloads w)

/-- The site after a run for a workload. -/
def after (s : Site) (w : WorkloadKey) (t : Transcript) (stored : Option Json) (c' : Cluster) :
    Site where
  cluster := c'
  workloads v := if v = w then stored else s.workloads v
  services := s.services ++ t.madeServices
  configMaps := s.configMaps ++ t.madeConfigMaps

/-- The annotations in which names are recorded are the same in two objects. -/
def SameRecords (kind : WorkloadKind) (object old : Json) : Prop :=
  ∀ key ∈ [WellKnown.serviceNameAnnotation, WellKnown.configMapNameAnnotation],
    (AdmittedObject.annotationsOf kind object).get? key =
      (AdmittedObject.annotationsOf kind old).get? key

/-- What clients may submit for a workload: they leave the recorded names alone. -/
inductive Submits (s : Site) (w : WorkloadKey) (request : AdmissionRequest) :
    Option Json → Prop
  /-- A workload that is not stored yet, without recorded names. -/
  | create {object : Json} {metadata : Metadata} {pod : PodSpec}
      (operation : request.operation = .create) (present : request.object = some object)
      (new : s.workloads w = none) (legible : AdmittedObject.Legible w.kind object metadata pod)
      (unrecorded : ∀ key ∈ [WellKnown.serviceNameAnnotation, WellKnown.configMapNameAnnotation],
        (AdmittedObject.annotationsOf w.kind object).get? key = none) :
      Submits s w request (some object)
  /-- A stored workload with the names that it has. -/
  | update {object old : Json} {metadata : Metadata} {pod : PodSpec}
      (operation : request.operation = .update) (present : request.object = some object)
      (former : request.oldObject = some old) (stored : s.workloads w = some old)
      (legible : AdmittedObject.Legible w.kind object metadata pod)
      (same : SameRecords w.kind object old) :
      Submits s w request (some object)
  /-- The end of a stored workload. -/
  | delete {old : Json} (operation : request.operation = .delete)
      (former : request.oldObject = some old) (stored : s.workloads w = some old) :
      Submits s w request none

/-- One request is handled, under either policy and however the cluster and its network answer. -/
inductive Handles (P : Platform) (s : Site) : Site → Prop
  /-- The request is answered, and what it asks for is stored accordingly.  The name of a workload
  may be left to the cluster. -/
  | intro {policy : FailurePolicy} {request : AdmissionRequest} {w : WorkloadKey}
      {submitted : Option Json} {t : Transcript} {response : AdmissionResponse} {c' : Cluster}
      (kind : WorkloadKind.ofName? request.kind = some w.kind)
      (located : request.namespace_.getD "" = w.namespace_)
      (named : request.name = w.name ∨ request.name = "")
      (submits : s.Submits w request submitted)
      (run : (decideAdmission policy request).Yields P.Answers s.cluster t response c') :
      Handles P s (s.after w t (response.stored (s.workloads w) submitted) c')

/-- Requests are handled one after another. -/
inductive Reaches (P : Platform) (s : Site) : Site → Prop
  /-- None is. -/
  | refl : Reaches P s s
  /-- One more is. -/
  | step {s' s'' : Site} (reaches : Reaches P s s') (handles : s'.Handles P s'') : Reaches P s s''

/-- Nothing was made yet, and no stored workload records anything. -/
structure Untouched (s : Site) : Prop where
  /-- No service was made. -/
  services : s.services = []
  /-- No config map was made. -/
  configMaps : s.configMaps = []
  /-- Stored workloads can be read. -/
  legible : ∀ w object, s.workloads w = some object →
    ∃ metadata pod, AdmittedObject.Legible w.kind object metadata pod
  /-- No service is recorded. -/
  noService : ∀ w, s.serviceOf w = none
  /-- No config map is recorded. -/
  noConfigMap : ∀ w, s.configMapOf w = none

/-- What was made and is still there is what the stored workloads record, each object by one of them
only. -/
structure Tidy (s : Site) : Prop where
  /-- So are the services. -/
  services : Shelf.Owned s.services s.cluster.services s.serviceOf
  /-- So are the config maps. -/
  configMaps : Shelf.Owned s.configMaps s.cluster.configMaps s.configMapOf

/-- What every request keeps. -/
structure Kept (s : Site) : Prop extends s.Tidy where
  /-- Stored workloads can be read. -/
  legible : ∀ w object, s.workloads w = some object →
    ∃ metadata pod, AdmittedObject.Legible w.kind object metadata pod
  /-- Where nothing is reviewed, nothing is recorded. -/
  ignored : ∀ w, WellKnown.ignoredNamespaces.contains w.namespace_ = true →
    s.serviceOf w = none ∧ s.configMapOf w = none

theorem Untouched.kept (untouched : s.Untouched) : s.Kept := by
  refine ⟨⟨⟨fun key => ?_, ?_⟩, ⟨fun key => ?_, ?_⟩⟩, untouched.legible, ?_⟩
  · simp [untouched.services, untouched.noService]
  · simp [untouched.noService]
  · simp [untouched.configMaps, untouched.noConfigMap]
  · simp [untouched.noConfigMap]
  · exact fun w _ => ⟨untouched.noService w, untouched.noConfigMap w⟩

/-! ### What one request keeps -/

/-- What becomes of a workload, and of the cluster as what it records. -/
structure Follows (s : Site) (w : WorkloadKey) (t : Transcript) (stored : Option Json)
    (c' : Cluster) : Prop where
  /-- What is stored can be read. -/
  legible : ∀ object ∈ stored, ∃ metadata pod, AdmittedObject.Legible w.kind object metadata pod
  /-- Where nothing is reviewed, nothing is recorded. -/
  ignored : WellKnown.ignoredNamespaces.contains w.namespace_ = true →
    serviceIn w.kind stored = none ∧ configMapIn w.kind stored = none
  /-- The services change as the one that is recorded. -/
  services : Shelf.Followed w.namespace_ (s.serviceOf w) (serviceIn w.kind stored) t.madeServices
    s.cluster.services c'.services
  /-- The config maps change as the one that is recorded. -/
  configMaps : Shelf.Followed w.namespace_ (s.configMapOf w) (configMapIn w.kind stored)
    t.madeConfigMaps s.cluster.configMaps c'.configMaps

/-- Everything is kept where the cluster changes as what one workload records. -/
theorem Kept.after (kept : s.Kept) (follows : s.Follows w t stored c') :
    (s.after w t stored c').Kept := by
  have here : (s.after w t stored c').workloads w = stored := if_pos rfl
  have there {v : WorkloadKey} (other : v ≠ w) :
      (s.after w t stored c').workloads v = s.workloads v := if_neg other
  constructor
  · constructor
    · refine kept.services.follow follows.services ?_ fun v other => ?_
      · unfold serviceOf
        rw [here]
      · unfold serviceOf
        rw [there other]
    · refine kept.configMaps.follow follows.configMaps ?_ fun v other => ?_
      · unfold configMapOf
        rw [here]
      · unfold configMapOf
        rw [there other]
  · intro v object found
    by_cases own : v = w
    · subst own
      rw [here] at found
      exact follows.legible object found
    · rw [there own] at found
      exact kept.legible v object found
  · intro v ignored
    unfold serviceOf configMapOf
    by_cases own : v = w
    · subst own
      rw [here]
      exact follows.ignored ignored
    · rw [there own]
      exact kept.ignored v ignored

/-- Where a review does not patch, a workload is stored as it was submitted or stays as it was. -/
theorem stored_of_unpatched (unpatched : ∀ patch, r ≠ .ok (.patch patch))
    (before submitted : Option Json) :
    (policy.answer r).stored before submitted = submitted ∨
      (policy.answer r).stored before submitted = before := by
  rcases r with failure | (_ | patch)
  · cases policy with
    | fail => exact Or.inr rfl
    | ignore => exact Or.inl rfl
  · exact Or.inl rfl
  · exact absurd rfl (unpatched patch)

theorem stored_of_patched {object object' : Json} (applied : patch.apply object = some object')
    (before : Option Json) :
    (policy.answer (.ok (.patch patch))).stored before (some object) = some object' := by
  show (patch.apply object).or before = some object'
  rw [applied]
  rfl

/-- A withdrawn attempt changes nothing, if what is submitted records what is stored. -/
theorem Kept.follows_of_withdrawn (kept : s.Kept) (discards : P.Discards)
    (withdrawn : Withdrawn P s.cluster t c')
    (legible : ∀ object ∈ submitted, ∃ metadata pod,
      AdmittedObject.Legible w.kind object metadata pod)
    (sameService : serviceIn w.kind submitted = s.serviceOf w)
    (sameConfigMap : configMapIn w.kind submitted = s.configMapOf w)
    (either : stored = submitted ∨ stored = s.workloads w) : s.Follows w t stored c' := by
  have removes : P.Removes t := Or.inl discards
  have service : serviceIn w.kind stored = s.serviceOf w := by
    rcases either with rfl | rfl
    · exact sameService
    · rfl
  have configMap : configMapIn w.kind stored = s.configMapOf w := by
    rcases either with rfl | rfl
    · exact sameConfigMap
    · rfl
  constructor
  · intro object mem
    rcases either with rfl | rfl
    · exact legible object mem
    · exact kept.legible w object mem
  · rw [service, configMap]
    exact kept.ignored w
  · exact Or.inl ⟨service, withdrawn.services.unchanged removes, withdrawn.freshServices⟩
  · exact Or.inl ⟨configMap, withdrawn.configMaps.unchanged removes, withdrawn.freshConfigMaps⟩

theorem serviceIn_eq_none {kind : WorkloadKind} {object : Json}
    (unrecorded : ∀ key ∈ [WellKnown.serviceNameAnnotation, WellKnown.configMapNameAnnotation],
      (AdmittedObject.annotationsOf kind object).get? key = none) :
    serviceIn kind (some object) = none ∧ configMapIn kind (some object) = none := by
  unfold serviceIn configMapIn Annotations.serviceName? Annotations.configMapName?
    Annotations.nonEmpty?
  rw [Option.bind_some, Option.bind_some, unrecorded _ (by simp), unrecorded _ (by simp)]
  exact ⟨rfl, rfl⟩

theorem SameRecords.recorded {kind : WorkloadKind} {object old : Json}
    (same : SameRecords kind object old) :
    serviceIn kind (some object) = serviceIn kind (some old) ∧
      configMapIn kind (some object) = configMapIn kind (some old) := by
  unfold serviceIn configMapIn Annotations.serviceName? Annotations.configMapName?
    Annotations.nonEmpty?
  simp only [Option.bind_some]
  rw [same _ (by simp), same _ (by simp)]
  exact ⟨rfl, rfl⟩

/-- What a stored workload records stands in its annotations. -/
theorem recorded_of_legible {object : Json} (found : s.workloads w = some object)
    (legible : AdmittedObject.Legible w.kind object metadata pod) :
    s.serviceOf w = Annotations.serviceName? (metadata.annotations.getD ∅) ∧
      s.configMapOf w = Annotations.configMapName? (metadata.annotations.getD ∅) := by
  unfold serviceOf configMapOf
  rw [found]
  exact ⟨legible.serviceIn, legible.configMapIn⟩

/-- A workload that is patched is stored with the patch, and its cluster changes as what the patch
records. -/
theorem follows_of_patched {object object' : Json}
    (seen : WellKnown.ignoredNamespaces.contains w.namespace_ = false)
    (applied : patch.apply object = some object')
    (legible : AdmittedObject.Legible w.kind object' metadata pod)
    (services : Shelf.Followed w.namespace_ (s.serviceOf w)
      (Annotations.serviceName? (metadata.annotations.getD ∅)) t.madeServices s.cluster.services
      c'.services)
    (configMaps : Shelf.Followed w.namespace_ (s.configMapOf w)
      (Annotations.configMapName? (metadata.annotations.getD ∅)) t.madeConfigMaps
      s.cluster.configMaps c'.configMaps) :
    s.Follows w t ((policy.answer (.ok (.patch patch))).stored (s.workloads w) (some object))
      c' := by
  rw [stored_of_patched applied]
  constructor
  · rintro _ ⟨⟩
    exact ⟨metadata, pod, legible⟩
  · intro ignored
    rw [seen] at ignored
    cases ignored
  · rw [legible.serviceIn]
    exact services
  · rw [legible.configMapIn]
    exact configMaps

/-- A new workload that is not patched records nothing, and one that is records what was made. -/
theorem Kept.follows_create (kept : s.Kept) (discards : P.Discards)
    (kind : WorkloadKind.ofName? request.kind = some w.kind)
    (located : request.namespace_.getD "" = w.namespace_) {object : Json}
    (operation : request.operation = .create) (present : request.object = some object)
    (new : s.workloads w = none) (legible : AdmittedObject.Legible w.kind object metadata pod)
    (unrecorded : ∀ key ∈ [WellKnown.serviceNameAnnotation, WellKnown.configMapNameAnnotation],
      (AdmittedObject.annotationsOf w.kind object).get? key = none)
    (run : (review request).run.Yields P.Answers s.cluster t r c') :
    s.Follows w t ((policy.answer r).stored (s.workloads w) (some object)) c' := by
  have noService : s.serviceOf w = none := by
    unfold serviceOf
    rw [new]
    rfl
  have noConfigMap : s.configMapOf w = none := by
    unfold configMapOf
    rw [new]
    rfl
  -- Nothing is recorded in what is submitted, and nothing in what was there.
  have left (withdrawn : Withdrawn P s.cluster t c') (unpatched : ∀ patch, r ≠ .ok (.patch patch)) :
      s.Follows w t ((policy.answer r).stored (s.workloads w) (some object)) c' := by
    refine kept.follows_of_withdrawn discards withdrawn ?_
      ((serviceIn_eq_none unrecorded).1.trans noService.symm)
      ((serviceIn_eq_none unrecorded).2.trans noConfigMap.symm) (stored_of_unpatched unpatched _ _)
    rintro _ ⟨⟩
    exact ⟨metadata, pod, legible⟩
  rcases review_yields kind located run with ⟨-, rfl, rfl, rfl⟩ | ⟨seen, run⟩
  · exact left (.refl P _) (by simp)
  · rw [operation] at run
    rcases reviewCreate_outcome run with
      ⟨unpatched, withdrawn⟩ | ⟨_, target, patch, rfl, present', decoded, injects⟩
    · exact left withdrawn unpatched
    · cases present.symm.trans present'
      cases legible.decode.symm.trans decoded
      obtain ⟨object', metadata', pod', configMap, applied, legible', recorded, services,
        configMaps⟩ := injects.stored discards legible
      refine follows_of_patched seen applied legible' (Or.inr ?_) (Or.inr ?_)
      · rw [noService]
        exact services
      · rw [noConfigMap, recorded]
        exact configMaps

/-- A changed workload that is not patched records what it recorded, and one that is records what
was made in place of what was removed. -/
theorem Kept.follows_update (kept : s.Kept) (discards : P.Discards)
    (kind : WorkloadKind.ofName? request.kind = some w.kind)
    (located : request.namespace_.getD "" = w.namespace_) {object old : Json}
    (operation : request.operation = .update) (present : request.object = some object)
    (former : request.oldObject = some old) (found : s.workloads w = some old)
    (legible : AdmittedObject.Legible w.kind object metadata pod)
    (same : SameRecords w.kind object old)
    (run : (review request).run.Yields P.Answers s.cluster t r c') :
    s.Follows w t ((policy.answer r).stored (s.workloads w) (some object)) c' := by
  have serviceBefore : serviceIn w.kind (some object) = s.serviceOf w := by
    unfold serviceOf
    rw [found]
    exact same.recorded.1
  have configMapBefore : configMapIn w.kind (some object) = s.configMapOf w := by
    unfold configMapOf
    rw [found]
    exact same.recorded.2
  -- Both objects record the same names, so it does not matter which of them is stored.
  have left (withdrawn : Withdrawn P s.cluster t c') (unpatched : ∀ patch, r ≠ .ok (.patch patch)) :
      s.Follows w t ((policy.answer r).stored (s.workloads w) (some object)) c' := by
    refine kept.follows_of_withdrawn discards withdrawn ?_ serviceBefore configMapBefore
      (stored_of_unpatched unpatched _ _)
    rintro _ ⟨⟩
    exact ⟨metadata, pod, legible⟩
  rcases review_yields kind located run with ⟨-, rfl, rfl, rfl⟩ | ⟨seen, run⟩
  · exact left (.refl P _) (by simp)
  · rw [operation] at run
    rcases reviewUpdate_outcome run with ⟨unpatched, withdrawn, -⟩ |
      ⟨_, _, target, live, patch, rfl, present', former', decoded, decodedOld, refreshes⟩
    · exact left withdrawn unpatched
    · cases present.symm.trans present'
      cases former.symm.trans former'
      cases legible.decode.symm.trans decoded
      obtain ⟨metadata₀, pod₀, legible₀⟩ := kept.legible w old found
      obtain ⟨serviceLive, configMapLive⟩ := recorded_of_legible found legible₀
      cases legible₀.decode.symm.trans decodedOld
      obtain ⟨object', metadata', pod', applied, legible', services, configMaps⟩ :=
        refreshes.stored discards legible
          (legible.serviceIn.symm.trans (serviceBefore.trans serviceLive))
          (legible.configMapIn.symm.trans (configMapBefore.trans configMapLive))
      refine follows_of_patched seen applied legible' ?_ ?_
      · rw [serviceLive]
        exact services
      · rw [configMapLive]
        exact configMaps

/-- What a workload that goes has recorded is removed. -/
theorem reviewDelete_discards {kind : WorkloadKind} {old : Json} {live : AdmittedObject}
    (former : request.oldObject = some old) (decoded : AdmittedObject.decode kind old = .ok live)
    {c : Cluster} (run : (reviewDelete request kind ns).Yields P.Answers c t () c') :
    ∃ mid t₁ t₂, t = t₁ ++ t₂ ∧
      Companion.service.Discards P ns c (Annotations.serviceName? live.allAnnotations) t₁ mid ∧
      Companion.configMap.Discards P ns mid (Annotations.configMapName? live.allAnnotations) t₂
        c' := by
  unfold reviewDelete at run
  rw [former] at run
  dsimp only at run
  rw [decoded] at run
  dsimp only at run
  split at run
  · obtain ⟨_, mid, t₁, t₂, first, second, rfl⟩ := Program.yields_bind.mp run
    have services := Companion.discard_discards (x := .service) first
    have configMaps := Companion.discard_discards (x := .configMap) second
    rw [show (Annotations.serviceName? _).bind Text.nonEmpty? = _ from nonEmpty?_bind _ _]
      at services
    rw [show (Annotations.configMapName? _).bind Text.nonEmpty? = _ from nonEmpty?_bind _ _]
      at configMaps
    exact ⟨mid, t₁, t₂, rfl, services, configMaps⟩
  · next unset =>
    -- A workload without settings has recorded nothing.
    obtain ⟨rfl, -, rfl⟩ := run
    have noService : Annotations.serviceName? live.allAnnotations = none := by
      by_cases none : Annotations.serviceName? live.allAnnotations = none
      · exact none
      · exact absurd (hasSettings_of_recorded (Or.inl none)) unset
    have noConfigMap : Annotations.configMapName? live.allAnnotations = none := by
      by_cases none : Annotations.configMapName? live.allAnnotations = none
      · exact none
      · exact absurd (hasSettings_of_recorded (Or.inr none)) unset
    rw [noService, noConfigMap]
    exact ⟨_, [], [], rfl, .absent, .absent⟩

/-- A workload that goes records nothing any more, and what it recorded goes with it. -/
theorem Kept.follows_delete (kept : s.Kept) (discards : P.Discards)
    (kind : WorkloadKind.ofName? request.kind = some w.kind)
    (located : request.namespace_.getD "" = w.namespace_) {old : Json}
    (operation : request.operation = .delete) (former : request.oldObject = some old)
    (found : s.workloads w = some old)
    (run : (review request).run.Yields P.Answers s.cluster t r c') :
    s.Follows w t ((policy.answer r).stored (s.workloads w) none) c' := by
  obtain ⟨metadata, pod, legible⟩ := kept.legible w old found
  rcases review_yields kind located run with ⟨ignored, rfl, rfl, rfl⟩ | ⟨seen, run⟩
  · -- Where nothing is reviewed, there is nothing to remove.
    obtain ⟨noService, noConfigMap⟩ := kept.ignored w ignored
    have sameService : serviceIn w.kind none = s.serviceOf w := noService.symm
    have sameConfigMap : configMapIn w.kind none = s.configMapOf w := noConfigMap.symm
    exact kept.follows_of_withdrawn discards (.refl P _) (by simp) sameService sameConfigMap
      (Or.inl rfl)
  · rw [operation] at run
    obtain ⟨u, mid, before, after, deleted, ⟨rfl, rfl, rfl⟩, rfl⟩ :=
      Attempt.yields_lift_bind.mp run
    obtain ⟨c₁, t₁, t₂, rfl, discarded, discarded'⟩ :=
      reviewDelete_discards former legible.decode deleted
    obtain ⟨recordedService, recordedConfigMap⟩ := recorded_of_legible found legible
    have services := discarded.exchanged discards discarded.unmade.1
    have configMaps := discarded'.exchanged discards discarded'.unmade.2
    have sameConfigMaps : c₁.configMaps = s.cluster.configMaps :=
      discarded.others .configMap (by decide)
    have sameServices : c'.services = c₁.services := discarded'.others .service (by decide)
    -- What was recorded is exchanged for nothing.
    constructor
    · simp [FailurePolicy.answer, AdmissionResponse.stored]
    · exact fun _ => ⟨rfl, rfl⟩
    · refine Or.inr ?_
      simp only [Transcript.madeServices_append, discarded'.unmade.1, List.append_nil]
      rw [sameServices, recordedService]
      exact services
    · refine Or.inr ?_
      simp only [Transcript.madeConfigMaps_append, discarded.unmade.2, List.append_nil,
        List.nil_append]
      rw [← sameConfigMaps, recordedConfigMap]
      exact configMaps

/-! ### Runs of any length -/

/-- Every request that is handled keeps objects owned. -/
theorem Kept.handles (kept : s.Kept) (discards : P.Discards) (handles : s.Handles P s') :
    s'.Kept := by
  obtain ⟨kind, located, -, submits, run⟩ := handles
  obtain ⟨r, reviewed, outcome, reviewing, rfl, rfl⟩ := decideAdmission_yields run
  -- Counting the outcome makes nothing.
  have counted (stored : Option Json) {u : WorkloadKey} {c' : Cluster} (q : Measurement) :
      s.after u (reviewed ++ [⟨.measure q, ()⟩]) stored c' = s.after u reviewed stored c' := by
    unfold Site.after
    simp [Transcript.madeServices, Transcript.madeConfigMaps, Answered.madeService?,
      Answered.madeConfigMap?]
  rw [counted]
  refine kept.after ?_
  cases submits with
  | create operation present new legible unrecorded =>
    exact kept.follows_create discards kind located operation present new legible unrecorded
      reviewing
  | update operation present former stored legible same =>
    exact kept.follows_update discards kind located operation present former stored legible same
      reviewing
  | delete operation former stored =>
    exact kept.follows_delete discards kind located operation former stored reviewing

theorem Kept.reaches (kept : s.Kept) (discards : P.Discards) (reaches : s.Reaches P s') :
    s'.Kept := by
  induction reaches with
  | refl => exact kept
  | step _ handles ih => exact ih.handles discards handles

/-- **Nothing is orphaned.**  However many requests are handled, under either policy and whatever is
refused but removals, the services and config maps that were made and are still there are those that
the stored workloads record. -/
theorem tidy_of_reaches (discards : P.Discards) (untouched : s.Untouched)
    (reaches : s.Reaches P s') : s'.Tidy :=
  (untouched.kept.reaches discards reaches).toTidy

end Site

/-! ### A workload with a gateway -/

/-- The settings of a gateway with an empty inline document. -/
def gatewaySettings : List (String × String) :=
  [("deployment.image", "gateway:1"), ("service.port", "30500"),
    ("configuration.main.type", "literal"), ("configuration.main.order", "0"),
    ("configuration.main.value", "{}")]

/-- The annotations with these settings. -/
def gatewayAnnotations : TextMap :=
  Dict.ofList (gatewaySettings.map fun s => (WellKnown.vendorPrefix ++ s.1, s.2))

theorem legible_gatewayWorkload :
    AdmittedObject.Legible .deployment (sampleWorkload gatewaySettings)
      { annotations := some gatewayAnnotations } ⟨[], none, none, none⟩ := by
  unfold AdmittedObject.Legible
  decide +kernel

/-- The settings are valid, and their one source is the document. -/
theorem sourced_gatewayWorkload : ∃ entries,
    Annotations.validate gatewayAnnotations = .ok entries ∧
      Source.ofEntries entries = .ok [.literal "{}"] := by
  have read : ((Annotations.validate gatewayAnnotations).toOption.map fun entries =>
      (Source.ofEntries entries).toOption) = some (some [.literal "{}"]) := by
    decide +kernel
  cases valid : Annotations.validate gatewayAnnotations with
  | error e =>
    rw [valid] at read
    cases read
  | ok entries =>
    refine ⟨entries, rfl, ?_⟩
    rw [valid] at read
    cases sourced : Source.ofEntries entries with
    | error e => simp [Except.toOption, sourced] at read
    | ok sources =>
      simp only [Except.toOption, Option.map_some, sourced, Option.some.injEq] at read
      rw [read]

/-- A request for a workload with these settings. -/
def requestForGateway : AdmissionRequest :=
  { requestWithoutImage with object := some (sampleWorkload gatewaySettings) }

/-- A workload whose one source is the document gets its gateway, in any cluster that refuses
nothing. -/
theorem review_injects {request : AdmissionRequest} {object : Json} {a : TextMap} {pod : PodSpec}
    {c c' : Cluster} {t : Transcript}
    (asked : request = { requestForGateway with object := some object })
    (legible : AdmittedObject.Legible .deployment object { annotations := some a } pod)
    (settings : Annotations.hasSettings a = true) {entries : List ConfigurationEntry}
    (valid : Annotations.validate a = .ok entries)
    (sourced : Source.ofEntries entries = .ok [.literal "{}"]) {r : Except Failure Mutation}
    (run : (review request).run.Yields secludedPlatform.Answers c t r c') :
    ∃ patch, r = .ok (.patch patch) ∧
      Injects secludedPlatform .deployment "edge" "apps" ⟨some a, pod⟩ c t patch c' := by
  obtain ⟨layer, parsed⟩ := parse_emptyDocument
  have named : WorkloadKind.ofName? request.kind = some .deployment := asked ▸ rfl
  have located : request.namespace_.getD "" = "apps" := asked ▸ rfl
  have operation : request.operation = .create := asked ▸ rfl
  have present : request.object = some object := asked ▸ rfl
  have name : request.name = "edge" := asked ▸ rfl
  have nonempty : request.name ≠ "" := by
    rw [name]
    decide
  rcases review_yields named located run with ⟨ignored, -⟩ | ⟨-, run⟩
  · cases ignored
  · rw [operation] at run
    obtain ⟨patch, rfl, injects⟩ := reviewCreate_succeeds (fun _ => trivial) nonempty present
      legible.decode settings valid sourced (fun _ _ _ _ run => ⟨_, resolve_literal parsed run⟩)
      run
    rw [name] at injects
    exact ⟨patch, rfl, injects⟩

/-- The workload gets its gateway, in any cluster that refuses nothing. -/
theorem requestForGateway_injects {request : AdmissionRequest} {policy : FailurePolicy}
    {response : AdmissionResponse} {c c' : Cluster} {t : Transcript}
    (asked : request = requestForGateway)
    (run : (decideAdmission policy request).Yields secludedPlatform.Answers c t response c') :
    ∃ patch reviewed, response = .patch patch ∧ t.madeServices = reviewed.madeServices ∧
      t.madeConfigMaps = reviewed.madeConfigMaps ∧
      Injects secludedPlatform .deployment "edge" "apps"
        ⟨some gatewayAnnotations, ⟨[], none, none, none⟩⟩ c reviewed patch c' := by
  obtain ⟨r, reviewed, outcome, reviewing, rfl, rfl⟩ := decideAdmission_yields run
  obtain ⟨entries, valid, sourced⟩ := sourced_gatewayWorkload
  obtain ⟨patch, rfl, injects⟩ :=
    review_injects asked legible_gatewayWorkload (by decide +kernel) valid sourced reviewing
  refine ⟨patch, reviewed, rfl, ?_, ?_, injects⟩
  · simp [Transcript.madeServices, Answered.madeService?]
  · simp [Transcript.madeConfigMaps, Answered.madeConfigMap?]

/-- A site without workloads. -/
def vacantSite : Site where
  cluster := {}
  workloads _ := none
  services := []
  configMaps := []

/-- The key of the workload. -/
def edgeWorkload : WorkloadKey := ⟨.deployment, "apps", "edge"⟩

/-- The first workload gets its gateway, with a config map. -/
theorem vacantSite_gains_gateway : ∃ s' object configMap,
    vacantSite.Reaches secludedPlatform s' ∧
    s'.workloads = (fun v => if v = edgeWorkload then some object else none) ∧
    ⟨"apps", configMap⟩ ∈ s'.configMaps ∧ s'.cluster.configMaps.Holds ⟨"apps", configMap⟩ := by
  -- The request stays a name, as its review would be unfolded otherwise.
  obtain ⟨request, asked⟩ : ∃ request, request = requestForGateway := ⟨_, rfl⟩
  obtain ⟨t, response, c', run⟩ := Program.exists_yields secludedPlatform.total
    (decideAdmission .fail request) vacantSite.cluster
  have submits : vacantSite.Submits edgeWorkload request (some (sampleWorkload gatewaySettings)) :=
    .create (asked ▸ rfl) (asked ▸ rfl) rfl legible_gatewayWorkload (by decide +kernel)
  have reaches := Site.Reaches.step .refl
    (.intro (asked ▸ rfl) (asked ▸ rfl) (Or.inl (asked ▸ rfl)) submits run)
  obtain ⟨patch, reviewed, rfl, -, made, injects⟩ := requestForGateway_injects asked run
  obtain ⟨object, _, _, configMap, applied, -, -, -, configMaps⟩ :=
    injects.stored (fun _ _ => ⟨trivial, trivial⟩) legible_gatewayWorkload
  refine ⟨_, object, configMap, reaches, ?_, ?_, ?_⟩
  · funext v
    show (if v = edgeWorkload then (patch.apply (sampleWorkload gatewaySettings)).or none
        else none) = _
    rw [applied]
    rfl
  · refine List.mem_append_right _ ?_
    rw [made]
    exact (configMaps.made _).mpr ⟨configMap, rfl, rfl⟩
  · exact (configMaps.held _).mpr ⟨Or.inr ⟨configMap, rfl, rfl⟩, by simp⟩

/-- Workloads that are to be removed are let go. -/
theorem allow_of_delete {request : AdmissionRequest} {policy : FailurePolicy}
    {response : AdmissionResponse} (named : WorkloadKind.ofName? request.kind = some kind)
    (deletes : request.operation = .delete)
    (run : (decideAdmission policy request).Yields P.Answers c t response c') :
    response = .allow := by
  obtain ⟨r, reviewed, outcome, reviewing, rfl, rfl⟩ := decideAdmission_yields run
  rcases review_yields named rfl reviewing with ⟨-, rfl, -, -⟩ | ⟨-, run'⟩
  · rfl
  · rw [deletes] at run'
    obtain ⟨_, _, _, _, -, ⟨-, rfl, -⟩, -⟩ := Attempt.yields_lift_bind.mp run'
    rfl

/-- The first workload gets its gateway and is removed again.  The site is tidy then, and the config
map, which was there, is gone. -/
theorem vacantSite_loses_gateway : ∃ s' s'' key, vacantSite.Reaches secludedPlatform s' ∧
    key ∈ s'.configMaps ∧ s'.cluster.configMaps.Holds key ∧
    vacantSite.Reaches secludedPlatform s'' ∧ s''.Tidy ∧
    key ∈ s''.configMaps ∧ ¬s''.cluster.configMaps.Holds key := by
  obtain ⟨s, object, configMap, reaches, workloads, made, held⟩ := vacantSite_gains_gateway
  have stored : s.workloads edgeWorkload = some object := by
    rw [workloads]
    exact if_pos rfl
  obtain ⟨request, asked⟩ : ∃ request : AdmissionRequest, request =
      { requestForGateway with operation := .delete, object := none, oldObject := some object } :=
    ⟨_, rfl⟩
  obtain ⟨t, response, c', run⟩ := Program.exists_yields secludedPlatform.total
    (decideAdmission .fail request) s.cluster
  have kind : WorkloadKind.ofName? request.kind = some edgeWorkload.kind := asked ▸ rfl
  obtain rfl := allow_of_delete kind (asked ▸ rfl) run
  have reaches' := reaches.step (.intro kind (asked ▸ rfl) (Or.inl (asked ▸ rfl))
    (.delete (asked ▸ rfl) (asked ▸ rfl) stored) run)
  have untouched : vacantSite.Untouched := by
    refine ⟨rfl, rfl, ?_, fun _ => rfl, fun _ => rfl⟩
    intro w object impossible
    cases impossible
  have tidy := Site.tidy_of_reaches (fun _ _ => ⟨trivial, trivial⟩) untouched reaches'
  refine ⟨s, _, _, reaches, made, held, reaches', tidy, List.mem_append_left _ made, ?_⟩
  intro kept
  -- What is kept is recorded by some workload, but none is stored any more.
  obtain ⟨v, -, records⟩ := (tidy.configMaps.exact _).mp ⟨List.mem_append_left _ made, kept⟩
  have gone : (s.after edgeWorkload t none c').workloads v = none := by
    show (if v = edgeWorkload then none else s.workloads v) = none
    split
    · rfl
    · next other =>
      rw [workloads]
      exact if_neg other
  unfold Site.configMapOf at records
  rw [show (AdmissionResponse.stored _ _ _) = none from rfl, gone] at records
  cases records

end GatewayOperator
