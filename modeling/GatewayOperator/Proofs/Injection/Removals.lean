import GatewayOperator.Proofs.Injection.Coherence
import GatewayOperator.Proofs.Injection.Ownership

/-!
# What a review removes

A review removes services and config maps by the names that it finds in annotations, or because it
has made them itself.  This module says which ones, for every way in which a review can go, and
which names a workload records once its patch was applied.

## Main Definitions

* `Companion.removed` — the objects whose removal was asked for in a run.
* `Transcript.RemovesOnly` — every removal of a run has its reason.
* `AdmissionRequest.Names` — an object of a request records the name of a service or config map.

## Main Statements

* `review_removesOnly` — a review removes what it made itself or what is recorded in its request.
* `review_names` — a patched workload records what was made for it or what it recorded before.

## Design Notes

Removals are counted when they are asked for, whether or not they are refused.  Services and config
maps are treated alike, so everything is said of both at once.
-/

namespace GatewayOperator

namespace Companion

/-- The objects that were made in a run. -/
def made : Companion → Transcript → List ObjectKey
  | .service => Transcript.madeServices
  | .configMap => Transcript.madeConfigMaps

/-- The object whose removal was asked for by a question, if one was. -/
def removal? : Companion → Answered → Option ObjectKey
  | .service, ⟨.deleteService ns name, _⟩ => some ⟨ns, name⟩
  | .configMap, ⟨.deleteConfigMap ns name, _⟩ => some ⟨ns, name⟩
  | _, _ => none

/-- The objects whose removal was asked for in a run. -/
def removed (x : Companion) (t : Transcript) : List ObjectKey := t.filterMap x.removal?

/-- The name that annotations record. -/
def recorded : Companion → TextMap → Option String
  | .service => Annotations.serviceName?
  | .configMap => Annotations.configMapName?

/-- The name that is recorded in a workload, if there is one and it can be read. -/
def nameIn (x : Companion) (kind : WorkloadKind) (object : Option Json) : Option String :=
  object.bind fun object =>
    (AdmittedObject.decode kind object).toOption.bind fun target => x.recorded target.allAnnotations

variable {x : Companion}

theorem nameIn_of_decode {kind : WorkloadKind} {object : Json} {target : AdmittedObject}
    (decoded : AdmittedObject.decode kind object = .ok target) :
    x.nameIn kind (some object) = x.recorded target.allAnnotations := by
  unfold nameIn
  rw [Option.bind_some, decoded]
  rfl

@[simp] theorem made_append (t t' : Transcript) : x.made (t ++ t') = x.made t ++ x.made t' := by
  cases x
  · exact Transcript.madeServices_append t t'
  · exact Transcript.madeConfigMaps_append t t'

@[simp] theorem removed_append (t t' : Transcript) :
    x.removed (t ++ t') = x.removed t ++ x.removed t' :=
  List.filterMap_append

end Companion

/-! ### Reasons for removals -/

/-- Every removal of a run has its reason. -/
def Transcript.RemovesOnly (t : Transcript) (reason : Companion → ObjectKey → Prop) : Prop :=
  ∀ x, ∀ key ∈ Companion.removed x t, reason x key

namespace Transcript.RemovesOnly

variable {t t' : Transcript} {reason reason' : Companion → ObjectKey → Prop}

theorem nil : RemovesOnly [] reason := by
  intro x key mem
  cases mem

theorem append (first : t.RemovesOnly reason) (second : t'.RemovesOnly reason) :
    RemovesOnly (t ++ t') reason := by
  intro x key mem
  rw [Companion.removed_append] at mem
  rcases List.mem_append.mp mem with mem | mem
  · exact first x key mem
  · exact second x key mem

theorem mono (only : t.RemovesOnly reason) (weaker : ∀ x key, reason x key → reason' x key) :
    t.RemovesOnly reason' :=
  fun x key mem => weaker x key (only x key mem)

theorem single {q : Answered}
    (reasoned : ∀ x key, Companion.removal? x q = some key → reason x key) :
    RemovesOnly [q] reason := by
  intro x key mem
  obtain ⟨_, asked, removal⟩ := List.mem_filterMap.mp mem
  obtain rfl := List.mem_singleton.mp asked
  exact reasoned x key removal

/-- A question that is no removal removes nothing. -/
theorem kept {q : Answered} (keeps : ∀ x, Companion.removal? x q = none) : RemovesOnly [q] reason :=
  .single fun x _ removal => absurd ((keeps x).symm.trans removal) (by simp)

/-- Nothing is removed where contents are resolved. -/
theorem of_resolving (resolving : ∀ q ∈ t, q.query.Resolving) : t.RemovesOnly reason := by
  intro x key mem
  obtain ⟨⟨query, answer⟩, asked, removal⟩ := List.mem_filterMap.mp mem
  have resolving := resolving _ asked
  cases query <;> cases x <;> first | exact resolving.elim | cases removal

end Transcript.RemovesOnly

variable {P : Platform} {names : SidecarNames} {ns name : String} {sources : List Source}
  {c c' : Cluster} {t : Transcript} {port : Option String} {kind : WorkloadKind}
  {target : AdmittedObject} {previous : TextMap} {patch : Patch} {object object' : Json}
  {x : Companion} {reason : Companion → ObjectKey → Prop}

/-! ### Steps -/

theorem OffersService.removesOnly {r : Except Failure (Option String)}
    (offered : OffersService P names ns c port t r c') : t.RemovesOnly reason := by
  cases offered with
  | absent => exact .nil
  | made => exact .kept fun x => by cases x <;> rfl
  | refused => exact .kept fun x => by cases x <;> rfl

/-- The service that is offered was made. -/
theorem OffersService.mem_made {service : Option String}
    (offered : OffersService P names ns c port t (.ok service) c') (made : service = some name) :
    ⟨ns, name⟩ ∈ Companion.service.made t := by
  cases offered with
  | absent => cases made
  | made =>
    cases made
    simp [Companion.made, Transcript.madeServices, Answered.madeService?, placedService]

theorem WritesConfigMap.removesOnly {r : Except Failure String}
    (written : WritesConfigMap P names ns sources c t r c') : t.RemovesOnly reason := by
  cases written with
  | unresolved resolved => exact .of_resolving (resolved.asked (resolve_asks ns sources))
  | refused resolved =>
    exact .append (.of_resolving (resolved.asked (resolve_asks ns sources)))
      (.kept fun x => by cases x <;> rfl)
  | made resolved =>
    exact .append (.of_resolving (resolved.asked (resolve_asks ns sources)))
      (.kept fun x => by cases x <;> rfl)

/-- The config map that is written was made. -/
theorem WritesConfigMap.mem_made (written : WritesConfigMap P names ns sources c t (.ok name) c') :
    ⟨ns, name⟩ ∈ Companion.configMap.made t := by
  cases written with
  | made resolved =>
    rw [Companion.made_append]
    refine List.mem_append_right _ ?_
    simp [Companion.made, Transcript.madeConfigMaps, Answered.madeConfigMap?, placedConfigMap]

theorem RewritesConfigMap.removesOnly {needed : Bool} {configMap : Option String}
    (rewritten : RewritesConfigMap P names ns sources c needed t configMap c') :
    t.RemovesOnly reason := by
  cases rewritten with
  | unneeded => exact .nil
  | written written => exact written.removesOnly

theorem Companion.removal?_removalWith {y : Companion} {answer : Except StoreError Unit}
    {key key' : ObjectKey} :
    y.removal? (x.removalWith key answer) = some key' ↔ y = x ∧ key = key' := by
  cases x <;> cases y <;> simp [Companion.removal?, Companion.removalWith]

/-- What is discarded is the object of the name. -/
theorem Companion.Discards.removesOnly {name : Option String}
    (discarded : x.Discards P ns c name t c') (reasoned : ∀ n, name = some n → reason x ⟨ns, n⟩) :
    t.RemovesOnly reason := by
  have asked (n : String) (named : name = some n) (answer : Except StoreError Unit) :
      Transcript.RemovesOnly [x.removalWith ⟨ns, n⟩ answer] reason := by
    refine .single fun y key removal => ?_
    obtain ⟨rfl, rfl⟩ := Companion.removal?_removalWith.mp removal
    exact reasoned n named
  cases discarded with
  | absent => exact .nil
  | removed => exact asked _ rfl _
  | kept => exact asked _ rfl _

/-! ### Injections and renewals -/

/-- Where making the parts of a gateway fails, only what was made is removed. -/
theorem MakingFails.removesOnly {a : TextMap} {e : Failure}
    (fails : MakingFails P names ns a port c t e c') :
    t.RemovesOnly fun x key => key ∈ x.made t := by
  cases fails with
  | invalid => exact .nil
  | unsourced => exact .nil
  | noService offered => exact offered.removesOnly
  | noConfigMap _ _ offered written discarded =>
    refine offered.removesOnly.append (written.removesOnly.append (discarded.removesOnly ?_))
    intro n named
    rw [Companion.made_append]
    exact List.mem_append_left _ (offered.mem_made (Text.bind_nonEmpty?_eq_some_iff.mp named).1)

/-- An injection removes nothing. -/
theorem Injects.removesOnly (injects : Injects P kind name ns target c t patch c') :
    t.RemovesOnly reason := by
  cases injects with
  | intro _ _ offered written _ => exact offered.removesOnly.append written.removesOnly

/-- A name that is discarded when it is stale was recorded in one of two places. -/
theorem recorded_of_stale {stale : Prop} [Decidable stale] {now before : Option String} {n : String}
    (discarded : (if stale then now.or before else none).bind Text.nonEmpty? = some n) :
    now = some n ∨ before = some n := by
  obtain ⟨former, -⟩ := Text.bind_nonEmpty?_eq_some_iff.mp discarded
  obtain ⟨-, former⟩ := Option.ite_none_right_eq_some.mp former
  exact (Option.or_eq_some_iff.mp former).imp_right And.right

/-- A renewal removes what was recorded before, or is recorded in the changed workload. -/
theorem Refreshes.removesOnly (refreshes : Refreshes P kind name ns target previous c t patch c') :
    t.RemovesOnly fun x key => key.namespace_ = ns ∧
      (x.recorded target.allAnnotations = some key.name ∨ x.recorded previous = some key.name) := by
  cases refreshes with
  | intro _ _ offered written _ staleService staleConfigMap =>
    exact offered.removesOnly.append (written.removesOnly.append
      ((staleService.removesOnly fun _ discarded => ⟨rfl, recorded_of_stale discarded⟩).append
        (staleConfigMap.removesOnly fun _ discarded => ⟨rfl, recorded_of_stale discarded⟩)))

/-- After an injection, a workload records what was made for it. -/
theorem Injects.names_made (injects : Injects P kind name ns target c t patch c')
    (decoded : AdmittedObject.decode kind object = .ok target)
    (applied : patch.apply object = some object') {n : String}
    (named : x.nameIn kind (some object') = some n) : ⟨ns, n⟩ ∈ x.made t := by
  cases injects with
  | @intro entries sources service configMap _ c₁ _ t₁ t₂ valid sourced offered written patched =>
    obtain ⟨a, pod, container, rfl, rendered⟩ :=
      rendered_of_validate valid (SidecarNames.ofWorkload name kind)
    have outcome := (createPatch_applies rendered patched decoded).2 object' applied
    rw [Companion.nameIn_of_decode outcome] at named
    rw [Companion.made_append]
    cases x with
    | service =>
      have same := (serviceName?_injected a offered.nonempty configMap).symm.trans named
      exact List.mem_append_left _ (offered.mem_made same)
    | configMap =>
      have same := (configMapName?_injected a written.nonempty service).symm.trans named
      cases same
      exact List.mem_append_right _ written.mem_made

/-- A renewal that can be applied changes the annotations as it says. -/
theorem updatePatch_annotates {a recorded : TextMap} {pod : PodSpec} {container : Container}
    {scope : UpdateScope} {configMap : Option String}
    (rendered : sidecarContainer names a = .ok container)
    (patched : updatePatch kind ⟨some a, pod⟩ names scope configMap recorded = .ok patch)
    (decoded : AdmittedObject.decode kind object = .ok ⟨some a, pod⟩)
    (applied : patch.apply object = some object') :
    ∃ pod', AdmittedObject.decode kind object' =
      .ok ⟨some (PatchOperation.updateAnnotations a recorded), pod'⟩ := by
  cases remade : scope.container with
  | true => exact ⟨_, (updatePatch_applies remade rendered patched decoded).2 object' applied⟩
  | false =>
    -- Only the annotations are changed, which can be done without a pod.
    rw [updatePatch_eq rendered, if_neg (by simp [remade]), List.nil_append] at patched
    cases patched
    obtain ⟨metadata, found, read, same⟩ := AdmittedObject.parts?_of_decode decoded
    have annotated : metadata.annotations = some a :=
      congrArg AdmittedObject.annotations same.symm
    obtain ⟨object'', applied', read'⟩ := exists_recordingPatch read annotated pod recorded
    cases applied.symm.trans applied'
    exact ⟨_, AdmittedObject.decode_of_parts? read'⟩

/-- After a renewal, a workload records what was made for it or what was recorded in it. -/
theorem Refreshes.names_known (refreshes : Refreshes P kind name ns target previous c t patch c')
    (decoded : AdmittedObject.decode kind object = .ok target)
    (applied : patch.apply object = some object') {n : String}
    (named : x.nameIn kind (some object') = some n) :
    ⟨ns, n⟩ ∈ x.made t ∨ x.nameIn kind (some object) = some n := by
  rw [Companion.nameIn_of_decode decoded]
  cases refreshes with
  | @intro entries sources service configMap _ c₁ c₂ c₃ _ t₁ t₂ t₃ t₄ valid sourced offered written
      patched _ _ =>
    obtain ⟨a, pod, container, rfl, rendered⟩ :=
      rendered_of_validate valid (SidecarNames.ofWorkload name kind)
    obtain ⟨pod', decoded'⟩ := updatePatch_annotates rendered patched decoded applied
    rw [Companion.nameIn_of_decode decoded'] at named
    rw [Companion.made_append, Companion.made_append]
    cases x with
    | service =>
      have recorded := (serviceName?_renewed a _ offered.nonempty configMap).symm.trans named
      split at recorded
      · exact Or.inl (List.mem_append_left _ (offered.mem_made recorded))
      · exact Or.inr recorded
    | configMap =>
      have recorded := (configMapName?_renewed a _ written.nonempty service).symm.trans named
      rcases Option.or_eq_some_iff.mp recorded with rfl | ⟨-, before⟩
      · exact Or.inl (List.mem_append_right _ (List.mem_append_left _ written.of_some.mem_made))
      · exact Or.inr before

/-! ### Reviews -/

variable {request : AdmissionRequest} {r : Except Failure Mutation} {key : ObjectKey}

namespace AdmissionRequest

/-- The workload as it was records the name of a service or config map. -/
def Names (request : AdmissionRequest) (kind : WorkloadKind) (x : Companion) (key : ObjectKey) :
    Prop :=
  request.namespace_.getD "" = key.namespace_ ∧ x.nameIn kind request.oldObject = some key.name

/-- A client writes the name of a service or config map: the workload that it submits records it,
and the workload as it was does not. -/
structure Writes (request : AdmissionRequest) (kind : WorkloadKind) (x : Companion)
    (key : ObjectKey) : Prop where
  /-- The workload is new or changed. -/
  submits : request.operation = .create ∨ request.operation = .update
  /-- It is in the namespace of the object. -/
  located : request.namespace_.getD "" = key.namespace_
  /-- It records the name. -/
  records : x.nameIn kind request.object = some key.name
  /-- It did not record the name before. -/
  new : x.nameIn kind request.oldObject ≠ some key.name

/-- A name in a workload that is submitted was there before or is written. -/
theorem names_or_writes (submits : request.operation = .create ∨ request.operation = .update)
    (located : request.namespace_.getD "" = key.namespace_)
    (records : x.nameIn kind request.object = some key.name) :
    request.Writes kind x key ∨ request.Names kind x key := by
  by_cases old : x.nameIn kind request.oldObject = some key.name
  · exact Or.inr ⟨located, old⟩
  · exact Or.inl ⟨submits, located, records, old⟩

end AdmissionRequest

/-- What goes with a workload is what it records. -/
theorem reviewDelete_removesOnly
    (run : (reviewDelete request kind (request.namespace_.getD "")).Yields P.Answers c t () c') :
    t.RemovesOnly fun x key => request.Names kind x key := by
  cases former : request.oldObject with
  | none =>
    unfold reviewDelete at run
    rw [former] at run
    obtain ⟨rfl, -, -⟩ := run
    exact .nil
  | some old =>
    cases decoded : AdmittedObject.decode kind old with
    | error e =>
      unfold reviewDelete at run
      rw [former] at run
      dsimp only at run
      rw [decoded] at run
      obtain ⟨rfl, -, -⟩ := run
      exact .nil
    | ok live =>
      obtain ⟨mid, t₁, t₂, rfl, services, configMaps⟩ :=
        Site.reviewDelete_discards former decoded run
      have names (x : Companion) (n : String) (recorded : x.recorded live.allAnnotations = some n) :
          request.Names kind x ⟨request.namespace_.getD "", n⟩ := by
        refine ⟨rfl, ?_⟩
        rw [former, Companion.nameIn_of_decode decoded]
        exact recorded
      exact (services.removesOnly (names .service)).append
        (configMaps.removesOnly (names .configMap))

theorem reviewCreate_removesOnly
    (run : (reviewCreate request kind ns).run.Yields P.Answers c t r c') :
    t.RemovesOnly fun x key => key ∈ x.made t := by
  rcases reviewCreate_yields run with ⟨-, rfl, -⟩ | ⟨-, rfl, -, -⟩ | ⟨_, _, -, -, -, -, injected⟩
  · exact .nil
  · exact .nil
  · rcases inject_yields injected with ⟨e, -, fails⟩ | ⟨patch, -, injects⟩
    · exact fails.removesOnly
    · exact injects.removesOnly

theorem reviewUpdate_removesOnly (updates : request.operation = .update)
    (run : (reviewUpdate request kind (request.namespace_.getD "")).run.Yields P.Answers c t r c') :
    t.RemovesOnly fun x key =>
      key ∈ x.made t ∨ request.Writes kind x key ∨ request.Names kind x key := by
  rcases reviewUpdate_yields run with ⟨-, rfl, -⟩ | ⟨-, rfl, -, -⟩ |
    ⟨object, old, target, live, present, former, decoded, decodedOld, -, refreshed⟩
  · exact .nil
  · exact .nil
  · rcases refresh_yields refreshed with ⟨e, -, fails⟩ | ⟨patch, -, refreshes⟩
    · exact fails.removesOnly.mono fun x key => Or.inl
    · refine refreshes.removesOnly.mono fun x key reason => Or.inr ?_
      obtain ⟨located, now | before⟩ := reason
      · refine AdmissionRequest.names_or_writes (Or.inr updates) located.symm ?_
        rw [present, Companion.nameIn_of_decode decoded]
        exact now
      · refine Or.inr ⟨located.symm, ?_⟩
        rw [former, Companion.nameIn_of_decode decodedOld]
        exact before

/-- A review removes what it made itself, what a client writes, or what the workload recorded. -/
theorem review_removesOnly (known : WorkloadKind.ofName? request.kind = some kind)
    (run : (review request).run.Yields P.Answers c t r c') :
    t.RemovesOnly fun x key =>
      key ∈ x.made t ∨ request.Writes kind x key ∨ request.Names kind x key := by
  rcases review_yields known rfl run with ⟨-, -, rfl, -⟩ | ⟨-, run⟩
  · exact .nil
  · cases operation : request.operation with
    | create =>
      rw [operation] at run
      exact (reviewCreate_removesOnly run).mono fun x key => Or.inl
    | update =>
      rw [operation] at run
      exact reviewUpdate_removesOnly operation run
    | delete =>
      rw [operation] at run
      obtain ⟨_, mid, t₁, t₂, deleted, ⟨rfl, -, -⟩, rfl⟩ := Attempt.yields_lift_bind.mp run
      rw [List.append_nil]
      exact (reviewDelete_removesOnly deleted).mono fun x key names => Or.inr (Or.inr names)
    | connect =>
      rw [operation] at run
      obtain ⟨rfl, -, -⟩ := run
      exact .nil

/-- Once its patch was applied, a workload records what was made for it or what it recorded when it
was submitted. -/
theorem review_names (known : WorkloadKind.ofName? request.kind = some kind)
    (run : (review request).run.Yields P.Answers c t (.ok (.patch patch)) c')
    (present : request.object = some object) (applied : patch.apply object = some object')
    {n : String} (named : x.nameIn kind (some object') = some n) :
    ⟨request.namespace_.getD "", n⟩ ∈ x.made t ∨ x.nameIn kind request.object = some n := by
  obtain ⟨object, target, present', decoded, injects | ⟨_, _, -, -, refreshes⟩⟩ :=
    review_patched known run
  · cases present.symm.trans present'
    exact Or.inl (injects.names_made decoded applied named)
  · cases present.symm.trans present'
    rw [present]
    exact refreshes.names_known decoded applied named

/-- Kinds that are not reviewed, and workloads that are only connected to, are let through. -/
theorem review_of_idle
    (idle : WorkloadKind.ofName? request.kind = none ∨ request.operation = .connect)
    (run : (review request).run.Yields P.Answers c t r c') : t = [] := by
  cases known : WorkloadKind.ofName? request.kind with
  | none =>
    unfold review at run
    rw [known] at run
    exact run.1
  | some kind =>
    have connects : request.operation = .connect := idle.resolve_left (by simp [known])
    rcases review_yields known rfl run with ⟨-, -, unasked, -⟩ | ⟨-, run⟩
    · exact unasked
    · rw [connects] at run
      exact run.1

end GatewayOperator
