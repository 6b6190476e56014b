import GatewayOperator.Proofs.Injection.Classification
import GatewayOperator.Proofs.Injection.PatchedWorkloads

/-!
# Workloads without settings

Most workloads of a cluster ask for no gateway.  This module says how requests for these are
answered: nothing is asked of the cluster or of the network, nothing is patched, and the request is
allowed unless an object that has to be read cannot be read.

## Main Definitions

* `Json.Unannotated`, `AdmissionRequest.Unannotated` — there is no setting among the annotations.
* `AdmissionRequest.requiredReads` — the objects that a review reads before it looks at settings.
* `AdmissionRequest.Unreadable` — one of these objects is not one of its kind.
* `AdmissionRequest.conclude` — an answer that is counted, and nothing else.

## Main Statements

* `Annotations.Unset.settings`, `Annotations.Unset.changedKeys` — where no annotation has the vendor
  prefix, nothing is set and nothing has changed.
* `review_of_unannotated` — what the review of such a workload comes to.
* `unannotated_admission` — which answer it gets, under either policy.

## Design Notes

A kind goes by its name alone.  A kind of another group that is also called `Deployment` is reviewed
like one, and its objects cannot be read because their type is another one.
-/

namespace GatewayOperator

open Json

/-! ### Annotations without the vendor prefix -/

/-- No annotation has the vendor prefix. -/
def Annotations.Unset (a : TextMap) : Prop :=
  ∀ key, Text.hasPrefix WellKnown.vendorPrefix key = true → a.get? key = none

namespace Annotations.Unset

variable {a b : TextMap}

theorem settings (unset : Unset a) : Annotations.settings a = [] := by
  refine List.filterMap_eq_nil_iff.mpr fun entry mem => ?_
  cases stripped : Text.stripPrefix? WellKnown.vendorPrefix entry.1 with
  | none => rfl
  | some setting =>
    have vendor : Text.hasPrefix WellKnown.vendorPrefix entry.1 = true :=
      Text.hasPrefix_iff.mpr ⟨setting, Text.stripPrefix?_eq_some_iff.mp stripped⟩
    exact absurd rfl (Assoc.lookup_eq_none_iff.mp (unset entry.1 vendor) entry mem)

/-- A new workload without settings asks for nothing. -/
theorem hasSettings (unset : Unset a) : Annotations.hasSettings a = false := by
  unfold Annotations.hasSettings
  rw [unset.settings]
  rfl

theorem changedKeys (unset : Unset a) (unset' : Unset b) (isPod : Bool) :
    Annotations.changedKeys a b isPod = [] := by
  refine List.filter_eq_nil_iff.mpr fun key _ => ?_
  by_cases vendor : Text.hasPrefix WellKnown.vendorPrefix key = true
  · simp [unset key vendor, unset' key vendor]
  · simp [vendor]

/-- A change of a workload that has no settings before or after it needs nothing. -/
theorem updateNeedsMutation (unset : Unset a) (unset' : Unset b) (isPod : Bool) :
    Annotations.updateNeedsMutation a b isPod = false := by
  unfold Annotations.updateNeedsMutation
  rw [unset.changedKeys unset' isPod]
  rfl

end Annotations.Unset

/-! ### Objects without settings -/

/-- There is nothing under any annotation with the vendor prefix. -/
def Json.Unannotated (object : Json) : Prop :=
  ∀ key, Text.hasPrefix WellKnown.vendorPrefix key = true →
    object.at? (PatchOperation.annotationsPath ++ [key]) = none

/-- What is read as the annotation of a workload stands under its key. -/
theorem AdmittedObject.at?_of_annotation {kind : WorkloadKind} {object : Json}
    {target : AdmittedObject} (decoded : decode kind object = .ok target) {key value : String}
    (found : target.allAnnotations.get? key = some value) :
    object.at? (PatchOperation.annotationsPath ++ [key]) = some (.string value) := by
  obtain ⟨metadata, pod, read, rfl⟩ := parts?_of_decode decoded
  unfold allAnnotations at found
  cases annotated : metadata.annotations with
  | none =>
    rw [annotated] at found
    cases found
  | some a =>
    rw [annotated, Option.getD_some] at found
    obtain ⟨v, present, read⟩ := at?_annotations read annotated
    obtain ⟨pairs, isObject, -⟩ := fields_of_readTextMap read
    have here : v.child? key = some (.string value) := by
      rw [child?_of_fields? (congrArg fields? isObject), get?_of_readTextMap read, found]
      rfl
    rw [at?_append, present, Option.bind_some, at?_cons, here]
    rfl

/-- Where no annotation with the vendor prefix stands, none is read. -/
theorem AdmittedObject.unset_of_decode {kind : WorkloadKind} {object : Json}
    {target : AdmittedObject} (unannotated : object.Unannotated)
    (decoded : decode kind object = .ok target) : Annotations.Unset target.allAnnotations := by
  intro key vendor
  cases found : target.allAnnotations.get? key with
  | none => rfl
  | some value =>
    have present := at?_of_annotation decoded found
    rw [unannotated key vendor] at present
    cases present

/-! ### Requests -/

namespace AdmissionRequest

/-- Neither object of a request carries a setting. -/
def Unannotated (request : AdmissionRequest) : Prop :=
  (∀ object ∈ request.object, object.Unannotated) ∧
    ∀ object ∈ request.oldObject, object.Unannotated

/-- The objects that a review has to read before it looks at settings.  One that goes is not among
them, for it is let go also if it cannot be read. -/
def requiredReads (request : AdmissionRequest) : List Json :=
  match request.operation with
  | .create => if request.name = "" then [] else request.object.toList
  | .update =>
    match request.object, request.oldObject with
    | some object, some oldObject => [object, oldObject]
    | _, _ => []
  | .delete | .connect => []

/-- A request goes by the name of a kind that is reviewed, in a namespace that is not left alone,
but an object that has to be read is not one of this kind. -/
def Unreadable (request : AdmissionRequest) : Prop :=
  ∃ kind, WorkloadKind.ofName? request.kind = some kind ∧
    request.namespace_.getD "" ∉ WellKnown.ignoredNamespaces ∧
    ∃ object ∈ request.requiredReads, AdmittedObject.parts? kind object = none

/-- The request is answered, which is counted; nothing is read, written or sent. -/
def conclude (request : AdmissionRequest) (outcome : AdmissionOutcome)
    (response : AdmissionResponse) : Program AdmissionResponse := do
  Program.query (.measure (.admission request.operation.label outcome))
  return response

end AdmissionRequest

variable {request : AdmissionRequest} {kind : WorkloadKind}

/-- An object is refused where nothing can be read from it. -/
theorem AdmittedObject.decode_of_unread {object : Json}
    (unread : AdmittedObject.parts? kind object = none) :
    AdmittedObject.decode kind object =
      .error (.validation (.unreadableObject kind.objectKind "unexpected value")) := by
  unfold decode
  rw [unread]

theorem AdmittedObject.exists_decode {object : Json}
    (read : AdmittedObject.parts? kind object ≠ none) :
    ∃ target, AdmittedObject.decode kind object = .ok target := by
  obtain ⟨⟨metadata, pod⟩, read⟩ := Option.ne_none_iff_exists'.mp read
  unfold decode
  rw [read]
  exact ⟨_, rfl⟩

/-- What the review of a workload without settings comes to. -/
def AdmissionRequest.verdict (kind : WorkloadKind) (request : AdmissionRequest) :
    Except Failure Mutation :=
  if request.requiredReads.all fun object => (AdmittedObject.parts? kind object).isSome then
    .ok .allow
  else .error (.validation (.unreadableObject kind.objectKind "unexpected value"))

namespace AdmissionRequest

theorem verdict_of_read (read : ∀ object ∈ request.requiredReads,
    AdmittedObject.parts? kind object ≠ none) : request.verdict kind = .ok .allow := by
  refine if_pos (List.all_eq_true.mpr fun object mem => ?_)
  exact Option.isSome_iff_ne_none.mpr (read object mem)

theorem verdict_of_unread {object : Json} (mem : object ∈ request.requiredReads)
    (unread : AdmittedObject.parts? kind object = none) :
    request.verdict kind =
      .error (.validation (.unreadableObject kind.objectKind "unexpected value")) := by
  refine if_neg fun read => ?_
  have := List.all_eq_true.mp read object mem
  rw [unread] at this
  cases this

end AdmissionRequest

/-! ### Reviews -/

variable {ns : String}

theorem reviewCreate_of_unannotated (unannotated : request.Unannotated)
    (operation : request.operation = .create) :
    reviewCreate request kind ns = Attempt.ofExcept (request.verdict kind) := by
  have reads : request.requiredReads = if request.name = "" then [] else request.object.toList := by
    unfold AdmissionRequest.requiredReads
    rw [operation]
  unfold reviewCreate
  split
  · next unnamed =>
    rw [AdmissionRequest.verdict_of_read (by simp [reads, unnamed])]
    rfl
  · next absent _ =>
    rw [AdmissionRequest.verdict_of_read (by simp [reads, absent])]
    rfl
  · next object present named =>
    have reads : request.requiredReads = [object] := by
      rw [reads, present]
      exact if_neg fun unnamed => named unnamed
    by_cases unread : AdmittedObject.parts? kind object = none
    · rw [AdmittedObject.decode_of_unread unread,
        AdmissionRequest.verdict_of_unread (by simp [reads]) unread]
      rfl
    · obtain ⟨target, decoded⟩ := AdmittedObject.exists_decode unread
      have unset : Annotations.hasSettings target.allAnnotations = false :=
        (AdmittedObject.unset_of_decode (unannotated.1 object present) decoded).hasSettings
      rw [decoded, AdmissionRequest.verdict_of_read (by simp [reads, unread])]
      exact if_neg (by simp [Annotations.needsMutation, unset])

theorem reviewUpdate_of_unannotated (unannotated : request.Unannotated)
    (operation : request.operation = .update) :
    reviewUpdate request kind ns = Attempt.ofExcept (request.verdict kind) := by
  unfold reviewUpdate
  split
  · next object old present former =>
    have reads : request.requiredReads = [object, old] := by
      unfold AdmissionRequest.requiredReads
      rw [operation, present, former]
    by_cases unread : AdmittedObject.parts? kind object = none
    · rw [AdmittedObject.decode_of_unread unread,
        AdmissionRequest.verdict_of_unread (by simp [reads]) unread]
      rfl
    obtain ⟨target, decoded⟩ := AdmittedObject.exists_decode unread
    by_cases unreadOld : AdmittedObject.parts? kind old = none
    · rw [decoded, AdmittedObject.decode_of_unread unreadOld,
        AdmissionRequest.verdict_of_unread (by simp [reads]) unreadOld]
      rfl
    obtain ⟨live, decodedOld⟩ := AdmittedObject.exists_decode unreadOld
    have unset := AdmittedObject.unset_of_decode (unannotated.1 object present) decoded
    have unsetOld := AdmittedObject.unset_of_decode (unannotated.2 old former) decodedOld
    have unneeded := unset.updateNeedsMutation unsetOld kind.isPod
    rw [decoded, decodedOld, AdmissionRequest.verdict_of_read (by simp [reads, unread, unreadOld])]
    exact if_neg (by simp [Annotations.needsMutation, unneeded])
  · next absent =>
    have reads : request.requiredReads = [] := by
      unfold AdmissionRequest.requiredReads
      rw [operation]
      dsimp only
      split
      · next object old present former => exact absurd former (absent object old present)
      · rfl
    rw [AdmissionRequest.verdict_of_read (by simp [reads])]
    rfl

/-- Nothing is removed with a workload that has no settings. -/
theorem reviewDelete_of_unannotated (unannotated : request.Unannotated) :
    reviewDelete request kind ns = pure () := by
  unfold reviewDelete
  split
  · rfl
  · next old former =>
    split
    · rfl
    · next live decoded =>
      have unset : Annotations.hasSettings live.allAnnotations = false :=
        (AdmittedObject.unset_of_decode (unannotated.2 old former) decoded).hasSettings
      simp [unset]

/-- Whatever is done with a workload without settings, its review is the verdict on the objects that
have to be read. -/
theorem review_eq_verdict (unannotated : request.Unannotated)
    (known : WorkloadKind.ofName? request.kind = some kind)
    (seen : request.namespace_.getD "" ∉ WellKnown.ignoredNamespaces) :
    review request = Attempt.ofExcept (request.verdict kind) := by
  have noReads (reads : request.requiredReads = []) : request.verdict kind = .ok .allow :=
    AdmissionRequest.verdict_of_read (by simp [reads])
  unfold review
  dsimp only
  rw [known]
  dsimp only
  rw [if_neg (by simpa using seen)]
  cases operation : request.operation with
  | create => exact reviewCreate_of_unannotated unannotated operation
  | update => exact reviewUpdate_of_unannotated unannotated operation
  | delete =>
    have reads : request.requiredReads = [] := by
      unfold AdmissionRequest.requiredReads
      rw [operation]
    dsimp only
    rw [reviewDelete_of_unannotated unannotated, noReads reads]
    rfl
  | connect =>
    have reads : request.requiredReads = [] := by
      unfold AdmissionRequest.requiredReads
      rw [operation]
    rw [noReads reads]
    rfl

/-- The review of a workload without settings asks nothing, and fails exactly where an object that
has to be read cannot be read. -/
theorem review_of_unannotated (unannotated : request.Unannotated) :
    (request.Unreadable → ∃ failure, review request = Attempt.ofExcept (.error failure)) ∧
      (¬request.Unreadable → review request = Attempt.ofExcept (.ok .allow)) := by
  constructor
  · rintro ⟨kind, known, seen, object, mem, unread⟩
    rw [review_eq_verdict unannotated known seen, AdmissionRequest.verdict_of_unread mem unread]
    exact ⟨_, rfl⟩
  · intro readable
    cases known : WorkloadKind.ofName? request.kind with
    | none =>
      unfold review
      rw [known]
      rfl
    | some kind =>
      by_cases seen : request.namespace_.getD "" ∈ WellKnown.ignoredNamespaces
      · unfold review
        rw [known]
        exact if_pos (List.contains_iff_mem.mpr seen)
      · have read : ∀ object ∈ request.requiredReads,
            AdmittedObject.parts? kind object ≠ none := fun object mem unread =>
          readable ⟨kind, known, seen, object, mem, unread⟩
        rw [review_eq_verdict unannotated known seen, AdmissionRequest.verdict_of_read read]

/-- **Workloads without settings are left alone.**  Whatever is done with an object without
settings, of any kind, in any namespace and under either policy, the answer is counted and nothing
else is asked of the cluster or of the network.  The object is not patched, and it is allowed unless
failures deny and an object that has to be read is not one of the kind it goes by. -/
theorem unannotated_admission (unannotated : request.Unannotated) (policy : FailurePolicy) :
    ∃ outcome response, decideAdmission policy request = request.conclude outcome response ∧
      (∀ patch, response ≠ .patch patch) ∧
      (response = .allow ↔ ¬(policy = .fail ∧ request.Unreadable)) := by
  by_cases unreadable : request.Unreadable
  · obtain ⟨failure, failed⟩ := (review_of_unannotated unannotated).1 unreadable
    unfold decideAdmission
    rw [failed]
    cases policy with
    | fail =>
      refine ⟨.denied, .deny failure.message, rfl, by simp, ?_⟩
      simp [unreadable]
    | ignore => exact ⟨.ignored, .allow, rfl, by simp, by simp⟩
  · have allowed := (review_of_unannotated unannotated).2 unreadable
    unfold decideAdmission
    rw [allowed]
    exact ⟨.allowed, .allow, rfl, by simp, by simp [unreadable]⟩

/-! ### Two workloads of the same name -/

/-- A workload that is called a `Deployment` in some group, with an annotation of its own. -/
def plainWorkload (apiVersion : String) : Json :=
  .object
    [("apiVersion", .string apiVersion), ("kind", .string "Deployment"),
      ("metadata", .object
        [("name", .string "edge"), ("annotations", .object [("team", .string "edge")])])]

/-- A request for a new workload of this kind. -/
def requestForPlain (apiVersion : String) : AdmissionRequest where
  uid := "1"
  kind := "Deployment"
  name := "edge"
  namespace_ := some "apps"
  operation := .create
  object := some (plainWorkload apiVersion)
  oldObject := none

theorem requestForPlain_unannotated (apiVersion : String) :
    (requestForPlain apiVersion).Unannotated := by
  refine ⟨?_, by simp [requestForPlain]⟩
  rintro _ ⟨⟩ key vendor
  have other : "team" ≠ key := by
    rintro rfl
    revert vendor
    decide
  simp [plainWorkload, PatchOperation.annotationsPath, child?, get?, Assoc.lookup, other]

/-- A plain workload of the cluster's own group is admitted. -/
theorem plainWorkload_admitted : ∃ outcome, decideAdmission .fail (requestForPlain "apps/v1") =
    (requestForPlain "apps/v1").conclude outcome .allow := by
  obtain ⟨outcome, response, concluded, -, allowed⟩ :=
    unannotated_admission (requestForPlain_unannotated "apps/v1") .fail
  have read : AdmittedObject.parts? .deployment (plainWorkload "apps/v1") ≠ none := by
    decide +kernel
  have readable : ¬(requestForPlain "apps/v1").Unreadable := by
    rintro ⟨kind, known, -, object, mem, unread⟩
    cases known
    obtain rfl := List.mem_singleton.mp mem
    exact read unread
  rw [allowed.mpr fun unreadable => readable unreadable.2] at concluded
  exact ⟨outcome, concluded⟩

/-- A plain workload of another group is denied, though nothing about it concerns a gateway. -/
theorem foreignWorkload_denied : (requestForPlain "example.com/v1").Unannotated ∧
    ∃ message, decideAdmission .fail (requestForPlain "example.com/v1") =
      (requestForPlain "example.com/v1").conclude .denied (.deny message) := by
  have unannotated := requestForPlain_unannotated "example.com/v1"
  have unread : AdmittedObject.parts? .deployment (plainWorkload "example.com/v1") = none := by
    decide +kernel
  have known : WorkloadKind.ofName? (requestForPlain "example.com/v1").kind = some .deployment := by
    decide
  refine ⟨unannotated,
    Failure.message (.validation (.unreadableObject .deployment "unexpected value")), ?_⟩
  unfold decideAdmission
  rw [review_eq_verdict unannotated known (by decide +kernel),
    AdmissionRequest.verdict_of_unread List.mem_cons_self unread]
  rfl

end GatewayOperator
