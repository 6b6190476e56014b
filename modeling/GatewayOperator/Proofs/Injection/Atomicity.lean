import GatewayOperator.Proofs.Injection.Reviews
import GatewayOperator.Proofs.Worlds

/-!
# Atomicity of a review

A review either patches a workload or leaves no trace.  It may be cut short at every call to the
cluster, at every request and by everything that it reads.

## Main Statements

* `Withdrawn.kept`, `Withdrawn.unchanged` — what is left of a failed attempt.
* `unpatched_admission_leaves_no_trace` — a review that does not patch leaves everything as it was.
-/

namespace GatewayOperator

/-- What was there before a failed attempt is still there. -/
theorem Shelf.Restored.kept {α : Type} {removable : Prop} {shelf shelf' : Shelf α}
    (restored : shelf.Restored removable shelf') {key : ObjectKey} {object : α}
    (found : shelf.get? key = some object) : shelf'.get? key = some object := by
  rcases restored with rfl | ⟨-, added, made, free, rfl⟩
  · exact found
  · rw [Dict.get?_insert, if_neg ?_, found]
    rintro rfl
    rw [free] at found
    cases found

/-- Where everything could be removed, nothing is left of a failed attempt. -/
theorem Shelf.Restored.unchanged {α : Type} {removable : Prop} {shelf shelf' : Shelf α}
    (restored : shelf.Restored removable shelf') (removed : removable) : shelf' = shelf := by
  rcases restored with same | ⟨stuck, -⟩
  · exact same
  · exact absurd removed stuck

variable {P : Platform} {policy : FailurePolicy} {request : AdmissionRequest}
  {kind : WorkloadKind} {ns : String} {c c' : Cluster} {t : Transcript}

/-- A review of a new or a changed workload that does not patch it leaves nothing behind. -/
theorem review_withdrawn (writes : request.operation = .create ∨ request.operation = .update)
    {r : Except Failure Mutation}
    (run : (review request).run.Yields P.Answers c t r c')
    (unpatched : ∀ patch, r ≠ .ok (.patch patch)) : Withdrawn P c t c' := by
  unfold review at run
  dsimp only at run
  split at run
  · obtain ⟨rfl, -, rfl⟩ := run
    exact .refl P _
  · split at run
    · obtain ⟨rfl, -, rfl⟩ := run
      exact .refl P _
    · rcases writes with create | update
      · rw [create] at run
        rcases reviewCreate_outcome run with ⟨-, withdrawn⟩ | ⟨_, _, patch, patched, -⟩
        · exact withdrawn
        · exact absurd patched (unpatched patch)
      · rw [update] at run
        rcases reviewUpdate_outcome run with ⟨-, withdrawn, -⟩ | ⟨_, _, _, _, patch, patched, -⟩
        · exact withdrawn
        · exact absurd patched (unpatched patch)

/-- **A review that does not patch leaves no trace.**  Whatever is refused and whatever the network
answers, every config map and every service that was there before is still there unchanged, also if
nothing can be removed.  If what was made can be removed, there are no others either. -/
theorem unpatched_admission_leaves_no_trace
    (writes : request.operation = .create ∨ request.operation = .update)
    {response : AdmissionResponse}
    (run : (decideAdmission policy request).Yields P.Answers c t response c')
    (unpatched : ∀ patch, response ≠ .patch patch) :
    ((∀ key object, c.configMaps.get? key = some object →
        c'.configMaps.get? key = some object) ∧
      ∀ key object, c.services.get? key = some object → c'.services.get? key = some object) ∧
    (P.Removes t → c'.configMaps = c.configMaps ∧ c'.services = c.services) := by
  obtain ⟨r, reviewed, outcome, reviewing, rfl, rfl⟩ := decideAdmission_yields run
  have withdrawn : Withdrawn P c reviewed c' := by
    refine review_withdrawn writes reviewing fun patch patched => unpatched patch ?_
    rw [patched]
    rfl
  refine ⟨⟨fun key object => withdrawn.configMaps.kept, fun key object =>
    withdrawn.services.kept⟩, fun removes => ?_⟩
  have removes : P.Removes reviewed := removes.mono fun x mem => List.mem_append_left _ mem
  exact ⟨withdrawn.configMaps.unchanged removes, withdrawn.services.unchanged removes⟩

/-- A replicated workload in the form in which it is reviewed, with some settings. -/
def sampleWorkload (settings : List (String × String)) : Json :=
  .object
    [("metadata", .object
      [("annotations",
        .object (settings.map fun s => (WellKnown.vendorPrefix ++ s.1, .string s.2)))]),
    ("spec", .object [("template", .object [("spec", .object [("containers", .array [])])])])]

/-- A request for a workload that asks for a service but names no image. -/
def requestWithoutImage : AdmissionRequest where
  uid := "1"
  kind := "Deployment"
  name := "edge"
  namespace_ := some "apps"
  operation := .create
  object := some (sampleWorkload [("service.port", "30500")])
  oldObject := none

/-- A world with a service of someone else. -/
def worldWithService : World where
  cluster := { services := Dict.ofList [(⟨"apps", "other"⟩, ⟨{ name := some "other" }, none⟩)] }

/-- A request for a workload that asks for a service and takes its configuration from a config map
that does not exist. -/
def requestWithoutConfigMap : AdmissionRequest :=
  { requestWithoutImage with
    object := some (sampleWorkload
      [("deployment.image", "gateway:1"), ("service.port", "30500"),
        ("configuration.main.type", "configmap"), ("configuration.main.order", "0"),
        ("configuration.main.name", "absent"), ("configuration.main.dataKey", "config.yaml")]) }

/-- The service of such a workload is made before its configuration is looked for.  The workload is
denied, and the service of someone else is alone again. -/
theorem denied_admission_leaves_no_trace :
    ∃ t c', (decideAdmission .fail requestWithoutConfigMap).Yields
        worldWithService.platform.Answers worldWithService.cluster t
        (.deny "ConfigMap absent not found") c' ∧
      t.madeServices ≠ [] ∧ c'.configMaps = worldWithService.cluster.configMaps ∧
      c'.services = worldWithService.cluster.services := by
  have made : (worldWithService.transcript
      (decideAdmission .fail requestWithoutConfigMap)).madeServices ≠ [] := by
    decide +kernel
  have denied : (match (worldWithService.perform
        (decideAdmission .fail requestWithoutConfigMap)).1 with
      | .deny message => some message
      | _ => none) = some "ConfigMap absent not found" := by
    decide +kernel
  have creates : requestWithoutConfigMap.operation = .create := rfl
  -- From here on the request is a name, as its review would be unfolded otherwise.
  generalize requestWithoutConfigMap = request at made denied creates ⊢
  have run := worldWithService.yields_transcript (decideAdmission .fail request)
  have denied : (worldWithService.perform (decideAdmission .fail request)).1 =
      .deny "ConfigMap absent not found" := by
    split at denied
    · next answered =>
      rw [answered, Option.some.inj denied]
    · cases denied
  rw [denied] at run
  have removable : worldWithService.platform.Removes (worldWithService.transcript
      (decideAdmission .fail request)) := by
    refine Or.inl fun ns name => ⟨⟨rfl, fun operation _ => ?_⟩, ⟨rfl, fun operation _ => ?_⟩⟩
    · exact ⟨List.not_mem_nil, List.not_mem_nil⟩
    · exact ⟨List.not_mem_nil, List.not_mem_nil⟩
  have trace := unpatched_admission_leaves_no_trace (Or.inl creates) run (by simp)
  exact ⟨_, _, run, made, trace.2 removable⟩

end GatewayOperator
