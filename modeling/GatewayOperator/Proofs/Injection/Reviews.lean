import GatewayOperator.Proofs.Injection.Flows

/-!
# The runs of a review

A review looks at a workload, decides whether anything has to be done, and does it.  What its answer
is depends on the policy only where it fails.

## Main Definitions

* `FailurePolicy.answer` — the answer to a request, from what its review came to.

## Main Statements

* `decideAdmission_yields` — a request is answered by what its review comes to.
* `reviewCreate_yields`, `reviewUpdate_yields` — a workload is let through unread, refused unread,
  or injected and renewed.
* `Refreshes.patch_ne_nil` — a change that has to be acted on is never let through without a patch.
* `review_yields` — a review goes by what is done with the workload.
* `reviewCreate_outcome`, `reviewUpdate_outcome` — a review patches a workload or leaves nothing
  behind.
* `reviewCreate_succeeds`, `reviewUpdate_succeeds` — a review patches a workload where nothing is
  refused.
-/

namespace GatewayOperator

/-- The answer to a request, from what its review came to. -/
def FailurePolicy.answer (policy : FailurePolicy) :
    Except Failure Mutation → AdmissionResponse
  | .ok .allow => .allow
  | .ok (.patch patch) => .patch patch
  | .error failure =>
    match policy with
    | .fail => .deny failure.message
    | .ignore => .allow

variable {P : Platform} {policy : FailurePolicy} {request : AdmissionRequest}
  {kind : WorkloadKind} {ns : String} {c c' : Cluster} {t : Transcript}

/-- A request is answered by what its review comes to; the outcome is counted. -/
theorem decideAdmission_yields {response : AdmissionResponse}
    (run : (decideAdmission policy request).Yields P.Answers c t response c') :
    ∃ r reviewed outcome, (review request).run.Yields P.Answers c reviewed r c' ∧
      response = policy.answer r ∧
      t = reviewed ++ [⟨.measure (.admission request.operation.label outcome), ()⟩] := by
  -- Whatever is answered, the outcome is counted and nothing else happens.
  have count {outcome : AdmissionOutcome} {answer : AdmissionResponse} {mid : Cluster}
      {t' : Transcript}
      (run : (do
        Program.query (.measure (.admission request.operation.label outcome))
        return answer : Program AdmissionResponse).Yields P.Answers mid t' response c') :
      response = answer ∧ c' = mid ∧
        t' = [⟨.measure (.admission request.operation.label outcome), ()⟩] := by
    obtain ⟨u, mid', before, after, asked, ⟨rfl, rfl, rfl⟩, rfl⟩ := Program.yields_bind.mp run
    obtain ⟨answered, rfl⟩ := Program.yields_query.mp asked
    exact ⟨rfl, Platform.answers_measure answered, rfl⟩
  unfold decideAdmission at run
  obtain ⟨r, mid, before, after, reviewed, rest, rfl⟩ := Program.yields_bind.mp run
  rcases r with failure | (_ | patch)
  · cases policy with
    | fail =>
      obtain ⟨rfl, rfl, rfl⟩ := count rest
      exact ⟨_, before, _, reviewed, rfl, rfl⟩
    | ignore =>
      obtain ⟨rfl, rfl, rfl⟩ := count rest
      exact ⟨_, before, _, reviewed, rfl, rfl⟩
  · obtain ⟨rfl, rfl, rfl⟩ := count rest
    exact ⟨_, before, _, reviewed, rfl, rfl⟩
  · obtain ⟨rfl, rfl, rfl⟩ := count rest
    exact ⟨_, before, _, reviewed, rfl, rfl⟩

/-! ### Single workloads -/

/-- A new workload is refused unread, let through because it has no settings, or injected. -/
theorem reviewCreate_yields {r : Except Failure Mutation}
    (run : (reviewCreate request kind ns).run.Yields P.Answers c t r c') :
    ((∃ object e, request.object = some object ∧ AdmittedObject.decode kind object = .error e ∧
      r = .error e) ∧ t = [] ∧ c' = c) ∨
    (r = .ok .allow ∧ t = [] ∧ c' = c ∧
      ∀ object target, request.name ≠ "" → request.object = some object →
        AdmittedObject.decode kind object = .ok target →
        Annotations.hasSettings target.allAnnotations = false) ∨
    ∃ object target, request.name ≠ "" ∧ request.object = some object ∧
      AdmittedObject.decode kind object = .ok target ∧
      Annotations.hasSettings target.allAnnotations = true ∧
      (inject kind request.name ns target).run.Yields P.Answers c t r c' := by
  unfold reviewCreate at run
  split at run
  · next unnamed =>
    obtain ⟨rfl, rfl, rfl⟩ := run
    exact Or.inr (Or.inl ⟨rfl, rfl, rfl, fun _ _ named => absurd unnamed named⟩)
  · next absent _ =>
    obtain ⟨rfl, rfl, rfl⟩ := run
    refine Or.inr (Or.inl ⟨rfl, rfl, rfl, fun object _ _ present => ?_⟩)
    rw [absent] at present
    cases present
  · next object present named =>
    rcases Attempt.yields_bind.mp run with
      ⟨e, rfl, rfl, failed, rfl⟩ | ⟨target, c₀, _, _, ⟨rfl, decoded, rfl⟩, run', rfl⟩
    · exact Or.inl ⟨⟨object, e, present, failed.symm, rfl⟩, rfl, rfl⟩
    · split at run'
      · next settings =>
        exact Or.inr (Or.inr ⟨object, target, fun unnamed => named unnamed, present,
          decoded.symm, settings, run'⟩)
      · next settings =>
        obtain ⟨rfl, rfl, rfl⟩ := run'
        refine Or.inr (Or.inl ⟨rfl, rfl, rfl, fun object' target' _ present' decoded' => ?_⟩)
        cases present.symm.trans present'
        cases decoded.trans decoded'
        exact Bool.eq_false_iff.mpr settings

/-- A changed workload is refused unread, let through because nothing changed that matters, or
renewed. -/
theorem reviewUpdate_yields {r : Except Failure Mutation}
    (run : (reviewUpdate request kind ns).run.Yields P.Answers c t r c') :
    ((∃ e, r = .error e) ∧ t = [] ∧ c' = c) ∨
    (r = .ok .allow ∧ t = [] ∧ c' = c ∧
      ∀ object old target live, request.object = some object → request.oldObject = some old →
        AdmittedObject.decode kind object = .ok target →
        AdmittedObject.decode kind old = .ok live →
        Annotations.updateNeedsMutation target.allAnnotations live.allAnnotations kind.isPod =
          false) ∨
    ∃ object old target live, request.object = some object ∧ request.oldObject = some old ∧
      AdmittedObject.decode kind object = .ok target ∧
      AdmittedObject.decode kind old = .ok live ∧
      Annotations.updateNeedsMutation target.allAnnotations live.allAnnotations kind.isPod = true ∧
      (refresh kind request.name ns target live.allAnnotations).run.Yields P.Answers c t r c' := by
  unfold reviewUpdate at run
  split at run
  · next object old present former =>
    rcases Attempt.yields_bind.mp run with
      ⟨e, rfl, rfl, -, rfl⟩ | ⟨target, c₀, _, _, ⟨rfl, decoded, rfl⟩, run', rfl⟩
    · exact Or.inl ⟨⟨e, rfl⟩, rfl, rfl⟩
    rcases Attempt.yields_bind.mp run' with
      ⟨e, rfl, rfl, -, rfl⟩ | ⟨live, c₀, _, _, ⟨rfl, decodedOld, rfl⟩, run'', rfl⟩
    · exact Or.inl ⟨⟨e, rfl⟩, rfl, rfl⟩
    split at run''
    · next needed =>
      exact Or.inr (Or.inr ⟨object, old, target, live, present, former, decoded.symm,
        decodedOld.symm, needed, run''⟩)
    · next unneeded =>
      obtain ⟨rfl, rfl, rfl⟩ := run''
      refine Or.inr (Or.inl ⟨rfl, rfl, rfl, ?_⟩)
      intro object' old' target' live' present' former' decoded' decodedOld'
      cases present.symm.trans present'
      cases former.symm.trans former'
      cases decoded.trans decoded'
      cases decodedOld.trans decodedOld'
      exact Bool.eq_false_iff.mpr unneeded
  · next absent =>
    -- With one of the objects missing there is nothing to compare.
    obtain ⟨rfl, rfl, rfl⟩ := run
    refine Or.inr (Or.inl ⟨rfl, rfl, rfl, ?_⟩)
    intro object old _ _ present former
    exact absurd former (absent object old present)

/-! ### The patch of a change that matters -/

/-- A change that matters concerns the service or the container. -/
theorem scope_of_needsMutation {incoming live : TextMap} {isPod : Bool}
    (needed : Annotations.updateNeedsMutation incoming live isPod = true) :
    (UpdateScope.ofChanges (Annotations.changedKeys incoming live isPod)).service = true ∨
      (UpdateScope.ofChanges (Annotations.changedKeys incoming live isPod)).container = true := by
  obtain ⟨key, changed, concerns⟩ := List.any_eq_true.mp needed
  obtain ⟨part, concerns⟩ := Option.isSome_iff_exists.mp concerns
  have mem : part ∈ (Annotations.changedKeys incoming live isPod).filterMap Annotations.partOf? :=
    List.mem_filterMap.mpr ⟨key, changed, concerns⟩
  unfold UpdateScope.ofChanges
  cases part with
  | service => exact Or.inl (List.contains_iff_mem.mpr mem)
  | config => exact Or.inr ((Bool.or_eq_true _ _).mpr (Or.inl (List.contains_iff_mem.mpr mem)))
  | container => exact Or.inr ((Bool.or_eq_true _ _).mpr (Or.inr (List.contains_iff_mem.mpr mem)))

theorem isEmpty_recordedNames (scope : UpdateScope) (h : scope.service = true)
    (service configMap : Option String) :
    (recordedNames scope service configMap).isEmpty = false := by
  unfold recordedNames
  rw [if_pos h]
  cases configMap <;> exact Dict.isEmpty_insert _ _ _

/-- A change that has to be acted on is never let through without a patch. -/
theorem Refreshes.patch_ne_nil {name : String} {target : AdmittedObject} {previous : TextMap}
    {patch : Patch} (refreshed : Refreshes P kind name ns target previous c t patch c')
    (needed : Annotations.updateNeedsMutation target.allAnnotations previous kind.isPod = true) :
    patch ≠ [] := by
  obtain ⟨valid, -, -, -, patched, -, -⟩ := refreshed
  obtain ⟨container, rendered⟩ := sidecarContainer_of_validate valid
    (SidecarNames.ofWorkload name kind)
  rw [updatePatch_eq rendered] at patched
  cases patched
  rcases scope_of_needsMutation needed with service | container
  · have recorded := isEmpty_recordedNames (refreshScope kind target previous) service
    simp [recordingPatch, recorded]
  · have remade : (refreshScope kind target previous).container = true := container
    simp [remade]

/-! ### What a review comes to -/

/-- A workload of a known kind is left alone in some namespaces, and reviewed in all others. -/
theorem review_yields (named : WorkloadKind.ofName? request.kind = some kind)
    (located : request.namespace_.getD "" = ns) {r : Except Failure Mutation}
    (run : (review request).run.Yields P.Answers c t r c') :
    (WellKnown.ignoredNamespaces.contains ns = true ∧ r = .ok .allow ∧ t = [] ∧ c' = c) ∨
    (WellKnown.ignoredNamespaces.contains ns = false ∧
      (match request.operation with
        | .create => reviewCreate request kind ns
        | .update => reviewUpdate request kind ns
        | .delete => do
          ExceptT.lift (reviewDelete request kind ns)
          return .allow
        | .connect => return .allow : Attempt Mutation).run.Yields P.Answers c t r c') := by
  unfold review at run
  dsimp only at run
  rw [named, located] at run
  dsimp only at run
  split at run
  · next ignored =>
    obtain ⟨rfl, rfl, rfl⟩ := run
    exact Or.inl ⟨ignored, rfl, rfl, rfl⟩
  · next seen => exact Or.inr ⟨Bool.eq_false_iff.mpr seen, run⟩

/-- The review of a new workload leaves nothing behind, or injects a gateway. -/
theorem reviewCreate_outcome {r : Except Failure Mutation}
    (run : (reviewCreate request kind ns).run.Yields P.Answers c t r c') :
    ((∀ patch, r ≠ .ok (.patch patch)) ∧ Withdrawn P c t c') ∨
    ∃ object target patch, r = .ok (.patch patch) ∧ request.object = some object ∧
      AdmittedObject.decode kind object = .ok target ∧
      Injects P kind request.name ns target c t patch c' := by
  rcases reviewCreate_yields run with ⟨⟨object, e, -, -, rfl⟩, rfl, rfl⟩ | ⟨rfl, rfl, rfl, -⟩ |
    ⟨object, target, -, present, decoded, -, injected⟩
  · exact Or.inl ⟨by simp, .refl P _⟩
  · exact Or.inl ⟨by simp, .refl P _⟩
  · rcases inject_yields injected with ⟨e, rfl, fails⟩ | ⟨patch, rfl, injects⟩
    · exact Or.inl ⟨by simp, fails.withdrawn⟩
    · exact Or.inr ⟨object, target, patch, rfl, present, decoded, injects⟩

/-- The review of a new workload injects a gateway where nothing is refused, if the workload has
valid settings whose sources can be resolved. -/
theorem reviewCreate_succeeds (reliable : P.Reliable) (named : request.name ≠ "") {object : Json}
    {target : AdmittedObject} (present : request.object = some object)
    (decoded : AdmittedObject.decode kind object = .ok target)
    (settings : Annotations.hasSettings target.allAnnotations = true)
    {entries : List ConfigurationEntry} {sources : List Source}
    (valid : Annotations.validate target.allAnnotations = .ok entries)
    (sourced : Source.ofEntries entries = .ok sources)
    (resolves : ∀ c t r c', (resolve ns sources).run.Yields P.Answers c t r c' →
      ∃ document, r = .ok document) {r : Except Failure Mutation}
    (run : (reviewCreate request kind ns).run.Yields P.Answers c t r c') :
    ∃ patch, r = .ok (.patch patch) ∧ Injects P kind request.name ns target c t patch c' := by
  rcases reviewCreate_yields run with ⟨⟨object', e, present', failed, -⟩, -, -⟩ |
    ⟨-, -, -, unset⟩ | ⟨object', target', -, present', decoded', -, injected⟩
  · cases present.symm.trans present'
    rw [decoded] at failed
    cases failed
  · rw [unset object target named present decoded] at settings
    cases settings
  · cases present.symm.trans present'
    cases decoded.symm.trans decoded'
    exact inject_succeeds reliable valid sourced resolves injected

/-- The review of a changed workload makes its gateway anew where nothing is refused, if a change
matters and the workload has valid settings whose sources can be resolved. -/
theorem reviewUpdate_succeeds (reliable : P.Reliable) {object old : Json}
    {target live : AdmittedObject} (present : request.object = some object)
    (former : request.oldObject = some old)
    (decoded : AdmittedObject.decode kind object = .ok target)
    (decodedOld : AdmittedObject.decode kind old = .ok live)
    (needed : Annotations.updateNeedsMutation target.allAnnotations live.allAnnotations kind.isPod =
      true)
    {entries : List ConfigurationEntry} {sources : List Source}
    (valid : Annotations.validate target.allAnnotations = .ok entries)
    (sourced : Source.ofEntries entries = .ok sources)
    (resolves : ∀ c t r c', (resolve ns sources).run.Yields P.Answers c t r c' →
      ∃ document, r = .ok document) {r : Except Failure Mutation}
    (run : (reviewUpdate request kind ns).run.Yields P.Answers c t r c') :
    ∃ patch, r = .ok (.patch patch) ∧
      Refreshes P kind request.name ns target live.allAnnotations c t patch c' := by
  have renewing : reviewUpdate request kind ns =
      refresh kind request.name ns target live.allAnnotations := by
    unfold reviewUpdate
    rw [present, former]
    dsimp only
    rw [decoded, decodedOld]
    exact if_pos needed
  rw [renewing] at run
  rcases refresh_yields run with ⟨e, rfl, fails⟩ | ⟨patch, rfl, refreshes⟩
  · exact (fails.impossible reliable valid sourced resolves).elim
  · rw [if_neg (by simpa using refreshes.patch_ne_nil needed)]
    exact ⟨patch, rfl, refreshes⟩

/-- The review of a changed workload leaves nothing behind, or makes its gateway anew; it is only
let through if nothing has changed that matters. -/
theorem reviewUpdate_outcome {r : Except Failure Mutation}
    (run : (reviewUpdate request kind ns).run.Yields P.Answers c t r c') :
    ((∀ patch, r ≠ .ok (.patch patch)) ∧ Withdrawn P c t c' ∧
      (r = .ok .allow → ∀ object old target live, request.object = some object →
        request.oldObject = some old → AdmittedObject.decode kind object = .ok target →
        AdmittedObject.decode kind old = .ok live →
        Annotations.updateNeedsMutation target.allAnnotations live.allAnnotations kind.isPod =
          false)) ∨
    ∃ object old target live patch, r = .ok (.patch patch) ∧ request.object = some object ∧
      request.oldObject = some old ∧ AdmittedObject.decode kind object = .ok target ∧
      AdmittedObject.decode kind old = .ok live ∧
      Refreshes P kind request.name ns target live.allAnnotations c t patch c' := by
  rcases reviewUpdate_yields run with
    ⟨⟨e, rfl⟩, rfl, rfl⟩ | ⟨rfl, rfl, rfl, unneeded⟩ |
      ⟨object, old, target, live, present, former, decoded, decodedOld, needed, refreshed⟩
  · exact Or.inl ⟨by simp, .refl P _, by simp⟩
  · exact Or.inl ⟨by simp, .refl P _, fun _ => unneeded⟩
  · rcases refresh_yields refreshed with ⟨e, rfl, fails⟩ | ⟨patch, rfl, refreshes⟩
    · exact Or.inl ⟨by simp, fails.withdrawn, by simp⟩
    · -- A change that matters has a patch, so the last case of a renewal does not arise.
      have nonempty := refreshes.patch_ne_nil needed
      rw [if_neg (by simpa using nonempty)]
      exact Or.inr ⟨object, old, target, live, patch, rfl, present, former, decoded, decodedOld,
        refreshes⟩

/-- Where the review of a changed workload ends with a patch, its gateway was made anew. -/
theorem review_renewed {patch : Patch} (updates : request.operation = .update)
    (named : WorkloadKind.ofName? request.kind = some kind)
    (run : (review request).run.Yields P.Answers c t (.ok (.patch patch)) c') :
    ∃ object old target live, request.object = some object ∧ request.oldObject = some old ∧
      AdmittedObject.decode kind object = .ok target ∧
      AdmittedObject.decode kind old = .ok live ∧
      Refreshes P kind request.name (request.namespace_.getD "") target live.allAnnotations c t
        patch c' := by
  rcases review_yields named rfl run with ⟨-, impossible, -, -⟩ | ⟨-, run'⟩
  · cases impossible
  rw [updates] at run'
  rcases reviewUpdate_outcome run' with ⟨unpatched, -, -⟩ |
    ⟨object, old, target, live, _, same, present, former, decoded, decodedOld, refreshes⟩
  · exact absurd rfl (unpatched patch)
  · cases same
    exact ⟨object, old, target, live, present, former, decoded, decodedOld, refreshes⟩

/-- Where a review ends with a patch, a gateway was injected into a new workload or made anew for a
changed one. -/
theorem review_patched {patch : Patch} (known : WorkloadKind.ofName? request.kind = some kind)
    (run : (review request).run.Yields P.Answers c t (.ok (.patch patch)) c') :
    ∃ object target, request.object = some object ∧
      AdmittedObject.decode kind object = .ok target ∧
      (Injects P kind request.name (request.namespace_.getD "") target c t patch c' ∨
        ∃ old live, request.oldObject = some old ∧ AdmittedObject.decode kind old = .ok live ∧
          Refreshes P kind request.name (request.namespace_.getD "") target live.allAnnotations c t
            patch c') := by
  rcases review_yields known rfl run with ⟨-, impossible, -, -⟩ | ⟨-, run'⟩
  · cases impossible
  cases operation : request.operation with
  | create =>
    rw [operation] at run'
    rcases reviewCreate_outcome run' with
      ⟨unpatched, -⟩ | ⟨object, target, _, same, present, decoded, injects⟩
    · exact absurd rfl (unpatched patch)
    · cases same
      exact ⟨object, target, present, decoded, Or.inl injects⟩
  | update =>
    obtain ⟨object, old, target, live, present, former, decoded, decodedOld, refreshes⟩ :=
      review_renewed operation known run
    exact ⟨object, target, present, decoded, Or.inr ⟨old, live, former, decodedOld, refreshes⟩⟩
  | delete =>
    rw [operation] at run'
    obtain ⟨_, mid, t₁, t₂, -, ⟨-, impossible, -⟩, -⟩ := Attempt.yields_lift_bind.mp run'
    cases impossible
  | connect =>
    rw [operation] at run'
    cases run'.2.1

end GatewayOperator
