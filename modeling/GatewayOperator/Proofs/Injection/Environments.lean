import GatewayOperator.Proofs.Injection.Replacements

/-!
# The environment of a pod's gateway

The environment of a running pod cannot be changed, so an update of a pod does not look at settings
of the environment.  But a container that is made anew for another reason is made from all settings.
This module says when the gateway of a pod keeps its environment.

## Main Definitions

* `PodSpec.sidecar?` — the container of a pod that is its gateway.
* `Container.environment`, `Annotations.environment` — the environment that a container has and the
  one that settings ask for.

## Main Statements

* `remade_in_pod_iff` — which settings make the container of a pod anew.
* `Refreshes.sidecar_remade`, `Refreshes.pod_kept` — what becomes of the gateway of a pod.
* `pod_keeps_environment_iff` — when the gateway of a patched pod keeps its environment.

## Design Notes

Where several containers of a pod have the name that an injection uses, the first one is the
gateway: it is the one that an update replaces.
-/

namespace GatewayOperator

open AdmittedObject

/-! ### Settings that make a container anew -/

namespace Annotations

/-- What starts like the setting of the image concerns the container. -/
theorem partOf?_image (rest : String) :
    partOf? (WellKnown.vendorPrefix ++ (imageKey ++ rest)) = some .container := by
  have configuration : Text.hasPrefix configurationKey (imageKey ++ rest) = false := by
    unfold Text.hasPrefix
    rw [String.toList_append]
    rfl
  have service : Text.hasPrefix servicePortKey (imageKey ++ rest) = false := by
    unfold Text.hasPrefix
    rw [String.toList_append]
    rfl
  rw [partOf?_setting, configuration, service, Text.hasPrefix_append_self imageKey rest]
  simp

theorem isEnvKey_image (rest : String) :
    isEnvKey (WellKnown.vendorPrefix ++ (imageKey ++ rest)) = false := by
  unfold isEnvKey Text.hasPrefix
  rw [String.toList_append, String.toList_append, String.toList_append]
  rfl

/-- Apart from the environment, nothing else concerns it. -/
theorem image_of_partOf? {key : String} (concerns : partOf? key = some .container)
    (other : isEnvKey key = false) : ∃ rest, key = WellKnown.vendorPrefix ++ (imageKey ++ rest) := by
  obtain ⟨setting, rfl⟩ := Text.hasPrefix_iff.mp (vendor_of_partOf? concerns)
  rw [partOf?_setting] at concerns
  split at concerns
  · cases concerns
  split at concerns
  · cases concerns
  split at concerns
  · next started =>
    rcases Bool.or_eq_true_iff.mp started with image | env
    · obtain ⟨rest, rfl⟩ := Text.hasPrefix_iff.mp image
      exact ⟨rest, rfl⟩
    · obtain ⟨rest, rfl⟩ := Text.hasPrefix_iff.mp env
      rw [isEnvKey, ← String.append_assoc, Text.hasPrefix_append_self] at other
      cases other
  · cases concerns

/-- The environment that settings ask for. -/
def environment (a : TextMap) : List EnvVar := (env a).map fun v => ⟨v.1, some v.2⟩

end Annotations

variable {P : Platform} {request : AdmissionRequest} {kind : WorkloadKind} {ns name : String}
  {names : SidecarNames} {a previous : TextMap} {c c' : Cluster} {t : Transcript} {patch : Patch}
  {object : Json} {target : AdmittedObject} {container held : Container} {pod : PodSpec}

/-- In a pod the container is made anew exactly if a setting of the image or of the configuration
differs. -/
theorem remade_in_pod_iff : (refreshScope .pod target previous).container = true ↔
    Annotations.Differs Annotations.imageKey target.allAnnotations previous ∨
      Annotations.Differs Annotations.configurationKey target.allAnnotations previous := by
  have config := Companion.configMap.inScope_iff .pod target previous
  have either : (refreshScope .pod target previous).container = true ↔
      .container ∈ (Annotations.changedKeys target.allAnnotations previous true).filterMap
        Annotations.partOf? ∨ (refreshScope .pod target previous).config = true := by
    rw [or_comm, ← List.contains_iff_mem]
    exact Bool.or_eq_true_iff
  rw [either]
  refine or_congr ⟨fun mem => ?_, ?_⟩ config
  · obtain ⟨key, changed, concerns⟩ := List.mem_filterMap.mp mem
    obtain ⟨seen, differs⟩ := Bool.and_eq_true_iff.mp (List.mem_filter.mp changed).2
    have other : Annotations.isEnvKey key = false := by
      simpa using (Bool.and_eq_true_iff.mp seen).2
    obtain ⟨rest, rfl⟩ := Annotations.image_of_partOf? concerns other
    exact ⟨rest, of_decide_eq_true differs⟩
  · rintro ⟨rest, differs⟩
    refine Decidable.not_not.mp fun unchanged => differs ?_
    exact Annotations.get?_eq_of_unchanged (Annotations.partOf?_image rest)
      (by rw [Annotations.isEnvKey_image, Bool.and_false]) unchanged

/-- A container is only made anew for a change that matters. -/
theorem needed_of_remade (remade : (refreshScope kind target previous).container = true) :
    Annotations.updateNeedsMutation target.allAnnotations previous kind.isPod = true := by
  refine (Bool.eq_false_or_eq_true _).resolve_right fun unneeded => ?_
  rw [refreshScope_of_unneeded unneeded] at remade
  cases remade

/-! ### The gateway of a pod -/

/-- The environment of a container. -/
def Container.environment (c : Container) : List EnvVar := c.env.getD []

/-- The container of a pod that is its gateway. -/
def PodSpec.sidecar? (pod : PodSpec) (names : SidecarNames) : Option Container :=
  (pod.sidecars names).head?

/-- The container of a gateway has the environment that the settings ask for. -/
theorem environment_of_sidecarContainer (rendered : sidecarContainer names a = .ok container) :
    container.environment = Annotations.environment a := by
  unfold sidecarContainer at rendered
  split at rendered
  · cases rendered
  · cases rendered
    unfold Container.environment Annotations.environment sidecarEnv
    split
    · next nothing => rw [nothing]; rfl
    · rfl

/-- The gateway of a pod whose container is made anew has the environment that its settings ask
for. -/
theorem Refreshes.sidecar_remade
    (refreshes : Refreshes P kind name ns target previous c t patch c')
    (remade : (refreshScope kind target previous).container = true)
    (decoded : decode kind object = .ok target)
    (here : target.pod.sidecar? (.ofWorkload name kind) = some held) :
    ∃ object' target' container, patch.apply object = some object' ∧
      decode kind object' = .ok target' ∧
      target'.pod.sidecar? (.ofWorkload name kind) = some container ∧
      container.environment = Annotations.environment target.allAnnotations := by
  obtain ⟨container, current, rendered, -, applies, refreshed⟩ :=
    refreshes.refreshed remade decoded
  -- A pod that holds a container is there.
  have legible : ∃ metadata pod, Legible kind object metadata pod := by
    obtain ⟨metadata, _ | pod, read, rfl⟩ := parts?_of_decode decoded
    · cases here
    · exact ⟨metadata, pod, read⟩
  obtain ⟨object', applied⟩ := applies.mpr legible
  obtain ⟨target', decoded', remains⟩ := refreshed object' applied
  refine ⟨object', target', container, applied, decoded', ?_,
    environment_of_sidecarContainer rendered⟩
  unfold PodSpec.sidecar?
  rw [remains, sidecars_refreshedPod rendered remade, List.head?_cons]

/-- A pod whose container is not made anew stays as it is. -/
theorem Refreshes.pod_kept (refreshes : Refreshes P kind name ns target previous c t patch c')
    (kept : (refreshScope kind target previous).container = false)
    (decoded : decode kind object = .ok target) :
    ∃ object' target', patch.apply object = some object' ∧ decode kind object' = .ok target' ∧
      target'.pod = target.pod := by
  cases refreshes with
  | @intro entries sources service configMap _ c₁ c₂ c₃ _ t₁ t₂ t₃ t₄ valid _ _ _ patched _ _ =>
    obtain ⟨a, pod, container, rfl, rendered⟩ :=
      rendered_of_validate valid (SidecarNames.ofWorkload name kind)
    rw [updatePatch_eq rendered, if_neg (by simp [kept]), List.nil_append] at patched
    cases patched
    obtain ⟨metadata, found, read, same⟩ := parts?_of_decode decoded
    obtain ⟨annotated, held⟩ := AdmittedObject.mk.inj same
    obtain ⟨object', applied, read'⟩ := exists_recordingPatch read annotated.symm pod _
    exact ⟨object', _, applied, decode_of_parts? read', held.symm⟩

/-- **When a pod keeps its environment.**  An update of a pod that comes to a patch can be applied to
it.  If its gateway has the environment that it had before, it has that environment after the patch
exactly if no setting of the image or of the configuration differs, or the submitted settings ask for
that environment. -/
theorem pod_keeps_environment_iff (updates : request.operation = .update)
    (named : WorkloadKind.ofName? request.kind = some .pod)
    (run : (review request).run.Yields P.Answers c t (.ok (.patch patch)) c') :
    ∃ object old target live, request.object = some object ∧ request.oldObject = some old ∧
      decode .pod object = .ok target ∧ decode .pod old = .ok live ∧
      ∀ held before, target.pod.sidecar? (.ofWorkload request.name .pod) = some held →
        live.pod.sidecar? (.ofWorkload request.name .pod) = some before →
        held.environment = before.environment →
        ∃ object' target' container, patch.apply object = some object' ∧
          decode .pod object' = .ok target' ∧
          target'.pod.sidecar? (.ofWorkload request.name .pod) = some container ∧
          (container.environment = before.environment ↔
            ¬(Annotations.Differs Annotations.imageKey target.allAnnotations
                live.allAnnotations ∨
              Annotations.Differs Annotations.configurationKey target.allAnnotations
                live.allAnnotations) ∨
            Annotations.environment target.allAnnotations = before.environment) := by
  obtain ⟨object, old, target, live, present, former, decoded, decodedOld, refreshes⟩ :=
    review_renewed updates named run
  refine ⟨object, old, target, live, present, former, decoded, decodedOld,
    fun held before here there same => ?_⟩
  rw [← remade_in_pod_iff]
  cases scope : (refreshScope .pod target live.allAnnotations).container with
  | true =>
    obtain ⟨object', target', container, applied, decoded', first, environment⟩ :=
      refreshes.sidecar_remade scope decoded here
    refine ⟨object', target', container, applied, decoded', first, ?_⟩
    rw [environment]
    simp
  | false =>
    obtain ⟨object', target', applied, decoded', kept⟩ := refreshes.pod_kept scope decoded
    refine ⟨object', target', held, applied, decoded', by rw [kept, here], ?_⟩
    exact iff_of_true same (Or.inl Bool.false_ne_true)

/-- The gateway of a pod, with a language. -/
def gatewayInC : Container :=
  { name := "edge-pod-app-gateway-sidecar-pod", env := some [⟨"LANG", some "C"⟩] }

/-- A pod with this gateway, of which the annotations are said. -/
def podInC (a : TextMap) : Json :=
  .object
    [("metadata", .object [("annotations", .ofTextMap a)]),
      ("spec", .object [("containers", .array [gatewayInC.toJson])])]

theorem legible_podInC (a : TextMap) :
    Legible .pod (podInC a) { annotations := some a } ⟨[gatewayInC], none, none, none⟩ := by
  have pod : Pod.ofJson? (podInC a) =
      some ⟨{ annotations := some a }, some ⟨[gatewayInC], none, none, none⟩⟩ :=
    Pod.ofJson?_eq_some_iff.mpr ⟨⟨_, rfl⟩, rfl, readMetadata_annotations a, rfl⟩
  unfold Legible parts?
  dsimp only
  rw [pod]
  rfl

/-- A request to change the annotations of this pod. -/
def podRequest (incoming live : TextMap) : AdmissionRequest :=
  { requestForGateway with
    kind := "Pod"
    operation := .update
    object := some (podInC incoming)
    oldObject := some (podInC live) }

/-- Settings with a language. -/
def inLanguage (a : TextMap) (language : String) : TextMap :=
  a.insert (WellKnown.vendorPrefix ++ (Annotations.envKey ++ "LANG")) language

/-- A language does not matter for whether settings are valid. -/
theorem validate_inLanguage (a : TextMap) (language : String) :
    Annotations.validate (inLanguage a language) = Annotations.validate a := by
  have config : Annotations.Agree .config (inLanguage a language) a := by
    intro key concerns
    unfold inLanguage
    rw [Dict.get?_insert_of_ne]
    rintro rfl
    cases concerns.symm.trans (Annotations.partOf?_env "LANG")
  have image : Annotations.image? (inLanguage a language) = Annotations.image? a := by
    unfold Annotations.image? Annotations.vendor? Annotations.nonEmpty? inLanguage
    rw [Dict.get?_insert_of_ne]
    decide
  unfold Annotations.validate
  rw [image, config.configuration]

/-- The pod is renewed where its image is changed. -/
theorem exists_podRenewal {incoming live : TextMap} {entries : List ConfigurationEntry}
    (asked : request = podRequest incoming live)
    (differs : Annotations.Differs Annotations.imageKey incoming live)
    (valid : Annotations.validate incoming = .ok entries)
    (sourced : Source.ofEntries entries = .ok [.literal "{}"]) :
    ∃ t patch c',
      (review request).run.Yields secludedPlatform.Answers {} t (.ok (.patch patch)) c' ∧
      Refreshes secludedPlatform .pod "edge" "apps"
        ⟨some incoming, ⟨[gatewayInC], none, none, none⟩⟩ live {} t patch c' := by
  obtain ⟨layer, parsed⟩ := parse_emptyDocument
  have named : WorkloadKind.ofName? request.kind = some .pod := asked ▸ rfl
  have located : request.namespace_.getD "" = "apps" := asked ▸ rfl
  have operation : request.operation = .update := asked ▸ rfl
  have present : request.object = some (podInC incoming) := asked ▸ rfl
  have former : request.oldObject = some (podInC live) := asked ▸ rfl
  have name : request.name = "edge" := asked ▸ rfl
  have remade : (refreshScope .pod ⟨some incoming, ⟨[gatewayInC], none, none, none⟩⟩
      live).container = true := remade_in_pod_iff.mpr (Or.inl differs)
  obtain ⟨t, r, c', run⟩ := Program.exists_yields secludedPlatform.total (review request).run {}
  rcases review_yields named located run with ⟨ignored, -⟩ | ⟨-, run'⟩
  · cases ignored
  · rw [operation] at run'
    obtain ⟨patch, rfl, refreshes⟩ := reviewUpdate_succeeds (fun _ => trivial) present former
      (legible_podInC incoming).decode (legible_podInC live).decode (needed_of_remade remade) valid
      sourced (fun _ _ _ _ run => ⟨_, resolve_literal parsed run⟩) run'
    rw [name] at refreshes
    exact ⟨t, patch, c', run, refreshes⟩

theorem differs_inLanguage (language : String) : Annotations.Differs Annotations.imageKey
    (inLanguage upgradedAnnotations language) (inLanguage gatewayAnnotations "C") := by
  have same (a : TextMap) (language : String) : (inLanguage a language).get?
      (WellKnown.vendorPrefix ++ Annotations.imageKey) =
        a.get? (WellKnown.vendorPrefix ++ Annotations.imageKey) := by
    unfold inLanguage
    rw [Dict.get?_insert_of_ne]
    decide
  refine ⟨"", ?_⟩
  rw [String.append_empty, same, same]
  unfold upgradedAnnotations
  rw [Dict.get?_insert_self]
  decide +kernel

theorem sourced_inLanguage (language : String) : ∃ entries,
    Annotations.validate (inLanguage upgradedAnnotations language) = .ok entries ∧
      Source.ofEntries entries = .ok [.literal "{}"] := by
  obtain ⟨entries, valid, sourced⟩ := sourced_gatewayWorkload
  rw [validate_inLanguage]
  exact ⟨entries, validate_upgradedAnnotations valid, sourced⟩

theorem sidecar?_podInC :
    PodSpec.sidecar? ⟨[gatewayInC], none, none, none⟩ (.ofWorkload "edge" .pod) =
      some gatewayInC := by
  decide +kernel

/-- With another image and the same language a pod keeps its environment. -/
theorem podInC_keeps_environment : ∃ t patch c' object' target' container,
    (review (podRequest (inLanguage upgradedAnnotations "C")
      (inLanguage gatewayAnnotations "C"))).run.Yields secludedPlatform.Answers {} t
        (.ok (.patch patch)) c' ∧
    patch.apply (podInC (inLanguage upgradedAnnotations "C")) = some object' ∧
    decode .pod object' = .ok target' ∧
    target'.pod.sidecar? (.ofWorkload "edge" .pod) = some container ∧
    container.environment = gatewayInC.environment := by
  -- The settings stay names, as they would be evaluated otherwise.
  obtain ⟨incoming, live, request, changed, former, asked⟩ : ∃ incoming live request,
    incoming = inLanguage upgradedAnnotations "C" ∧ live = inLanguage gatewayAnnotations "C" ∧
      request = podRequest incoming live := ⟨_, _, _, rfl, rfl, rfl⟩
  obtain ⟨entries, valid, sourced⟩ := changed ▸ sourced_inLanguage "C"
  have language : Annotations.environment incoming = gatewayInC.environment := by
    rw [changed]
    decide +kernel
  have differs : Annotations.Differs Annotations.imageKey incoming live := by
    rw [changed, former]
    exact differs_inLanguage "C"
  obtain ⟨t, patch, c', run, -⟩ := exists_podRenewal asked differs valid sourced
  obtain ⟨object, old, target, target₀, present, was, decoded, decoded₀, keeps⟩ :=
    pod_keeps_environment_iff (asked ▸ rfl) (asked ▸ rfl) run
  have name : request.name = "edge" := asked ▸ rfl
  have present' : request.object = some (podInC incoming) := asked ▸ rfl
  have was' : request.oldObject = some (podInC live) := asked ▸ rfl
  cases present.symm.trans present'
  cases was.symm.trans was'
  cases decoded.symm.trans (legible_podInC incoming).decode
  cases decoded₀.symm.trans (legible_podInC live).decode
  rw [name] at keeps
  obtain ⟨object', target', container, applied, decoded', first, environment⟩ :=
    keeps gatewayInC gatewayInC sidecar?_podInC sidecar?_podInC rfl
  rw [← changed, ← former, ← asked]
  exact ⟨t, patch, c', object', target', container, run, applied, decoded', first,
    environment.mpr (Or.inr language)⟩

/-- With another image and another language it does not. -/
theorem podInC_changes_environment : ∃ t patch c' object' target' container,
    (review (podRequest (inLanguage upgradedAnnotations "en_US.utf8")
      (inLanguage gatewayAnnotations "C"))).run.Yields secludedPlatform.Answers {} t
        (.ok (.patch patch)) c' ∧
    patch.apply (podInC (inLanguage upgradedAnnotations "en_US.utf8")) = some object' ∧
    decode .pod object' = .ok target' ∧
    PodSpec.sidecar? ⟨[gatewayInC], none, none, none⟩ (.ofWorkload "edge" .pod) =
      some gatewayInC ∧
    target'.pod.sidecar? (.ofWorkload "edge" .pod) = some container ∧
    gatewayInC.environment = [⟨"LANG", some "C"⟩] ∧
    container.environment = [⟨"LANG", some "en_US.utf8"⟩] := by
  obtain ⟨incoming, live, request, changed, former, asked⟩ : ∃ incoming live request,
    incoming = inLanguage upgradedAnnotations "en_US.utf8" ∧
      live = inLanguage gatewayAnnotations "C" ∧ request = podRequest incoming live :=
    ⟨_, _, _, rfl, rfl, rfl⟩
  obtain ⟨entries, valid, sourced⟩ := changed ▸ sourced_inLanguage "en_US.utf8"
  have language : Annotations.environment incoming = [⟨"LANG", some "en_US.utf8"⟩] := by
    rw [changed]
    decide +kernel
  have differs : Annotations.Differs Annotations.imageKey incoming live := by
    rw [changed, former]
    exact differs_inLanguage "en_US.utf8"
  obtain ⟨t, patch, c', run, refreshes⟩ := exists_podRenewal asked differs valid sourced
  obtain ⟨object', target', container, applied, decoded, first, environment⟩ :=
    refreshes.sidecar_remade (remade_in_pod_iff.mpr (Or.inl differs))
      (legible_podInC incoming).decode sidecar?_podInC
  rw [← changed, ← former, ← asked]
  exact ⟨t, patch, c', object', target', container, run, applied, decoded, sidecar?_podInC, first,
    rfl, environment.trans language⟩

end GatewayOperator
