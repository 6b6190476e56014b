import GatewayOperator.Proofs.Injection.RecordedNames
import GatewayOperator.Proofs.Text.Keys

/-!
# What a change of annotations concerns

An update makes anew only the parts of a gateway that changed settings concern.  A part that no
change concerns is a function of settings that are as they were.

## Main Definitions

* `Annotations.Agree` — the settings of one part are the same in two states of a workload.

## Main Statements

* `Annotations.agree_of_unchanged` — a part that no change concerns has the same settings.
* `Annotations.Agree.servicePort?`, `Annotations.Agree.configuration`,
  `Annotations.Agree.sidecarContainer` — each part of a gateway is a function of its settings.
* `Annotations.agree_updateAnnotations` — recording names changes no settings.
-/

namespace GatewayOperator

namespace Annotations

variable {a b : TextMap} {part : GatewayPart}

/-! ### Settings of a part -/

theorem partOf?_setting (setting : String) :
    partOf? (WellKnown.vendorPrefix ++ setting) =
      if Text.hasPrefix configurationKey setting then some .config
      else if Text.hasPrefix servicePortKey setting then some .service
      else if Text.hasPrefix imageKey setting || Text.hasPrefix envKey setting then
        some .container
      else none := by
  unfold partOf?
  rw [Text.stripPrefix?_eq_some_iff.mpr rfl]

/-- Only settings concern a part. -/
theorem vendor_of_partOf? {key : String} (concerns : partOf? key = some part) :
    Text.hasPrefix WellKnown.vendorPrefix key = true := by
  unfold partOf? at concerns
  split at concerns
  · cases concerns
  · next setting stripped =>
    rw [Text.stripPrefix?_eq_some_iff.mp stripped]
    exact Text.hasPrefix_append_self _ _

/-- A setting of the configuration concerns the configuration. -/
theorem partOf?_configuration (rest : String) :
    partOf? (WellKnown.vendorPrefix ++ (configurationKey ++ rest)) = some .config := by
  rw [partOf?_setting, if_pos (Text.hasPrefix_append_self _ _)]

/-- Nothing else concerns it. -/
theorem configuration_of_partOf? {key : String} (concerns : partOf? key = some .config) :
    Text.hasPrefix (WellKnown.vendorPrefix ++ configurationKey) key = true := by
  obtain ⟨setting, rfl⟩ := Text.hasPrefix_iff.mp (vendor_of_partOf? concerns)
  rw [partOf?_setting] at concerns
  split at concerns
  · next started =>
    obtain ⟨rest, rfl⟩ := Text.hasPrefix_iff.mp started
    rw [← String.append_assoc]
    exact Text.hasPrefix_append_self _ _
  · -- The other words concern other parts.
    split at concerns
    · cases concerns
    · split at concerns <;> cases concerns

/-- A setting of the environment concerns the container. -/
theorem partOf?_env (rest : String) :
    partOf? (WellKnown.vendorPrefix ++ (envKey ++ rest)) = some .container := by
  -- The other words start with other letters.
  have configuration : Text.hasPrefix configurationKey (envKey ++ rest) = false := by
    unfold Text.hasPrefix
    rw [String.toList_append]
    rfl
  have service : Text.hasPrefix servicePortKey (envKey ++ rest) = false := by
    unfold Text.hasPrefix
    rw [String.toList_append]
    rfl
  rw [partOf?_setting, configuration, service, Text.hasPrefix_append_self envKey rest]
  simp

/-- The settings of one part are the same in two states of a workload. -/
def Agree (part : GatewayPart) (a b : TextMap) : Prop :=
  ∀ key, partOf? key = some part → a.get? key = b.get? key

theorem Agree.trans {c : TextMap} (agree : Agree part a b) (agree' : Agree part b c) :
    Agree part a c :=
  fun key concerns => (agree key concerns).trans (agree' key concerns)

/-- A setting of a part that no change concerns is as it was, if changes of it are looked at. -/
theorem get?_eq_of_unchanged {isPod : Bool} {key : String} (concerns : partOf? key = some part)
    (seen : (isPod && isEnvKey key) = false)
    (unchanged : part ∉ (changedKeys a b isPod).filterMap partOf?) : a.get? key = b.get? key := by
  refine Decidable.byContradiction fun same => ?_
  refine unchanged (List.mem_filterMap.mpr ⟨key, ?_, concerns⟩)
  -- A key with two values has at least one.
  have present : key ∈ a.keys ++ b.keys := by
    cases incoming : a.get? key with
    | some value => exact List.mem_append_left _ (Dict.mem_keys_of_get? incoming)
    | none =>
      cases live : b.get? key with
      | some value => exact List.mem_append_right _ (Dict.mem_keys_of_get? live)
      | none => exact absurd (incoming.trans live.symm) same
  refine List.mem_filter.mpr ⟨Dict.mem_keys_ofList ?_, ?_⟩
  · rw [List.map_map]
    exact List.mem_map.mpr ⟨key, present, rfl⟩
  · simp [vendor_of_partOf? concerns, seen, same]

/-- A part that no change concerns has the same settings. -/
theorem agree_of_unchanged (unchanged : part ∉ (changedKeys a b false).filterMap partOf?) :
    Agree part a b :=
  fun _ concerns => get?_eq_of_unchanged concerns rfl unchanged

/-- No change concerns a part that has the same settings. -/
theorem unchanged_of_agree (agree : Agree part a b) (isPod : Bool) :
    part ∉ (changedKeys a b isPod).filterMap partOf? := by
  intro mem
  obtain ⟨key, changed, concerns⟩ := List.mem_filterMap.mp mem
  obtain ⟨-, differs⟩ := List.mem_filter.mp changed
  exact of_decide_eq_true ((Bool.and_eq_true_iff.mp differs).2) (agree key concerns)

/-- A configuration with the same settings is not made anew. -/
theorem scope_config_of_agree (agree : Agree .config a b) (isPod : Bool) :
    (UpdateScope.ofChanges (changedKeys a b isPod)).config = false :=
  Bool.eq_false_iff.mpr fun concerned =>
    unchanged_of_agree agree isPod (List.contains_iff_mem.mp concerned)

/-! ### What an update finds unchanged -/

section

variable {changed : List String}

theorem notMem_of_contains_eq_false {parts : List GatewayPart}
    (without : parts.contains part = false) : part ∉ parts := by
  simpa using without

theorem service_notMem (unchanged : (UpdateScope.ofChanges changed).service = false) :
    .service ∉ changed.filterMap partOf? :=
  notMem_of_contains_eq_false unchanged

theorem config_notMem (unchanged : (UpdateScope.ofChanges changed).config = false) :
    .config ∉ changed.filterMap partOf? :=
  notMem_of_contains_eq_false unchanged

theorem container_notMem (unchanged : (UpdateScope.ofChanges changed).container = false) :
    .config ∉ changed.filterMap partOf? ∧ .container ∉ changed.filterMap partOf? := by
  obtain ⟨config, container⟩ := Bool.or_eq_false_iff.mp unchanged
  exact ⟨notMem_of_contains_eq_false config, notMem_of_contains_eq_false container⟩

end

section

variable {scope : UpdateScope} (changes : scope = .ofChanges (changedKeys a b false))

include changes

theorem agree_of_scope_service (unchanged : scope.service = false) : Agree .service a b := by
  subst changes
  exact agree_of_unchanged (service_notMem unchanged)

theorem agree_of_scope_config (unchanged : scope.config = false) : Agree .config a b := by
  subst changes
  exact agree_of_unchanged (config_notMem unchanged)

theorem agree_of_scope_container (unchanged : scope.container = false) :
    Agree .config a b ∧ Agree .container a b := by
  subst changes
  obtain ⟨config, container⟩ := container_notMem unchanged
  exact ⟨agree_of_unchanged config, agree_of_unchanged container⟩

end

/-- Where nothing has to be done, no change concerns any part. -/
theorem notMem_of_not_needsMutation {isPod : Bool}
    (unneeded : updateNeedsMutation a b isPod = false) (part : GatewayPart) :
    part ∉ (changedKeys a b isPod).filterMap partOf? := by
  intro mem
  obtain ⟨key, changed, concerns⟩ := List.mem_filterMap.mp mem
  have := List.any_eq_false.mp unneeded key changed
  rw [concerns] at this
  exact this rfl

theorem agree_of_not_needsMutation (unneeded : updateNeedsMutation a b false = false)
    (part : GatewayPart) : Agree part a b :=
  agree_of_unchanged (notMem_of_not_needsMutation unneeded part)

/-! ### The parts as functions of their settings -/

/-- What is collected from the settings of one part depends on these only. -/
theorem Agree.filterMap_settings {β : Type} (agree : Agree part a b)
    {f : String × String → Option β}
    (only : ∀ setting value, f (setting, value) ≠ none →
      partOf? (WellKnown.vendorPrefix ++ setting) = some part) :
    (settings a).filterMap f = (settings b).filterMap f := by
  unfold settings
  rw [List.filterMap_filterMap, List.filterMap_filterMap]
  refine Dict.filterMap_congr (fun key => decide (partOf? key = some part)) ?_ ?_
  · intro key value collected
    refine decide_eq_true ?_
    cases stripped : Text.stripPrefix? WellKnown.vendorPrefix key with
    | none =>
      rw [stripped] at collected
      exact absurd rfl collected
    | some setting =>
      rw [stripped] at collected
      rw [Text.stripPrefix?_eq_some_iff.mp stripped]
      exact only setting value collected
  · intro key concerns
    exact agree key (of_decide_eq_true concerns)

theorem Agree.vendor? (agree : Agree part a b) {key : String}
    (concerns : partOf? (WellKnown.vendorPrefix ++ key) = some part) :
    Annotations.vendor? a key = Annotations.vendor? b key := by
  unfold Annotations.vendor? nonEmpty?
  rw [agree _ concerns]

/-- The setting of the port concerns the service. -/
theorem Agree.servicePort (agree : Agree .service a b) :
    a.get? (WellKnown.vendorPrefix ++ servicePortKey) =
      b.get? (WellKnown.vendorPrefix ++ servicePortKey) :=
  agree _ (by decide)

theorem Agree.servicePort? (agree : Agree .service a b) :
    Annotations.servicePort? a = Annotations.servicePort? b :=
  agree.vendor? (by decide)

theorem Agree.groupFields (agree : Agree .config a b) :
    Annotations.groupFields a = Annotations.groupFields b := by
  refine agree.filterMap_settings fun setting value collected => ?_
  unfold fieldOfSetting? at collected
  dsimp only at collected
  cases stripped : Text.stripPrefix? configurationKey setting with
  | none =>
    rw [stripped] at collected
    exact absurd rfl collected
  | some rest =>
    rw [Text.stripPrefix?_eq_some_iff.mp stripped]
    exact partOf?_configuration rest

/-- The entries are a function of the settings of the configuration. -/
theorem Agree.configuration (agree : Agree .config a b) :
    Annotations.configuration a = Annotations.configuration b := by
  unfold Annotations.configuration decodeGroups groupNames group
  rw [agree.groupFields]

/-- What is validated of annotations is a function of the settings of container and
configuration. -/
theorem Agree.validate (agree : Agree .container a b) (agree' : Agree .config a b) :
    Annotations.validate a = Annotations.validate b := by
  have image : Annotations.image? a = Annotations.image? b := agree.vendor? (by decide)
  unfold Annotations.validate
  rw [image, agree'.configuration]

theorem Agree.env (agree : Agree .container a b) : Annotations.env a = Annotations.env b := by
  refine agree.filterMap_settings fun setting value collected => ?_
  dsimp only at collected
  cases stripped : Text.stripPrefix? envKey setting with
  | none =>
    rw [stripped] at collected
    exact absurd rfl collected
  | some name =>
    rw [Text.stripPrefix?_eq_some_iff.mp stripped]
    exact partOf?_env name

/-- The container is a function of its settings. -/
theorem Agree.sidecarContainer (agree : Agree .container a b) (names : SidecarNames) :
    sidecarContainer names a = sidecarContainer names b := by
  have image : image? a = image? b := agree.vendor? (by decide)
  have policy : imagePullPolicy? a = imagePullPolicy? b := agree.vendor? (by decide)
  unfold GatewayOperator.sidecarContainer sidecarEnv
  rw [image, policy, agree.env]

/-! ### Recorded names -/

/-- Recorded names are no settings of a part. -/
theorem partOf?_recorded : partOf? WellKnown.serviceNameAnnotation = none ∧
    partOf? WellKnown.configMapNameAnnotation = none := by
  decide

theorem agree_updateAnnotations {recorded : TextMap}
    (only : ∀ key, partOf? key ≠ none → recorded.get? key = none) (a : TextMap)
    (part : GatewayPart) : Agree part (PatchOperation.updateAnnotations a recorded) a := by
  intro key concerns
  rw [get?_updateAnnotations, only key (by rw [concerns]; simp)]

theorem ne_of_concerns {key : String} (concerns : partOf? key ≠ none) :
    key ≠ WellKnown.serviceNameAnnotation ∧ key ≠ WellKnown.configMapNameAnnotation := by
  constructor
  · rintro rfl
    exact concerns partOf?_recorded.1
  · rintro rfl
    exact concerns partOf?_recorded.2

/-- Recording what an injection made changes no settings. -/
theorem agree_injected (a : TextMap) (service : Option String) (configMap : String)
    (part : GatewayPart) :
    Agree part (PatchOperation.updateAnnotations a (injectedNames service configMap)) a := by
  refine agree_updateAnnotations (fun key concerns => ?_) a part
  obtain ⟨notService, notConfigMap⟩ := ne_of_concerns concerns
  exact get?_injectedNames_of_ne notService notConfigMap service configMap

/-- Recording what a renewal made changes no settings. -/
theorem agree_renewed (a : TextMap) (scope : UpdateScope) (service configMap : Option String)
    (part : GatewayPart) :
    Agree part (PatchOperation.updateAnnotations a (recordedNames scope service configMap)) a := by
  refine agree_updateAnnotations (fun key concerns => ?_) a part
  obtain ⟨notService, notConfigMap⟩ := ne_of_concerns concerns
  exact get?_recordedNames_of_ne notService notConfigMap scope service configMap

end Annotations

end GatewayOperator
