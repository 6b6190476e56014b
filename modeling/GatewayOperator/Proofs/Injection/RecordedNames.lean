import GatewayOperator.Injection.Admission
import GatewayOperator.Proofs.Entries

/-!
# Names recorded in annotations

What was made for a workload is recorded in two of its annotations.  An empty name is not recorded,
and takes away the one that was.

## Main Statements

* `get?_updateAnnotations` — an annotation after some were changed.
* `serviceName?_injected`, `configMapName?_injected` and the lemmas after them — the names that are
  recorded after an injection and after a renewal.
* `hasSettings_of_setting`, `hasSettings_of_recorded` — a workload with a recorded name has
  settings.
-/

namespace GatewayOperator

open PatchOperation

/-! ### Changed annotations -/

/-- The change of one annotation. -/
def annotate (a : TextMap) (update : String × String) : TextMap :=
  if update.2.isEmpty then a.erase update.1 else a.insert update.1 update.2

theorem get?_annotate (a : TextMap) (key value other : String) :
    (annotate a (key, value)).get? other =
      if other = key then (if value.isEmpty then none else some value) else a.get? other := by
  unfold annotate
  dsimp only
  by_cases empty : value.isEmpty = true
  · rw [if_pos empty, if_pos empty, Dict.get?_erase]
  · rw [if_neg empty, if_neg empty, Dict.get?_insert]

/-- An annotation is as it was unless it is among the changed ones. -/
theorem get?_foldl_annotate {updates : List (String × String)}
    (ascending : Assoc.Ascending updates) (a : TextMap) (key : String) :
    (updates.foldl annotate a).get? key =
      match Assoc.lookup key updates with
      | some value => if value.isEmpty then none else some value
      | none => a.get? key := by
  induction updates generalizing a with
  | nil => rfl
  | cons update rest ih =>
    obtain ⟨k, v⟩ := update
    rw [List.foldl_cons, ih (List.pairwise_cons.mp ascending).2, Assoc.lookup_cons]
    by_cases same : k = key
    · -- No other change is one of the same annotation.
      have absent : Assoc.lookup key rest = none := by
        refine Assoc.lookup_eq_none_iff.mpr fun entry mem again => ?_
        have before := (List.pairwise_cons.mp ascending).1 entry mem
        rw [same, again] at before
        exact KeyOrder.irrefl _ before
      rw [absent, if_pos same]
      dsimp only
      rw [get?_annotate, if_pos same.symm]
    · rw [if_neg same]
      cases Assoc.lookup key rest with
      | some value => rfl
      | none =>
        dsimp only
        rw [get?_annotate, if_neg fun h => same h.symm]

/-- An annotation is as it was unless it is among the changed ones; an empty value takes it away. -/
theorem get?_updateAnnotations (a updates : TextMap) (key : String) :
    (updateAnnotations a updates).get? key =
      match updates.get? key with
      | some value => if value.isEmpty then none else some value
      | none => a.get? key :=
  get?_foldl_annotate updates.ascending a key

theorem nonEmpty?_updateAnnotations (a updates : TextMap) (key : String) :
    Annotations.nonEmpty? (updateAnnotations a updates) key =
      match updates.get? key with
      | some value => Text.nonEmpty? value
      | none => Annotations.nonEmpty? a key := by
  unfold Annotations.nonEmpty?
  rw [get?_updateAnnotations]
  cases updates.get? key with
  | none => rfl
  | some value =>
    dsimp only
    unfold Text.nonEmpty?
    split
    · rfl
    · next filled => rw [Option.bind_some, if_neg filled]

/-! ### Recorded names -/

/-- The names that an injection records. -/
def injectedNames (service : Option String) (configMap : String) : TextMap :=
  Dict.ofList [(WellKnown.serviceNameAnnotation, service.getD ""),
    (WellKnown.configMapNameAnnotation, configMap)]

theorem serviceName_ne_configMapName :
    WellKnown.serviceNameAnnotation ≠ WellKnown.configMapNameAnnotation := by
  decide

theorem get?_injectedNames (service : Option String) (configMap : String) :
    (injectedNames service configMap).get? WellKnown.serviceNameAnnotation =
        some (service.getD "") ∧
      (injectedNames service configMap).get? WellKnown.configMapNameAnnotation =
        some configMap := by
  unfold injectedNames
  rw [Dict.ofList_eq_insertAll]
  simp [Dict.get?_insert, serviceName_ne_configMapName]

theorem get?_recordedNames (scope : UpdateScope) (service configMap : Option String) :
    (recordedNames scope service configMap).get? WellKnown.serviceNameAnnotation =
        (if scope.service then some (service.getD "") else none) ∧
      (recordedNames scope service configMap).get? WellKnown.configMapNameAnnotation =
        configMap := by
  unfold recordedNames
  cases scope.service <;> cases configMap <;>
    simp [Dict.get?_insert, serviceName_ne_configMapName, Ne.symm serviceName_ne_configMapName]

/-- Nothing but the names is recorded. -/
theorem get?_injectedNames_of_ne {key : String} (notService : key ≠ WellKnown.serviceNameAnnotation)
    (notConfigMap : key ≠ WellKnown.configMapNameAnnotation) (service : Option String)
    (configMap : String) : (injectedNames service configMap).get? key = none := by
  unfold injectedNames
  simp [Dict.ofList_eq_insertAll, Dict.get?_insert, notService, notConfigMap]

theorem get?_recordedNames_of_ne {key : String} (notService : key ≠ WellKnown.serviceNameAnnotation)
    (notConfigMap : key ≠ WellKnown.configMapNameAnnotation) (scope : UpdateScope)
    (service configMap : Option String) :
    (recordedNames scope service configMap).get? key = none := by
  unfold recordedNames
  cases scope.service <;> cases configMap <;> simp [Dict.get?_insert, notService, notConfigMap]

theorem nonEmpty?_getD {name : Option String} (nonempty : ∀ n ∈ name, n ≠ "") :
    Text.nonEmpty? (name.getD "") = name := by
  cases name with
  | none => rfl
  | some n => exact Text.nonEmpty?_of_ne (nonempty n rfl)

section

variable (a : TextMap) (scope : UpdateScope) {service configMap : Option String} {name : String}

theorem serviceName?_injected (nonempty : ∀ n ∈ service, n ≠ "") (name : String) :
    Annotations.serviceName? (updateAnnotations a (injectedNames service name)) = service := by
  unfold Annotations.serviceName?
  rw [nonEmpty?_updateAnnotations, (get?_injectedNames service name).1]
  exact nonEmpty?_getD nonempty

theorem configMapName?_injected (nonempty : name ≠ "") (service : Option String) :
    Annotations.configMapName? (updateAnnotations a (injectedNames service name)) = some name := by
  unfold Annotations.configMapName?
  rw [nonEmpty?_updateAnnotations, (get?_injectedNames service name).2]
  exact Text.nonEmpty?_of_ne nonempty

theorem serviceName?_renewed (nonempty : ∀ n ∈ service, n ≠ "") (configMap : Option String) :
    Annotations.serviceName? (updateAnnotations a (recordedNames scope service configMap)) =
      if scope.service then service else Annotations.serviceName? a := by
  unfold Annotations.serviceName?
  rw [nonEmpty?_updateAnnotations, (get?_recordedNames scope service configMap).1]
  cases scope.service with
  | false => rfl
  | true => exact nonEmpty?_getD nonempty

theorem configMapName?_renewed (nonempty : ∀ n ∈ configMap, n ≠ "") (service : Option String) :
    Annotations.configMapName? (updateAnnotations a (recordedNames scope service configMap)) =
      configMap.or (Annotations.configMapName? a) := by
  unfold Annotations.configMapName?
  rw [nonEmpty?_updateAnnotations, (get?_recordedNames scope service configMap).2]
  cases configMap with
  | none => rfl
  | some name => exact Text.nonEmpty?_of_ne (nonempty name rfl)

end

/-- A workload with an annotation that is a setting has settings. -/
theorem hasSettings_of_setting {a : TextMap} {key value setting : String}
    (found : a.get? key = some value)
    (vendor : Text.stripPrefix? WellKnown.vendorPrefix key = some setting) :
    Annotations.hasSettings a = true := by
  have mem : (setting, value) ∈ Annotations.settings a :=
    List.mem_filterMap.mpr ⟨(key, value), Assoc.mem_of_lookup found, by rw [vendor]; rfl⟩
  unfold Annotations.hasSettings
  cases settings : Annotations.settings a with
  | nil =>
    rw [settings] at mem
    cases mem
  | cons => rfl

/-- A workload with a recorded name has settings. -/
theorem hasSettings_of_recorded {a : TextMap}
    (recorded : Annotations.serviceName? a ≠ none ∨ Annotations.configMapName? a ≠ none) :
    Annotations.hasSettings a = true := by
  have vendorService : Text.stripPrefix? WellKnown.vendorPrefix WellKnown.serviceNameAnnotation =
      some "serviceName" := by
    decide
  have vendorConfigMap :
      Text.stripPrefix? WellKnown.vendorPrefix WellKnown.configMapNameAnnotation =
        some "configMapName" := by
    decide
  rcases recorded with service | configMap
  · obtain ⟨name, service⟩ := Option.ne_none_iff_exists'.mp service
    exact hasSettings_of_setting (Text.bind_nonEmpty?_eq_some_iff.mp service).1 vendorService
  · obtain ⟨name, configMap⟩ := Option.ne_none_iff_exists'.mp configMap
    exact hasSettings_of_setting (Text.bind_nonEmpty?_eq_some_iff.mp configMap).1 vendorConfigMap

end GatewayOperator
