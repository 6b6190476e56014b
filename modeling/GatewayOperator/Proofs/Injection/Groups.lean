import GatewayOperator.Proofs.Injection.Classification
import GatewayOperator.Proofs.Text.Keys

/-!
# Groups of settings

The settings of a configuration are regrouped by the first part of their keys.  This module says
what stands in a group and which groups and subgroups there are, as a matter of single annotations.

## Main Definitions

* `Annotations.groupKey` — the key of a field of a group.

## Main Statements

* `Annotations.get?_group` — a field of a group is the annotation under its key.
* `Annotations.mem_groupNames_iff` — there is a group where there is a field of it.
* `Annotations.sortedDistinct_eq` — names in order are determined by which they are.
* `Annotations.mem_subgroups_iff` — there is a subgroup where there is a field of it.
-/

namespace GatewayOperator.Annotations

variable {a : TextMap} {name field value : String}

/-! ### Fields -/

/-- The key of a field of a group. -/
def groupKey (name field : String) : String :=
  WellKnown.vendorPrefix ++ (configurationKey ++ (name ++ ("." ++ field)))

/-- A key belongs to one group, as one field of it. -/
theorem groupKey_inj {name' field' : String} (dotless : Text.Dotless name)
    (dotless' : Text.Dotless name') (same : groupKey name field = groupKey name' field') :
    name = name' ∧ field = field' := by
  unfold groupKey at same
  rw [String.append_right_inj, String.append_right_inj] at same
  exact Text.append_dot_inj dotless dotless' same

/-- A setting is a field of a group if its key is made of a group and a field. -/
theorem fieldOfSetting?_eq_some_iff {setting : String × String} {f : GroupField} :
    fieldOfSetting? setting = some f ↔ Text.Dotless f.group ∧
      setting = (configurationKey ++ (f.group ++ ("." ++ f.field)), f.value) := by
  unfold fieldOfSetting?
  rw [Option.bind_eq_some_iff]
  constructor
  · rintro ⟨rest, stripped, made⟩
    obtain ⟨⟨group, field⟩, parted, rfl⟩ := Option.map_eq_some_iff.mp made
    obtain ⟨dotless, rfl⟩ := Text.splitOnce?_dot_iff.mp parted
    exact ⟨dotless, Prod.ext (Text.stripPrefix?_eq_some_iff.mp stripped) rfl⟩
  · rintro ⟨dotless, rfl⟩
    refine ⟨f.group ++ ("." ++ f.field), Text.stripPrefix?_eq_some_iff.mpr rfl, ?_⟩
    rw [Text.splitOnce?_dot_iff.mpr ⟨dotless, rfl⟩]
    rfl

theorem mem_groupFields_iff {f : GroupField} : f ∈ groupFields a ↔
    Text.Dotless f.group ∧ a.get? (groupKey f.group f.field) = some f.value := by
  unfold groupFields settings
  simp only [List.mem_filterMap, Option.map_eq_some_iff, fieldOfSetting?_eq_some_iff]
  constructor
  · rintro ⟨setting, ⟨entry, mem, rest, stripped, rfl⟩, dotless, same⟩
    obtain ⟨key, value⟩ := entry
    cases same
    refine ⟨dotless, ?_⟩
    have key_eq : key = groupKey f.group f.field := Text.stripPrefix?_eq_some_iff.mp stripped
    rw [← key_eq]
    exact Dict.mem_entries_iff.mp mem
  · rintro ⟨dotless, found⟩
    exact ⟨_, ⟨_, Dict.mem_entries_iff.mpr found, _, Text.stripPrefix?_eq_some_iff.mpr rfl, rfl⟩,
      dotless, rfl⟩

/-- A field of a group is the annotation under its key. -/
theorem get?_group (dotless : Text.Dotless name) (field : String) :
    (group a name).get? field = a.get? (groupKey name field) := by
  have mem_iff (value : String) :
      (field, value) ∈ ((groupFields a).filter fun f => f.group = name).map
        (fun f => (f.field, f.value)) ↔ a.get? (groupKey name field) = some value := by
    rw [List.mem_map]
    constructor
    · rintro ⟨f, mem, same⟩
      obtain ⟨mem, here⟩ := List.mem_filter.mp mem
      cases same
      rw [← of_decide_eq_true here]
      exact (mem_groupFields_iff.mp mem).2
    · intro found
      refine ⟨⟨name, field, value⟩, List.mem_filter.mpr ⟨?_, by simp⟩, rfl⟩
      exact mem_groupFields_iff.mpr ⟨dotless, found⟩
  refine Option.ext fun value => ?_
  unfold group
  rw [Dict.get?_ofList_iff fun v v' mem mem' => ?_, mem_iff]
  exact Option.some.inj (((mem_iff v).mp mem).symm.trans ((mem_iff v').mp mem'))

/-! ### Names in order -/

theorem mem_sortedDistinct_iff {texts : List String} {text : String} :
    text ∈ sortedDistinct texts ↔ text ∈ texts := by
  unfold sortedDistinct
  rw [Dict.mem_keys_ofList_iff, List.map_map]
  simp

theorem ascending_sortedDistinct (texts : List String) :
    (sortedDistinct texts).Pairwise (· < ·) :=
  List.pairwise_map.mpr (Dict.ascending _)

/-- Names in order are determined by which they are. -/
theorem sortedDistinct_eq {texts names : List String} (ascending : names.Pairwise (· < ·))
    (same : ∀ text, text ∈ sortedDistinct texts ↔ text ∈ names) : sortedDistinct texts = names := by
  have nodup {texts : List String} (ascending : texts.Pairwise (· < ·)) : texts.Nodup :=
    ascending.imp fun less => String.ne_of_lt less
  refine List.Perm.eq_of_pairwise (fun a b _ _ less less' => ?_) (ascending_sortedDistinct texts)
    ascending ?_
  · exact absurd less' (String.lt_asymm less)
  · rw [List.perm_ext_iff_of_nodup (nodup (ascending_sortedDistinct texts)) (nodup ascending)]
    exact same

/-- There is a group where there is a field of it. -/
theorem mem_groupNames_iff : name ∈ groupNames a ↔
    Text.Dotless name ∧ ∃ field value, a.get? (groupKey name field) = some value := by
  unfold groupNames
  rw [mem_sortedDistinct_iff, List.mem_map]
  constructor
  · rintro ⟨f, mem, rfl⟩
    obtain ⟨dotless, found⟩ := mem_groupFields_iff.mp mem
    exact ⟨dotless, f.field, f.value, found⟩
  · rintro ⟨dotless, field, value, found⟩
    exact ⟨⟨name, field, value⟩, mem_groupFields_iff.mpr ⟨dotless, found⟩, rfl⟩

/-! ### Subgroups -/

/-- There is a subgroup where a key goes on with its name. -/
theorem mem_subgroups_iff {fields : TextMap} {section_ : String} :
    name ∈ subgroups fields section_ ↔
    name ≠ "" ∧ ∃ rest, fields.get? (section_ ++ rest) ≠ none ∧
      String.ofList (rest.toList.takeWhile (· ≠ '.')) = name := by
  unfold subgroups
  rw [mem_sortedDistinct_iff, List.mem_filterMap]
  constructor
  · rintro ⟨key, mem, started⟩
    cases stripped : Text.stripPrefix? section_ key with
    | none =>
      rw [stripped] at started
      cases started
    | some rest =>
      rw [stripped] at started
      obtain ⟨nonempty, same⟩ := Text.nonEmpty?_eq_some_iff.mp started
      rw [Text.stripPrefix?_eq_some_iff.mp stripped] at mem
      rw [same] at nonempty
      exact ⟨nonempty, rest, Dict.mem_keys_iff.mp mem, same⟩
  · rintro ⟨nonempty, rest, found, rfl⟩
    refine ⟨section_ ++ rest, Dict.mem_keys_iff.mpr found, ?_⟩
    rw [Text.stripPrefix?_eq_some_iff.mpr rfl]
    exact Text.nonEmpty?_of_ne nonempty

end GatewayOperator.Annotations
