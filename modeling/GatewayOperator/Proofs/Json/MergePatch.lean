import GatewayOperator.Proofs.Json.Carrying

/-!
# Merge patches

A server that is sent a merge patch merges it into the object that it keeps: a field of the patch
takes the place of the object's, null takes a field away, and an object is merged into what is
there.

## Main Definitions

* `Json.MergesPatches` — what is documented of the merging, of which nothing else is known.
* `Json.mergePatch` — one way of merging.

## Main Statements

* `Json.MergesPatches.flat` — a patch without objects in it is found in the merged object.
* `Json.mergesPatches_mergePatch` — the one way merges as documented.
-/

namespace GatewayOperator.Json

/-- What becomes of a field when a patch is merged. -/
def mergedField (merge : Json → Json → Json) (before : Option Json) : Option Json → Option Json
  | none => before
  | some .null => none
  | some change => some (merge (before.getD .null) change)

/-- A function merges patches into objects, whose names it keeps distinct. -/
structure MergesPatches (merge : Json → Json → Json) : Prop where
  /-- A patch that is no object takes the place of what was there. -/
  replaces : ∀ before patch, patch.fields? = none → merge before patch = patch
  /-- An object is merged field by field, into an empty one if none was there. -/
  merges : ∀ before changes, (changes.map (·.1)).Nodup →
    ∃ fields, merge before (.object changes) = .object fields ∧ (fields.map (·.1)).Nodup ∧
      ∀ name, Assoc.lookup name fields =
        mergedField merge (before.get? name) (Assoc.lookup name changes)

/-- In the merged object are the fields of a patch that has no object in it, but for nulls. -/
theorem MergesPatches.flat {merge : Json → Json → Json} (m : MergesPatches merge) (before : Json)
    {changes : List (String × Json)} (distinct : (changes.map (·.1)).Nodup)
    (simple : ∀ change ∈ changes, change.2.fields? = none) :
    ∃ fields, merge before (.object changes) = .object fields ∧ (fields.map (·.1)).Nodup ∧
      ∀ name ∈ changes.map (·.1),
        Assoc.lookup name fields = (Assoc.lookup name changes).filter (!·.isNull) := by
  obtain ⟨fields, merged, single, each⟩ := m.merges before changes distinct
  refine ⟨fields, merged, single, fun name mem => ?_⟩
  rw [each]
  cases found : Assoc.lookup name changes with
  | none =>
    obtain ⟨change, mem, same⟩ := List.mem_map.mp mem
    exact absurd same (Assoc.lookup_eq_none_iff.mp found change mem)
  | some v =>
    have replaced := m.replaces ((before.get? name).getD .null) v
      (simple _ (Assoc.mem_of_lookup found))
    cases v with
    | null => rfl
    | _ => exact congrArg some replaced

/-! ### One way of merging -/

mutual

/-- The value after a patch. -/
def mergePatch : Json → Json → Json
  | before, .object changes =>
    .object (mergeFields (Assoc.ofList ((before.fields?).getD [])) changes)
  | _, patch => patch

/-- The fields after the changes of a patch, in the order of their names. -/
def mergeFields : List (String × Json) → List (String × Json) → List (String × Json)
  | kept, [] => kept
  | kept, (name, change) :: rest =>
    mergeFields
      (if change.isNull then Assoc.erase name kept
        else Assoc.insert name (mergePatch ((Assoc.lookup name kept).getD .null) change) kept)
      rest

end

theorem ascending_mergeFields {kept : List (String × Json)} (ascending : Assoc.Ascending kept)
    (changes : List (String × Json)) : Assoc.Ascending (mergeFields kept changes) := by
  induction changes generalizing kept with
  | nil => exact ascending
  | cons change rest ih =>
    obtain ⟨name, change⟩ := change
    unfold mergeFields
    split
    · exact ih (Assoc.ascending_erase name ascending)
    · exact ih (Assoc.ascending_insert name _ ascending)

theorem lookup_mergeFields {changes : List (String × Json)}
    (distinct : (changes.map (·.1)).Nodup) (kept : List (String × Json)) (key : String) :
    Assoc.lookup key (mergeFields kept changes) =
      mergedField mergePatch (Assoc.lookup key kept) (Assoc.lookup key changes) := by
  induction changes generalizing kept with
  | nil => rfl
  | cons change rest ih =>
    obtain ⟨name, change⟩ := change
    rw [List.map_cons, List.nodup_cons] at distinct
    unfold mergeFields
    rw [ih distinct.2, Assoc.lookup_cons]
    by_cases here : name = key
    · subst here
      have missing : Assoc.lookup name rest = none := by
        refine Assoc.lookup_eq_none_iff.mpr fun entry mem same => distinct.1 ?_
        exact List.mem_map.mpr ⟨entry, mem, same⟩
      rw [missing, if_pos rfl]
      cases change with
      | null => exact Assoc.lookup_erase_self name kept
      | _ => exact Assoc.lookup_insert_self name _ kept
    · rw [if_neg here]
      split
      · rw [Assoc.lookup_erase_of_ne (Ne.symm here)]
      · rw [Assoc.lookup_insert_of_ne (Ne.symm here)]

/-- **One way of merging** merges patches as documented. -/
theorem mergesPatches_mergePatch : MergesPatches mergePatch where
  replaces before patch simple := by
    cases patch with
    | object changes => cases simple
    | _ => rfl
  merges before changes distinct := by
    refine ⟨_, rfl, ?_, fun name => ?_⟩
    · exact Assoc.nodup_of_ascending (ascending_mergeFields (Assoc.ascending_ofList _) changes)
    · rw [lookup_mergeFields distinct, Assoc.ofList, Assoc.lookup_insertAll, Assoc.lookup_nil,
        Option.or_none]
      cases before <;> rfl

end GatewayOperator.Json
