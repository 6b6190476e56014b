import GatewayOperator.Proofs.Json.Edits

/-!
# What a change leaves alone, place by place

A change at one place of a value leaves every other place alone.  This module says so of whole
values, and not only of the fields of one object.

## Main Definitions

* `Pointer.Apart` — two places neither of which leads to the other.
* `Pointer.Named` — a place that leads through objects only.
* `Json.SameOutside` — two values that are the same outside some places.

## Main Statements

* `Json.Edited.sameOutside` — an edited object is the same outside the places that were changed
  below the edited field.
* `Json.exists_modify?_at` — what can be changed at a place can be changed in the whole value, which
  is then the same outside that place.

## Design Notes

That two values are the same outside some places is kept by further changes at other such places, so
it is stated for a list of places and composed by `Json.SameOutside.trans`.
-/

namespace GatewayOperator

namespace Pointer

/-- Neither of two places leads to the other one. -/
def Apart (p q : Pointer) : Prop := ¬p <+: q ∧ ¬q <+: p

/-- No key on the way is the position of an item, so the way leads through objects only. -/
def Named (place : Pointer) : Prop := ∀ key ∈ place, Json.indexOfKey? key = none

theorem Apart.symm {p q : Pointer} (apart : Apart p q) : Apart q p := ⟨apart.2, apart.1⟩

theorem apart_cons_iff {key : String} {p q : Pointer} :
    Apart (key :: p) (key :: q) ↔ Apart p q := by
  simp [Apart]

end Pointer

namespace Json

variable {places places' : List Pointer} {v v' v'' old new : Json} {key : String}

/-- Two values that are the same outside some places. -/
structure SameOutside (places : List Pointer) (before after : Json) : Prop where
  /-- What stands neither at, below nor above one of the places is the same. -/
  elsewhere : ∀ place, (∀ changed ∈ places, changed.Apart place) →
    after.at? place = before.at? place
  /-- An object above one of the places is still an object. -/
  objects : ∀ place fields, (∀ changed ∈ places, ¬changed <+: place) →
    before.at? place = some (.object fields) → ∃ fields', after.at? place = some (.object fields')

namespace SameOutside

theorem refl (places : List Pointer) (v : Json) : SameOutside places v v where
  elsewhere _ _ := rfl
  objects _ fields _ found := ⟨fields, found⟩

theorem trans (first : SameOutside places v v') (second : SameOutside places v' v'') :
    SameOutside places v v'' where
  elsewhere place apart := (second.elsewhere place apart).trans (first.elsewhere place apart)
  objects place fields above found := by
    obtain ⟨fields', found'⟩ := first.objects place fields above found
    exact second.objects place fields' above found'

theorem mono (same : SameOutside places v v') (part : ∀ place ∈ places, place ∈ places') :
    SameOutside places' v v' where
  elsewhere place apart := same.elsewhere place fun changed mem => apart changed (part changed mem)
  objects place fields above found :=
    same.objects place fields (fun changed mem => above changed (part changed mem)) found

end SameOutside

/-- Only an object has something under a key that is no position. -/
theorem fields?_of_child? (named : indexOfKey? key = none) (found : v.child? key = some old) :
    ∃ fields, v.fields? = some fields ∧ v.get? key = some old := by
  cases v with
  | object fields => exact ⟨fields, rfl, found⟩
  | array items =>
    simp only [child?, named] at found
    cases found
  | _ => cases found

theorem eq_object_of_fields? {fields : List (String × Json)} (object : v.fields? = some fields) :
    v = .object fields := by
  cases v with
  | object found =>
    cases object
    rfl
  | _ => cases object

/-- Two objects with the same values under all but some keys are the same outside these keys. -/
theorem sameOutside_of_get? {fields fields' : List (String × Json)} {keys : List String}
    (object : v.fields? = some fields) (object' : v'.fields? = some fields') (some_ : keys ≠ [])
    (same : ∀ key, key ∉ keys → v'.get? key = v.get? key) :
    SameOutside (keys.map fun key => [key]) v v' := by
  have unchanged {key : String} {rest : Pointer} (other : key ∉ keys) :
      v'.at? (key :: rest) = v.at? (key :: rest) := by
    rw [at?_cons, at?_cons, child?_of_fields? object, child?_of_fields? object', same key other]
  obtain ⟨first, mem⟩ := List.exists_mem_of_ne_nil keys some_
  constructor
  · intro place apart
    cases place with
    | nil => exact absurd List.nil_prefix (apart _ (List.mem_map_of_mem mem)).2
    | cons key rest =>
      refine unchanged fun mem => (apart _ (List.mem_map_of_mem mem)).1 ?_
      simp
  · intro place found_fields above found
    cases place with
    | nil => exact ⟨fields', congrArg some (eq_object_of_fields? object')⟩
    | cons key rest =>
      have other : key ∉ keys := by
        intro mem
        exact above _ (List.mem_map_of_mem mem) (by simp)
      exact ⟨found_fields, (unchanged other).trans found⟩

namespace Edited

variable {fields : List (String × Json)}

/-- Below the edited field, the object is the new value of the field; elsewhere it is as before. -/
theorem at?_cons (edited : Edited key new v v') (object : v.fields? = some fields)
    (other : String) (rest : Pointer) :
    v'.at? (other :: rest) = if other = key then new.at? rest else v.at? (other :: rest) := by
  obtain ⟨fields', object'⟩ := edited.isObject
  rw [Json.at?_cons, Json.at?_cons, child?_of_fields? object', child?_of_fields? object]
  by_cases same : other = key
  · rw [if_pos same, same, edited.here, Option.bind_some]
  · rw [if_neg same, edited.others other same]

/-- An edited object is the same outside the edited field. -/
theorem sameOutside_field (edited : Edited key new v v') (object : v.fields? = some fields) :
    SameOutside [[key]] v v' := by
  obtain ⟨fields', object'⟩ := edited.isObject
  refine sameOutside_of_get? object object' (List.cons_ne_nil key []) fun other absent => ?_
  exact edited.others other fun same => absent (List.mem_singleton.mpr same)

/-- An edited object is the same outside the places that were changed below the edited field. -/
theorem sameOutside (edited : Edited key new v v') (object : v.fields? = some fields)
    (found : v.get? key = some old) (below : SameOutside places old new) (some_ : places ≠ []) :
    SameOutside (places.map (key :: ·)) v v' where
  elsewhere place apart := by
    cases place with
    | nil =>
      obtain ⟨changed, mem⟩ := List.exists_mem_of_ne_nil places some_
      exact absurd List.nil_prefix (apart _ (List.mem_map_of_mem mem)).2
    | cons other rest =>
      rw [edited.at?_cons object]
      split
      · next same =>
        subst same
        rw [Json.at?_cons, child?_of_fields? object, found, Option.bind_some]
        refine below.elsewhere rest fun changed mem => ?_
        exact Pointer.apart_cons_iff.mp (apart _ (List.mem_map_of_mem mem))
      · rfl
  objects place fields' above found' := by
    cases place with
    | nil =>
      obtain ⟨fields'', object'⟩ := edited.isObject
      exact ⟨fields'', congrArg some (eq_object_of_fields? object')⟩
    | cons other rest =>
      rw [edited.at?_cons object]
      split
      · next same =>
        subst same
        rw [Json.at?_cons, child?_of_fields? object, found, Option.bind_some] at found'
        refine below.objects rest fields' (fun changed mem leads => ?_) found'
        exact above _ (List.mem_map_of_mem mem) (by simpa using leads)
      · exact ⟨fields', found'⟩

end Edited

/-- What can be changed at a place can be changed in the whole value, and what the change leaves
alone there is all that is left alone. -/
theorem exists_modify?_at (change : Json → Option Json) {place : Pointer} (named : place.Named)
    (found : v.at? place = some old) (changed : change old = some new)
    (below : SameOutside places old new) (some_ : places ≠ []) :
    ∃ v', v.modify? change place = some v' ∧ v'.at? place = some new ∧
      SameOutside (places.map (place ++ ·)) v v' := by
  induction place generalizing v with
  | nil =>
    cases found
    refine ⟨new, changed, rfl, ?_⟩
    simpa using below
  | cons key rest ih =>
    obtain ⟨child, here, found⟩ := Option.bind_eq_some_iff.mp found
    obtain ⟨fields, object, present⟩ := fields?_of_child? (named key List.mem_cons_self) here
    obtain ⟨child', modified, stands, same⟩ :=
      ih (fun key mem => named key (List.mem_cons_of_mem _ mem)) found
    obtain ⟨v', modified', edited⟩ := exists_modify? object present modified
    refine ⟨v', modified', ?_, ?_⟩
    · rw [edited.at?_cons object, if_pos rfl, stands]
    · have same' := edited.sameOutside object present same (by simpa using some_)
      rw [List.map_map] at same'
      exact same'

end Json

end GatewayOperator
