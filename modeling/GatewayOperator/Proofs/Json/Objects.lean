import GatewayOperator.Proofs.Json.Places

/-!
# Values at places that objects lead to

The way to a place leads through objects if a value stands above each of its keys that is an object.
There something can be put, whether or not there was something before, and nothing else changes.

## Main Definitions

* `Json.LeadsThroughObjects` — every value above a place is an object.
* `Json.put` — a value with another value at such a place.

## Main Statements

* `Json.at?_put`, `Json.sameOutside_put` — what was put at a place stands there, and outside that
  place everything is the same.
* `Json.modify?_put`, `Json.add?_put` — changes, and additions under a key, put something.
* `Json.add?_end_put`, `Json.replace?_item_put` — so do additions to a list, and replacements of its
  items.

## Design Notes

Every key may be written with digits, so the way to a place does not say by itself that it leads
through objects.  The condition is therefore one on the value, and not on the keys alone as
`Pointer.Named` is.
-/

namespace GatewayOperator.Json

variable {v old new : Json} {place : Pointer} {key : String}

/-! ### Ways through objects -/

/-- Every value above a place is an object. -/
def LeadsThroughObjects (v : Json) (place : Pointer) : Prop :=
  ∀ above, above <+: place → above ≠ place → ∃ fields, v.at? above = some (.object fields)

theorem exists_object_iff {found : Option Json} :
    (∃ fields, found = some (.object fields)) ↔ (found.bind fields?).isSome = true := by
  constructor
  · rintro ⟨fields, rfl⟩
    rfl
  · intro isSome
    obtain ⟨fields, read⟩ := Option.isSome_iff_exists.mp isSome
    obtain ⟨value, rfl, object⟩ := Option.bind_eq_some_iff.mp read
    exact ⟨fields, congrArg some (eq_object_of_fields? object)⟩

instance (v : Json) (place : Pointer) : Decidable (v.LeadsThroughObjects place) :=
  decidable_of_iff
    (∀ n < place.length, ((v.at? (place.take n)).bind fields?).isSome = true) <| by
    constructor
    · intro all above part other
      have short := Nat.lt_of_le_of_ne part.length_le fun same => other (part.eq_of_length same)
      rw [List.prefix_iff_eq_take.mp part]
      exact exists_object_iff.mpr (all above.length short)
    · intro leads n short
      refine exists_object_iff.mp (leads _ (List.take_prefix n place) fun same => ?_)
      have cut := List.length_take_of_le (Nat.le_of_lt short)
      rw [same] at cut
      omega

theorem leadsThroughObjects_nil (v : Json) : v.LeadsThroughObjects [] :=
  fun _ leads other => absurd (List.prefix_nil.mp leads) other

section

variable {fields : List (String × Json)} {child : Json} {rest : Pointer}

theorem LeadsThroughObjects.isObject (leads : v.LeadsThroughObjects (key :: rest)) :
    ∃ fields, v = .object fields := by
  obtain ⟨fields, object⟩ := leads [] List.nil_prefix (List.cons_ne_nil key rest).symm
  exact ⟨fields, Option.some.inj object⟩

/-- What stands above the last key stands under the first one or below. -/
theorem LeadsThroughObjects.under {above : Pointer}
    (leads : (Json.object fields).LeadsThroughObjects (key :: rest)) (part : above <+: rest)
    (other : above ≠ rest) :
    ∃ child fields', (Json.object fields).get? key = some child ∧
      child.at? above = some (.object fields') := by
  obtain ⟨fields', found⟩ := leads (key :: above) (List.cons_prefix_cons.mpr ⟨rfl, part⟩)
    fun same => other (List.cons.inj same).2
  obtain ⟨child, here, found⟩ := Option.bind_eq_some_iff.mp found
  exact ⟨child, fields', here, found⟩

/-- The way leads on through what stands under its first key. -/
theorem LeadsThroughObjects.below
    (leads : (Json.object fields).LeadsThroughObjects (key :: rest))
    (here : (Json.object fields).get? key = some child) : child.LeadsThroughObjects rest := by
  intro above part other
  obtain ⟨child', fields', here', found⟩ := leads.under part other
  cases here.symm.trans here'
  exact ⟨fields', found⟩

/-- Something stands under the first of several keys. -/
theorem LeadsThroughObjects.exists_child {next : String}
    (leads : (Json.object fields).LeadsThroughObjects (key :: next :: rest)) :
    ∃ child, (Json.object fields).get? key = some child := by
  obtain ⟨child, -, here, -⟩ := leads.under List.nil_prefix (List.cons_ne_nil next rest).symm
  exact ⟨child, here⟩

end

/-- The way leads through objects if it does so up to its last key, and an object holds that. -/
theorem leadsThroughObjects_concat_iff :
    v.LeadsThroughObjects (place ++ [key]) ↔
      v.LeadsThroughObjects place ∧ ∃ fields, v.at? place = some (.object fields) := by
  have other {above : Pointer} (part : above <+: place) : above ≠ place ++ [key] := by
    rintro rfl
    exact absurd part.length_le (by simp)
  constructor
  · intro leads
    have shorter : place <+: place ++ [key] := List.prefix_append place [key]
    exact ⟨fun above part _ => leads above (part.trans shorter) (other part),
      leads place shorter (other List.prefix_rfl)⟩
  · rintro ⟨leads, held⟩ above part short
    rcases List.prefix_concat_iff.mp part with rfl | part
    · exact absurd rfl short
    · by_cases last : above = place
      · exact last ▸ held
      · exact leads above part last

/-! ### Values under keys and at places -/

/-- Fields with a value under a name, in place of what was there. -/
def putField (name : String) (value : Json) (fields : List (String × Json)) :
    List (String × Json) :=
  if ((Json.object fields).get? name).isSome then setField name value fields
  else fields ++ [(name, value)]

/-- A value can be put under any key of an object. -/
theorem addChild?_object (fields : List (String × Json)) (key : String) (new : Json) :
    (Json.object fields).addChild? key new = some (.object (putField key new fields)) :=
  rfl

theorem setChild?_object {fields : List (String × Json)}
    (present : (Json.object fields).get? key = some old) (new : Json) :
    (Json.object fields).setChild? key new = some (.object (putField key new fields)) := by
  have isSome : ((Json.object fields).get? key).isSome = true := by rw [present]; rfl
  rw [setChild?, putField, if_pos isSome, if_pos isSome]

theorem edited_putField (fields : List (String × Json)) (key : String) (new : Json) :
    Edited key new (.object fields) (.object (putField key new fields)) := by
  have object : (Json.object fields).fields? = some fields := rfl
  obtain ⟨after, added, edited⟩ := exists_addChild? object key new
  cases added
  exact edited

/-- A value with another value at a place that objects lead to. -/
def put (new : Json) : Pointer → Json → Json
  | [], _ => new
  | key :: rest, .object fields =>
    .object (putField key (put new rest (((Json.object fields).get? key).getD .null)) fields)
  | _, v => v

/-- What was put at a place stands there. -/
theorem at?_put (leads : v.LeadsThroughObjects place) (new : Json) :
    (put new place v).at? place = some new := by
  induction place generalizing v with
  | nil => rfl
  | cons key rest ih =>
    obtain ⟨fields, rfl⟩ := leads.isObject
    rw [put, (edited_putField fields key _).at?_cons rfl, if_pos rfl]
    cases rest with
    | nil => rfl
    | cons next rest =>
      obtain ⟨child, here⟩ := leads.exists_child
      rw [here]
      exact ih (leads.below here)

/-- Outside the place where something was put, everything is the same. -/
theorem sameOutside_put (leads : v.LeadsThroughObjects place) (new : Json) :
    SameOutside [place] v (put new place v) := by
  induction place generalizing v with
  | nil =>
    refine ⟨fun place apart => ?_, fun place _ above _ => ?_⟩
    · exact absurd List.nil_prefix (apart [] (List.mem_singleton.mpr rfl)).1
    · exact absurd List.nil_prefix (above [] (List.mem_singleton.mpr rfl))
  | cons key rest ih =>
    obtain ⟨fields, rfl⟩ := leads.isObject
    rw [put]
    have edited := edited_putField fields key
      (put new rest (((Json.object fields).get? key).getD .null))
    cases rest with
    | nil => exact edited.sameOutside_field rfl
    | cons next rest =>
      obtain ⟨child, here⟩ := leads.exists_child
      rw [here] at edited ⊢
      exact edited.sameOutside rfl here (ih (leads.below here)) (List.cons_ne_nil _ _)

/-- What is put under a key of an object is put into the value that holds the object. -/
theorem put_append (second : Pointer) (leads : v.LeadsThroughObjects place)
    (found : v.at? place = some old) :
    put new (place ++ second) v = put (put new second old) place v := by
  induction place generalizing v with
  | nil =>
    cases found
    rfl
  | cons key rest ih =>
    obtain ⟨fields, rfl⟩ := leads.isObject
    obtain ⟨child, here, found⟩ := Option.bind_eq_some_iff.mp found
    replace here : (Json.object fields).get? key = some child := here
    rw [List.cons_append, put, put, here, Option.getD_some, ih (leads.below here) found]

/-! ### Changes -/

/-- A change of what is there puts the changed value. -/
theorem modify?_put {change : Json → Option Json} (leads : v.LeadsThroughObjects place)
    (found : v.at? place = some old) (changed : change old = some new) :
    v.modify? change place = some (put new place v) := by
  induction place generalizing v with
  | nil =>
    cases found
    exact changed
  | cons key rest ih =>
    obtain ⟨fields, rfl⟩ := leads.isObject
    obtain ⟨child, here, found⟩ := Option.bind_eq_some_iff.mp found
    rw [modify?, here, put]
    replace here : (Json.object fields).get? key = some child := here
    simp only [Option.bind_eq_bind, Option.bind_some, ih (leads.below here) found,
      setChild?_object here, here, Option.getD_some]

/-- A value at a place is replaced by another one. -/
theorem replace?_put (leads : v.LeadsThroughObjects place) (found : v.at? place = some old)
    (new : Json) : v.replace? place new = some (put new place v) :=
  modify?_put leads found rfl

/-- What is added at a place is put there, whether or not there was something. -/
theorem add?_put (leads : v.LeadsThroughObjects place) (new : Json) :
    v.add? place new = some (put new place v) := by
  rcases List.eq_nil_or_concat place with rfl | ⟨holder, key, rfl⟩
  · rfl
  · rw [List.concat_eq_append] at leads ⊢
    obtain ⟨leads, fields, found⟩ := leadsThroughObjects_concat_iff.mp leads
    rw [add?_append_single, modify?_put leads found (addChild?_object fields key new),
      put_append [key] leads found]
    rfl

variable {items : List Json}

/-- What is added behind the last item of a list makes the list longer. -/
theorem add?_end_put (leads : v.LeadsThroughObjects place)
    (found : v.at? place = some (.array items)) (new : Json) :
    v.add? (place ++ [endKey]) new = some (put (.array (items ++ [new])) place v) := by
  rw [add?_append_single]
  exact modify?_put leads found (modify?_end items new)

/-- An item of a list is replaced by another one. -/
theorem replace?_item_put (leads : v.LeadsThroughObjects place)
    (found : v.at? place = some (.array items)) {n : Nat} (bound : n < items.length) (new : Json) :
    v.replace? (place ++ [toString n]) new = some (put (.array (items.set n new)) place v) := by
  unfold replace?
  rw [modify?_append]
  exact modify?_put leads found (modify?_item bound new)

end GatewayOperator.Json
