import GatewayOperator.Json.Edit
import GatewayOperator.Proofs.Text.Integers

/-!
# What a change leaves alone

A change at a place in an object gives one of its fields another value.  Whoever reads other fields
reads the same as before.

## Main Definitions

* `Json.Edited` — an object after one of its fields was given a value.

## Main Statements

* `Json.modify?_append` — a change at a place is a change at a shorter place of what is there.
* `Json.exists_modify?` — a change below a field edits that field.
* `Json.below_of_modify?` — where a change succeeds, there is something to be changed.
* `Json.indexOfKey?_toString` — the written form of a position names it.
-/

namespace GatewayOperator.Json

/-- An object after a field was given a value; its other fields are the same. -/
structure Edited (key : String) (new before after : Json) : Prop where
  /-- It is an object, with that value under the key. -/
  isObject : ∃ fields, after.fields? = some fields
  /-- The value of the field. -/
  here : after.get? key = some new
  /-- The values of the other fields. -/
  others : ∀ other, other ≠ key → after.get? other = before.get? other

theorem lookup_setField_of_ne {name other : String} (different : other ≠ name) (value : Json)
    (fields : List (String × Json)) :
    Assoc.lookup other (setField name value fields) = Assoc.lookup other fields := by
  induction fields with
  | nil => rfl
  | cons field fields ih =>
    obtain ⟨key, old⟩ := field
    unfold setField at ih ⊢
    rw [List.map_cons, Assoc.lookup_cons]
    by_cases same : key = name
    · rw [if_pos same, Assoc.lookup_cons, if_neg (Ne.symm different), ih,
        if_neg fun h => different (h.symm.trans same)]
    · rw [if_neg same, Assoc.lookup_cons, ih]

theorem get?_object (name : String) (fields : List (String × Json)) :
    (Json.object fields).get? name = Assoc.lookup name fields.reverse :=
  rfl

theorem child?_of_fields? {value : Json} {fields : List (String × Json)}
    (object : value.fields? = some fields) (key : String) : value.child? key = value.get? key := by
  cases value with
  | object fields => rfl
  | _ => cases object

/-- Replacing the values of a field edits it. -/
theorem edited_setField {key : String} {fields : List (String × Json)} {old : Json}
    (present : (Json.object fields).get? key = some old) (new : Json) :
    Edited key new (.object fields) (.object (setField key new fields)) where
  isObject := ⟨_, rfl⟩
  here := by
    rw [get?_object] at present
    rw [get?_object, reverse_setField, lookup_setField, present]
    rfl
  others other different := by
    rw [get?_object, reverse_setField, lookup_setField_of_ne different, get?_object]

/-- A value can be put under any key of an object. -/
theorem exists_addChild? {value : Json} {fields : List (String × Json)}
    (object : value.fields? = some fields) (key : String) (new : Json) :
    ∃ after, value.addChild? key new = some after ∧ Edited key new value after := by
  cases value with
  | object fields =>
    refine ⟨_, rfl, ?_⟩
    split
    · next present =>
      obtain ⟨old, present⟩ := Option.isSome_iff_exists.mp present
      exact edited_setField present new
    · refine ⟨⟨_, rfl⟩, ?_, fun other different => ?_⟩
      · simp [get?, Assoc.lookup]
      · have : ¬key = other := fun same => different same.symm
        simp [get?, Assoc.lookup, this]
  | _ => cases object

/-- A change below a field of an object edits that field. -/
theorem exists_modify? {change : Json → Option Json} {value child new : Json}
    {fields : List (String × Json)} {key : String} {rest : Pointer}
    (object : value.fields? = some fields) (present : value.get? key = some child)
    (below : child.modify? change rest = some new) :
    ∃ after, value.modify? change (key :: rest) = some after ∧ Edited key new value after := by
  cases value with
  | object fields =>
    refine ⟨.object (setField key new fields), ?_, edited_setField present new⟩
    have found : (Json.object fields).child? key = some child := present
    rw [modify?, found]
    simp only [Option.bind_eq_bind, Option.bind_some, below, setChild?, present,
      Option.isSome_some, if_true]
  | _ => cases object

/-- What is changed below a key of an object is the value of that field. -/
theorem below_of_modify? {change : Json → Option Json} {value new : Json}
    {fields : List (String × Json)} {key : String} {rest : Pointer}
    (object : value.fields? = some fields)
    (modified : value.modify? change (key :: rest) = some new) :
    ∃ child below, value.get? key = some child ∧ child.modify? change rest = some below := by
  obtain ⟨child, found, modified⟩ := Option.bind_eq_some_iff.mp modified
  obtain ⟨below, changed, -⟩ := Option.bind_eq_some_iff.mp modified
  cases value with
  | object fields => exact ⟨child, below, found, changed⟩
  | _ => cases object

/-- Nothing can be changed below a key of null. -/
theorem modify?_null (change : Json → Option Json) (key : String) (rest : Pointer) :
    Json.null.modify? change (key :: rest) = none :=
  rfl

/-- A change at a place is a change of what is at the first part of the place, at its second. -/
theorem modify?_append (change : Json → Option Json) (value : Json) (first second : Pointer) :
    value.modify? change (first ++ second) =
      value.modify? (fun child => child.modify? change second) first := by
  induction first generalizing value with
  | nil => rfl
  | cons key rest ih =>
    rw [List.cons_append, modify?, modify?]
    refine bind_congr fun child => ?_
    rw [ih]

/-- What is added under a key is added to the value that holds it. -/
theorem add?_append_single (value : Json) (place : Pointer) (key : String) (new : Json) :
    value.add? (place ++ [key]) new =
      value.modify? (fun parent => parent.addChild? key new) place := by
  unfold add?
  rw [List.getLast?_concat, List.dropLast_concat]

/-! ### Lists -/

theorem toDigits_no_zero {n : Nat} (positive : 0 < n) :
    ∃ c cs, Nat.toDigits 10 n = c :: cs ∧ c ≠ '0' := by
  induction n using Nat.strongRecOn with
  | ind n ih =>
    rw [Nat.toDigits_eq_if (by omega)]
    split
    · next small =>
      refine ⟨_, [], rfl, ?_⟩
      have cases_ : ∀ m : Fin 10, 0 < m.val → m.val.digitChar ≠ '0' := by decide
      exact cases_ ⟨n, small⟩ positive
    · next large =>
      obtain ⟨c, cs, digits, nonzero⟩ := ih (n / 10) (by omega) (by omega)
      exact ⟨c, cs ++ [(n % 10).digitChar], by rw [digits]; rfl, nonzero⟩

/-- The written form of a position names it. -/
theorem indexOfKey?_toString (n : Nat) : indexOfKey? (toString n) = some n := by
  have isDigit : (toString n).toList.all Char.isDigit = true :=
    List.all_eq_true.mpr fun c mem => Text.isDigit_of_mem_toString mem
  unfold indexOfKey?
  split
  · next empty => exact absurd empty (Text.toString_ne_nil n)
  · next c cs zero =>
    rw [Text.toList_toString] at zero
    rcases Nat.eq_zero_or_pos n with rfl | positive
    · cases zero
    · obtain ⟨d, ds, shape, nonzero⟩ := toDigits_no_zero positive
      rw [shape] at zero
      cases zero
      exact absurd rfl nonzero
  · rw [isDigit]
    exact congrArg some (Text.digitsValue_toString n)

/-- An item of a list can be replaced. -/
theorem modify?_item {items : List Json} {n : Nat} (bound : n < items.length) (new : Json) :
    (Json.array items).modify? (fun _ => some new) [toString n] =
      some (.array (items.set n new)) := by
  have child : (Json.array items).child? (toString n) = some items[n] := by
    rw [child?, indexOfKey?_toString, Option.bind_some, List.getElem?_eq_getElem bound]
  have set : (Json.array items).setChild? (toString n) new = some (.array (items.set n new)) := by
    rw [setChild?, indexOfKey?_toString, Option.bind_some, if_pos bound]
  rw [modify?, child]
  exact set

/-- An item can be put behind the last one of a list. -/
theorem modify?_end (items : List Json) (new : Json) :
    (Json.array items).modify? (fun list => list.addChild? endKey new) [] =
      some (.array (items ++ [new])) := by
  simp [modify?, addChild?]

end GatewayOperator.Json
