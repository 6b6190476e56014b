import GatewayOperator.Json.Pointer

/-!
# Changing values at places

A change names a place in a value and puts another value there.  It fails if nothing can be found on
the way to the place.

## Main Definitions

* `Json.replace?` — a value in place of the one at a place.
* `Json.add?` — a value under a new key, or in front of an item of an array.
-/

namespace GatewayOperator.Json

/-- Fields with the values of a name replaced. -/
def setField (name : String) (value : Json) (fields : List (String × Json)) :
    List (String × Json) :=
  fields.map fun field => if field.1 = name then (name, value) else field

/-- A value with the value under a key replaced. -/
def setChild? : Json → String → Json → Option Json
  | .object fields, key, value =>
    if ((Json.object fields).get? key).isSome then some (.object (setField key value fields))
    else none
  | .array items, key, value =>
    (indexOfKey? key).bind fun n =>
      if n < items.length then some (.array (items.set n value)) else none
  | _, _, _ => none

/-- The key behind the last item of an array. -/
def endKey : String := "-"

/-- A value with one more value in it: under a name, in place of what stands there, or in front of
an item or at the end of an array. -/
def addChild? : Json → String → Json → Option Json
  | .object fields, key, value =>
    some (.object (if ((Json.object fields).get? key).isSome then setField key value fields
      else fields ++ [(key, value)]))
  | .array items, key, value =>
    if key = endKey then some (.array (items ++ [value]))
    else
      (indexOfKey? key).bind fun n =>
        if n ≤ items.length then some (.array (items.take n ++ value :: items.drop n)) else none
  | _, _, _ => none

/-- A value with the value at a place changed. -/
def modify? (change : Json → Option Json) (value : Json) : Pointer → Option Json
  | [] => change value
  | key :: rest => do
    let child ← value.child? key
    value.setChild? key (← child.modify? change rest)

/-- A value with the value at a place replaced. -/
def replace? (value : Json) (place : Pointer) (new : Json) : Option Json :=
  value.modify? (fun _ => some new) place

/-- A value with one more value at a place. -/
def add? (value : Json) (place : Pointer) (new : Json) : Option Json :=
  match place.getLast? with
  | none => some new
  | some key => value.modify? (fun parent => parent.addChild? key new) place.dropLast

theorem lookup_setField (name : String) (value : Json) (fields : List (String × Json)) :
    Assoc.lookup name (setField name value fields) =
      (Assoc.lookup name fields).map fun _ => value := by
  induction fields with
  | nil => rfl
  | cons field fields ih =>
    obtain ⟨other, old⟩ := field
    by_cases h : other = name
    · subst h
      simp [setField, Assoc.lookup]
    · have : ¬name = other := fun e => h e.symm
      simpa [setField, Assoc.lookup, h, this] using ih

theorem reverse_setField (name : String) (value : Json) (fields : List (String × Json)) :
    (setField name value fields).reverse = setField name value fields.reverse := by
  simp [setField]

end GatewayOperator.Json
