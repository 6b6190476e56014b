import GatewayOperator.Assoc

/-!
# Dictionaries

Labels, annotations, data entries and the objects of a cluster are finite maps whose order of
entries is the order of their keys.

## Main Definitions

* `Dict` — an ascending association list.
* `Dict.get?`, `Dict.insert`, `Dict.erase` — the operations, each of which keeps the order.

## Design Notes

The order is a field of the structure, so two dictionaries are equal exactly when their entries
are, and `Dict.entries` is what is written.
-/

namespace GatewayOperator

/-- A finite map, with its entries in key order. -/
structure Dict (κ α : Type) [LT κ] where
  /-- The pairs, in key order. -/
  entries : List (κ × α)
  /-- Each key precedes the next. -/
  ascending : Assoc.Ascending entries

namespace Dict

variable {κ α β : Type} [LT κ]

theorem ext {a b : Dict κ α} (h : a.entries = b.entries) : a = b := by
  cases a; cases b; simp_all

instance [DecidableEq κ] [DecidableEq α] : DecidableEq (Dict κ α) := fun a b =>
  if h : a.entries = b.entries then isTrue (ext h)
  else isFalse fun hab => h (hab ▸ rfl)

/-- The map without entries. -/
def empty : Dict κ α := ⟨[], List.Pairwise.nil⟩

instance : EmptyCollection (Dict κ α) := ⟨empty⟩

instance : Inhabited (Dict κ α) := ⟨empty⟩

/-- The keys, ascending. -/
def keys (d : Dict κ α) : List κ := d.entries.map (·.1)

/-- The values, in the order of their keys. -/
def values (d : Dict κ α) : List α := d.entries.map (·.2)

/-- Whether there is no entry. -/
def isEmpty (d : Dict κ α) : Bool := d.entries.isEmpty

/-- The number of entries. -/
def size (d : Dict κ α) : Nat := d.entries.length

/-- The map with `f` applied to each value. -/
def map (f : α → β) (d : Dict κ α) : Dict κ β :=
  ⟨d.entries.map fun entry => (entry.1, f entry.2), by
    have h := d.ascending
    unfold Assoc.Ascending at h ⊢
    exact List.pairwise_map.mpr h⟩

/-- The entries that satisfy `p`. -/
def filter (p : κ → α → Bool) (d : Dict κ α) : Dict κ α :=
  ⟨d.entries.filter fun entry => p entry.1 entry.2, List.Pairwise.filter _ d.ascending⟩

variable [DecidableEq κ]

/-- The value under a key. -/
def get? (d : Dict κ α) (key : κ) : Option α := Assoc.lookup key d.entries

/-- Whether there is an entry under a key. -/
def contains (d : Dict κ α) (key : κ) : Bool := (d.get? key).isSome

/-- The map without the entry of a key. -/
def erase (d : Dict κ α) (key : κ) : Dict κ α :=
  ⟨Assoc.erase key d.entries, Assoc.ascending_erase key d.ascending⟩

variable [DecidableLT κ] [KeyOrder κ]

/-- The map with a value under a key, in place of the one that was there. -/
def insert (d : Dict κ α) (key : κ) (value : α) : Dict κ α :=
  ⟨Assoc.insert key value d.entries, Assoc.ascending_insert key value d.ascending⟩

/-- The map of some pairs; the last pair of a key wins. -/
def ofList (pairs : List (κ × α)) : Dict κ α :=
  ⟨Assoc.ofList pairs, Assoc.ascending_ofList pairs⟩

/-- The map with the pairs inserted one after another. -/
def insertAll (d : Dict κ α) (pairs : List (κ × α)) : Dict κ α :=
  ⟨Assoc.insertAll pairs d.entries, Assoc.ascending_insertAll pairs d.ascending⟩

omit [DecidableLT κ] [KeyOrder κ] in
@[simp] theorem get?_empty (key : κ) : (∅ : Dict κ α).get? key = none := rfl

@[simp] theorem get?_insert_self (d : Dict κ α) (key : κ) (value : α) :
    (d.insert key value).get? key = some value :=
  Assoc.lookup_insert_self key value d.entries

theorem get?_insert_of_ne (d : Dict κ α) {key other : κ} (h : other ≠ key) (value : α) :
    (d.insert key value).get? other = d.get? other :=
  Assoc.lookup_insert_of_ne h value d.entries

omit [DecidableLT κ] [KeyOrder κ] in
@[simp] theorem get?_erase_self (d : Dict κ α) (key : κ) : (d.erase key).get? key = none :=
  Assoc.lookup_erase_self key d.entries

omit [DecidableLT κ] [KeyOrder κ] in
theorem get?_erase_of_ne (d : Dict κ α) {key other : κ} (h : other ≠ key) :
    (d.erase key).get? other = d.get? other :=
  Assoc.lookup_erase_of_ne h d.entries

theorem get?_insert (d : Dict κ α) (key other : κ) (value : α) :
    (d.insert key value).get? other = if other = key then some value else d.get? other := by
  split
  · next h => rw [h, get?_insert_self]
  · next h => exact get?_insert_of_ne d h value

omit [DecidableLT κ] [KeyOrder κ] in
theorem get?_erase (d : Dict κ α) (key other : κ) :
    (d.erase key).get? other = if other = key then none else d.get? other := by
  split
  · next h => rw [h, get?_erase_self]
  · next h => exact get?_erase_of_ne d h

omit [DecidableLT κ] [KeyOrder κ] in
theorem contains_iff_exists {d : Dict κ α} {key : κ} :
    d.contains key = true ↔ ∃ value, d.get? key = some value :=
  Option.isSome_iff_exists

omit [DecidableLT κ] [KeyOrder κ] in
theorem contains_eq_false_iff {d : Dict κ α} {key : κ} :
    d.contains key = false ↔ d.get? key = none := by
  unfold contains
  cases d.get? key <;> simp

theorem contains_insert_iff {d : Dict κ α} {key other : κ} {value : α} :
    (d.insert key value).contains other = true ↔ other = key ∨ d.contains other = true := by
  unfold contains
  rw [get?_insert]
  split
  · next same => simp [same]
  · next different => simp [different]

omit [DecidableLT κ] [KeyOrder κ] in
theorem erase_of_get?_eq_none {d : Dict κ α} {key : κ} (h : d.get? key = none) :
    d.erase key = d :=
  ext (Assoc.erase_of_lookup_eq_none h)

@[simp] theorem erase_insert_self (d : Dict κ α) (key : κ) (value : α) :
    (d.insert key value).erase key = d.erase key :=
  ext (Assoc.erase_insert_self key value d.entries)

@[simp] theorem isEmpty_insert (d : Dict κ α) (key : κ) (value : α) :
    (d.insert key value).isEmpty = false := by
  simpa [isEmpty, insert] using Assoc.insert_ne_nil key value d.entries

@[simp] theorem insertAll_nil (d : Dict κ α) : d.insertAll [] = d := rfl

@[simp] theorem insertAll_cons (d : Dict κ α) (key : κ) (value : α) (rest : List (κ × α)) :
    d.insertAll ((key, value) :: rest) = (d.insert key value).insertAll rest := rfl

theorem ofList_eq_insertAll (pairs : List (κ × α)) :
    ofList pairs = (∅ : Dict κ α).insertAll pairs := rfl

end Dict

/-- A map from texts to texts, such as labels and annotations. -/
abbrev TextMap := Dict String String

end GatewayOperator
