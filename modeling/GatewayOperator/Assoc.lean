/-!
# Association lists in key order

The mappings of configuration documents and of cluster objects are written in the order of their
keys.  This module holds the one representation of them: a list of pairs, kept ascending by the
operations themselves.

## Main Definitions

* `KeyOrder` — a strict total order on keys; texts are ordered by code point.
* `Assoc.lookup`, `Assoc.insert`, `Assoc.erase` — the operations on the raw list.
* `Assoc.Ascending` — the list is strictly ascending in its keys.

## Design Notes

`lookup` answers the first pair of a key and `insert` walks past smaller keys only, so the laws
that relate them need no hypothesis on the list; ascent is needed only where two lists with the
same look-ups have to be the same list.
-/

namespace GatewayOperator

/-- A strict total order on keys. -/
class KeyOrder (κ : Type) [LT κ] : Prop where
  /-- No key precedes itself. -/
  irrefl : ∀ a : κ, ¬ a < a
  /-- Precedence is transitive. -/
  trans : ∀ {a b c : κ}, a < b → b < c → a < c
  /-- Two keys neither of which precedes the other are the same. -/
  trichotomy : ∀ {a b : κ}, ¬ a < b → ¬ b < a → a = b

/-- Texts are ordered by their code points. -/
instance : KeyOrder String where
  irrefl := String.lt_irrefl
  trans := String.lt_trans
  trichotomy := fun h₁ h₂ => String.le_antisymm (String.not_lt.mp h₂) (String.not_lt.mp h₁)

namespace Assoc

variable {κ α β : Type} [DecidableEq κ] [LT κ] [DecidableLT κ]

/-- The value of the first pair with this key. -/
def lookup (key : κ) : List (κ × α) → Option α
  | [] => none
  | (k, v) :: rest => if k = key then some v else lookup key rest

/-- The list with `value` under `key`, in front of the first larger key. -/
def insert (key : κ) (value : α) : List (κ × α) → List (κ × α)
  | [] => [(key, value)]
  | (k, v) :: rest =>
    if key < k then (key, value) :: (k, v) :: rest
    else if key = k then (key, value) :: rest
    else (k, v) :: insert key value rest

/-- The list without the pairs of a key. -/
def erase (key : κ) (entries : List (κ × α)) : List (κ × α) :=
  entries.filter fun entry => entry.1 ≠ key

/-- The pairs of `added` inserted one after another: a later pair of a key wins. -/
def insertAll (added entries : List (κ × α)) : List (κ × α) :=
  added.foldl (fun acc entry => insert entry.1 entry.2 acc) entries

/-- The pairs in key order, the last pair of each key. -/
def ofList (pairs : List (κ × α)) : List (κ × α) := insertAll pairs []

/-- Strictly ascending in the keys. -/
def Ascending {κ α : Type} [LT κ] (entries : List (κ × α)) : Prop :=
  entries.Pairwise fun a b => a.1 < b.1

instance (entries : List (κ × α)) : Decidable (Ascending entries) :=
  inferInstanceAs (Decidable (entries.Pairwise _))

omit [LT κ] [DecidableLT κ] in
@[simp] theorem lookup_nil (key : κ) : lookup key ([] : List (κ × α)) = none := rfl

omit [LT κ] [DecidableLT κ] in
theorem lookup_cons (key k : κ) (v : α) (rest : List (κ × α)) :
    lookup key ((k, v) :: rest) = if k = key then some v else lookup key rest := rfl

@[simp] theorem lookup_insert_self (key : κ) (value : α) (entries : List (κ × α)) :
    lookup key (insert key value entries) = some value := by
  induction entries with
  | nil => simp [insert, lookup]
  | cons entry rest ih =>
    obtain ⟨k, v⟩ := entry
    unfold insert
    split
    · simp [lookup]
    · split
      · simp [lookup]
      · rename_i hne
        simp [lookup, Ne.symm hne, ih]

theorem lookup_insert_of_ne {key other : κ} (h : other ≠ key) (value : α)
    (entries : List (κ × α)) :
    lookup other (insert key value entries) = lookup other entries := by
  induction entries with
  | nil => simp [insert, lookup, Ne.symm h]
  | cons entry rest ih =>
    obtain ⟨k, v⟩ := entry
    unfold insert
    split
    · simp [lookup, Ne.symm h]
    · split
      · rename_i heq
        subst heq
        simp [lookup, Ne.symm h]
      · simp [lookup, ih]

omit [LT κ] [DecidableLT κ] in
@[simp] theorem lookup_erase_self (key : κ) (entries : List (κ × α)) :
    lookup key (erase key entries) = none := by
  induction entries with
  | nil => rfl
  | cons entry rest ih =>
    obtain ⟨k, v⟩ := entry
    by_cases h : k = key <;> simp_all [erase, lookup]

omit [LT κ] [DecidableLT κ] in
theorem lookup_erase_of_ne {key other : κ} (h : other ≠ key) (entries : List (κ × α)) :
    lookup other (erase key entries) = lookup other entries := by
  induction entries with
  | nil => rfl
  | cons entry rest ih =>
    obtain ⟨k, v⟩ := entry
    by_cases hk : k = key
    · subst hk
      have : erase k ((k, v) :: rest) = erase k rest := by simp [erase]
      rw [this, ih, lookup_cons, if_neg (Ne.symm h)]
    · have : erase key ((k, v) :: rest) = (k, v) :: erase key rest := by simp [erase, hk]
      rw [this, lookup_cons, lookup_cons, ih]

omit [LT κ] [DecidableLT κ] in
/-- A key is looked up in vain exactly where no pair has it. -/
theorem lookup_eq_none_iff {key : κ} {entries : List (κ × α)} :
    lookup key entries = none ↔ ∀ entry ∈ entries, entry.1 ≠ key := by
  induction entries with
  | nil => simp
  | cons entry rest ih =>
    obtain ⟨k, v⟩ := entry
    by_cases h : k = key <;> simp [lookup, h, ih]

theorem insert_ne_nil (key : κ) (value : α) (entries : List (κ × α)) :
    insert key value entries ≠ [] := by
  cases entries with
  | nil => exact List.cons_ne_nil _ _
  | cons entry rest =>
    unfold insert
    split
    · exact List.cons_ne_nil _ _
    · split <;> exact List.cons_ne_nil _ _

omit [LT κ] [DecidableLT κ] in
theorem erase_of_lookup_eq_none {key : κ} {entries : List (κ × α)}
    (h : lookup key entries = none) : erase key entries = entries := by
  rw [lookup_eq_none_iff] at h
  exact List.filter_eq_self.mpr fun entry mem => by simp [h entry mem]

/-- Erasing a key forgets what was inserted under it. -/
@[simp] theorem erase_insert_self (key : κ) (value : α) (entries : List (κ × α)) :
    erase key (insert key value entries) = erase key entries := by
  induction entries with
  | nil => simp [insert, erase]
  | cons entry rest ih =>
    obtain ⟨k, v⟩ := entry
    unfold insert
    split
    · simp [erase]
    · split
      · rename_i heq
        simp [erase, heq]
      · unfold erase at ih ⊢
        rw [List.filter_cons, List.filter_cons, ih]

theorem mem_insert {key : κ} {value : α} {entries : List (κ × α)} {entry : κ × α}
    (h : entry ∈ insert key value entries) : entry = (key, value) ∨ entry ∈ entries := by
  induction entries with
  | nil => simpa [insert] using h
  | cons first rest ih =>
    obtain ⟨k, v⟩ := first
    unfold insert at h
    split at h
    · simpa using h
    · split at h
      · rcases List.mem_cons.mp h with h | h
        · exact Or.inl h
        · exact Or.inr (List.mem_cons_of_mem _ h)
      · rcases List.mem_cons.mp h with h | h
        · exact Or.inr (h ▸ List.mem_cons_self)
        · rcases ih h with h | h
          · exact Or.inl h
          · exact Or.inr (List.mem_cons_of_mem _ h)

theorem ascending_insert [KeyOrder κ] (key : κ) (value : α) {entries : List (κ × α)}
    (h : Ascending entries) : Ascending (insert key value entries) := by
  induction entries with
  | nil => simp [insert, Ascending]
  | cons first rest ih =>
    obtain ⟨k, v⟩ := first
    have hrest : Ascending rest := (List.pairwise_cons.mp h).2
    have hfirst : ∀ entry ∈ rest, k < entry.1 := (List.pairwise_cons.mp h).1
    unfold insert
    split
    · rename_i hlt
      refine List.pairwise_cons.mpr ⟨fun entry hmem => ?_, h⟩
      rcases List.mem_cons.mp hmem with rfl | hmem
      · exact hlt
      · exact KeyOrder.trans hlt (hfirst entry hmem)
    · split
      · rename_i heq
        subst heq
        exact List.pairwise_cons.mpr ⟨hfirst, hrest⟩
      · rename_i hge hne
        refine List.pairwise_cons.mpr ⟨fun entry hmem => ?_, ih hrest⟩
        rcases mem_insert hmem with rfl | hmem
        · exact Decidable.byContradiction fun hn =>
            hne (KeyOrder.trichotomy hge hn)
        · exact hfirst entry hmem

omit [DecidableLT κ] in
theorem ascending_erase (key : κ) {entries : List (κ × α)} (h : Ascending entries) :
    Ascending (erase key entries) :=
  List.Pairwise.filter _ h

theorem ascending_insertAll [KeyOrder κ] (added : List (κ × α)) {entries : List (κ × α)}
    (h : Ascending entries) : Ascending (insertAll added entries) := by
  induction added generalizing entries with
  | nil => exact h
  | cons entry rest ih => exact ih (ascending_insert _ _ h)

theorem ascending_ofList [KeyOrder κ] (pairs : List (κ × α)) : Ascending (ofList pairs) :=
  ascending_insertAll pairs List.Pairwise.nil

end Assoc

end GatewayOperator
