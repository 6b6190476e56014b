import GatewayOperator.Dict

/-!
# Entries and look-ups

The entries of a dictionary stand in the order of their keys, so they are determined by what is
looked up.

## Main Statements

* `Assoc.eq_of_lookup` — ascending lists with the same look-ups are the same.
* `Assoc.insert_comm` — of two keys it does not matter which one is inserted first.
* `Dict.filterMap_congr` — what is collected from entries of some keys depends on these keys only.
* `Dict.ofList_entries` — a dictionary is made of its entries.
* `Dict.get?_ofList` — what is looked up in a dictionary of some pairs is the last pair of a key.
-/

namespace GatewayOperator

namespace Assoc

variable {κ α : Type} [DecidableEq κ] [LT κ]

omit [LT κ] in
theorem mem_of_lookup {key : κ} {value : α} {entries : List (κ × α)}
    (h : lookup key entries = some value) : (key, value) ∈ entries := by
  induction entries with
  | nil => cases h
  | cons entry rest ih =>
    obtain ⟨k, v⟩ := entry
    unfold lookup at h
    split at h
    · next same =>
      cases h
      rw [same]
      exact List.mem_cons_self
    · exact List.mem_cons_of_mem _ (ih h)

omit [LT κ] in
theorem lookup_append (key : κ) (entries entries' : List (κ × α)) :
    lookup key (entries ++ entries') = (lookup key entries).or (lookup key entries') := by
  induction entries with
  | nil => rfl
  | cons entry rest ih =>
    obtain ⟨k, v⟩ := entry
    rw [List.cons_append, lookup_cons, lookup_cons, ih]
    by_cases here : k = key
    · simp [here]
    · simp [here]

omit [LT κ] in
/-- Where the values are mapped, what is looked up is mapped. -/
theorem lookup_map {β : Type} (f : α → β) (key : κ) (entries : List (κ × α)) :
    lookup key (entries.map fun entry => (entry.1, f entry.2)) = (lookup key entries).map f := by
  induction entries with
  | nil => rfl
  | cons entry rest ih =>
    obtain ⟨k, v⟩ := entry
    rw [List.map_cons, lookup_cons, lookup_cons, ih]
    split <;> rfl

variable [KeyOrder κ]

/-- A key that precedes all others is not among them. -/
theorem lookup_eq_none_of_lt {key : κ} {entries : List (κ × α)}
    (before : ∀ entry ∈ entries, key < entry.1) : lookup key entries = none := by
  refine lookup_eq_none_iff.mpr fun entry mem same => ?_
  have := before entry mem
  rw [same] at this
  exact KeyOrder.irrefl _ this

/-- Ascending lists with the same look-ups are the same. -/
theorem eq_of_lookup {entries entries' : List (κ × α)} (ascending : Ascending entries)
    (ascending' : Ascending entries')
    (same : ∀ key, lookup key entries = lookup key entries') : entries = entries' := by
  induction entries generalizing entries' with
  | nil =>
    cases entries' with
    | nil => rfl
    | cons entry' rest' =>
      have := same entry'.1
      rw [lookup_nil, lookup_cons, if_pos rfl] at this
      cases this
  | cons entry rest ih =>
    obtain ⟨k, v⟩ := entry
    obtain ⟨first, ascends⟩ := List.pairwise_cons.mp ascending
    cases entries' with
    | nil =>
      have := same k
      rw [lookup_nil, lookup_cons, if_pos rfl] at this
      cases this
    | cons entry' rest' =>
      obtain ⟨k', v'⟩ := entry'
      obtain ⟨first', ascends'⟩ := List.pairwise_cons.mp ascending'
      -- The smaller of the two first keys would be looked up in vain in the other list.
      have notBefore : ¬k < k' := by
        intro before
        have absent : lookup k ((k', v') :: rest') = none := by
          refine lookup_eq_none_of_lt fun entry mem => ?_
          rcases List.mem_cons.mp mem with rfl | mem
          · exact before
          · exact KeyOrder.trans before (first' entry mem)
        have := same k
        rw [absent, lookup_cons, if_pos rfl] at this
        cases this
      have notAfter : ¬k' < k := by
        intro after
        have absent : lookup k' ((k, v) :: rest) = none := by
          refine lookup_eq_none_of_lt fun entry mem => ?_
          rcases List.mem_cons.mp mem with rfl | mem
          · exact after
          · exact KeyOrder.trans after (first entry mem)
        have := same k'
        rw [absent, lookup_cons, if_pos rfl] at this
        cases this
      obtain rfl : k = k' := KeyOrder.trichotomy notBefore notAfter
      have value : v = v' := by
        have := same k
        rw [lookup_cons, lookup_cons, if_pos rfl, if_pos rfl] at this
        exact Option.some.inj this
      rw [value, ih ascends ascends' fun key => ?_]
      by_cases here : k = key
      · rw [← here, lookup_eq_none_of_lt first, lookup_eq_none_of_lt first']
      · have := same key
        rw [lookup_cons, lookup_cons, if_neg here, if_neg here] at this
        exact this

omit [LT κ] [KeyOrder κ] in
/-- Where no key has two entries, the last one of a key is the first one. -/
theorem lookup_reverse {entries : List (κ × α)} (distinct : (entries.map (·.1)).Nodup) (key : κ) :
    lookup key entries.reverse = lookup key entries := by
  induction entries with
  | nil => rfl
  | cons entry rest ih =>
    obtain ⟨k, v⟩ := entry
    rw [List.map_cons, List.nodup_cons] at distinct
    rw [List.reverse_cons, lookup_append, ih distinct.2, lookup_cons, lookup_cons, lookup_nil]
    by_cases here : k = key
    · have missing : lookup key rest = none := by
        refine lookup_eq_none_iff.mpr fun entry mem same => distinct.1 ?_
        exact List.mem_map.mpr ⟨entry, mem, same.trans here.symm⟩
      rw [missing, if_pos here, Option.none_or]
    · rw [if_neg here, if_neg here, Option.or_none]

omit [LT κ] [KeyOrder κ] in
/-- Among the entries of some keys, these keys are looked up as among all. -/
theorem lookup_filter (p : κ → Bool) (key : κ) (entries : List (κ × α)) :
    lookup key (entries.filter fun entry => p entry.1) =
      if p key then lookup key entries else none := by
  induction entries with
  | nil => simp
  | cons entry rest ih =>
    obtain ⟨k, v⟩ := entry
    by_cases kept : p k = true
    · rw [List.filter_cons, if_pos kept, lookup_cons, lookup_cons, ih]
      by_cases here : k = key
      · rw [if_pos here, if_pos here, ← here, if_pos kept]
      · rw [if_neg here, if_neg here]
    · rw [List.filter_cons, if_neg kept, lookup_cons, ih]
      by_cases here : k = key
      · rw [← here, if_neg kept, if_neg kept]
      · rw [if_neg here]

omit [DecidableEq κ] in
/-- In an ascending list no key has two entries. -/
theorem nodup_of_ascending {entries : List (κ × α)} (ascending : Ascending entries) :
    (entries.map (·.1)).Nodup := by
  refine List.pairwise_map.mpr (ascending.imp ?_)
  intro a b less same
  rw [same] at less
  exact KeyOrder.irrefl _ less

variable [DecidableLT κ]

omit [KeyOrder κ] in
/-- Of the pairs that are inserted, the last one of a key is looked up. -/
theorem lookup_insertAll (key : κ) (added entries : List (κ × α)) :
    lookup key (insertAll added entries) =
      (lookup key added.reverse).or (lookup key entries) := by
  induction added generalizing entries with
  | nil => rfl
  | cons entry rest ih =>
    obtain ⟨k, v⟩ := entry
    have shifted : insertAll ((k, v) :: rest) entries = insertAll rest (insert k v entries) := rfl
    rw [shifted, ih, List.reverse_cons, lookup_append, Option.or_assoc]
    by_cases here : key = k
    · rw [here, lookup_insert_self, lookup_cons, if_pos rfl]
      rfl
    · rw [lookup_insert_of_ne here, lookup_cons, if_neg (Ne.symm here)]
      rfl

/-- A pair whose key follows all others goes to the end. -/
theorem insert_of_lt {key : κ} {value : α} {entries : List (κ × α)}
    (last : ∀ entry ∈ entries, entry.1 < key) :
    insert key value entries = entries ++ [(key, value)] := by
  induction entries with
  | nil => rfl
  | cons entry rest ih =>
    obtain ⟨k, v⟩ := entry
    have before : k < key := last _ List.mem_cons_self
    have notBefore : ¬key < k := fun h => KeyOrder.irrefl _ (KeyOrder.trans before h)
    have different : key ≠ k := by
      rintro rfl
      exact KeyOrder.irrefl _ before
    rw [insert, if_neg notBefore, if_neg different,
      ih fun entry mem => last entry (List.mem_cons_of_mem _ mem)]
    rfl

theorem insertAll_of_ascending {added entries : List (κ × α)}
    (ascending : Ascending (entries ++ added)) : insertAll added entries = entries ++ added := by
  induction added generalizing entries with
  | nil => rw [List.append_nil]; rfl
  | cons entry rest ih =>
    obtain ⟨k, v⟩ := entry
    have split : entries ++ (k, v) :: rest = (entries ++ [(k, v)]) ++ rest := by simp
    have last : ∀ entry ∈ entries, entry.1 < k := fun entry mem =>
      (List.pairwise_append.mp ascending).2.2 entry mem _ List.mem_cons_self
    rw [split] at ascending ⊢
    rw [← ih ascending]
    unfold insertAll
    rw [List.foldl_cons, insert_of_lt last]

/-! ### Insertions one after another -/

/-- What is inserted under a key takes the place of what was inserted there before. -/
theorem insert_insert_self (key : κ) (value value' : α) (entries : List (κ × α)) :
    insert key value (insert key value' entries) = insert key value entries := by
  have irrefl := KeyOrder.irrefl key
  induction entries with
  | nil => simp only [insert, if_neg irrefl, ↓reduceIte]
  | cons entry rest ih =>
    obtain ⟨k, v⟩ := entry
    by_cases before : key < k
    · simp only [insert, if_pos before, if_neg irrefl, ↓reduceIte]
    · by_cases same : key = k
      · simp only [insert, if_neg before, if_pos same, if_neg irrefl, ↓reduceIte]
      · simp only [insert, if_neg before, if_neg same, ih]

/-- A value that is inserted where it is looked up changes nothing. -/
theorem insert_of_lookup {key : κ} {value : α} {entries : List (κ × α)}
    (ascending : Ascending entries) (found : lookup key entries = some value) :
    insert key value entries = entries := by
  refine eq_of_lookup (ascending_insert key value ascending) ascending fun other => ?_
  by_cases here : other = key
  · rw [here, lookup_insert_self, found]
  · exact lookup_insert_of_ne here value entries

theorem insert_comm_of_lt {key other : κ} (less : key < other) (value value' : α)
    (entries : List (κ × α)) : insert key value (insert other value' entries) =
      insert other value' (insert key value entries) := by
  have notLess : ¬other < key := fun more => KeyOrder.irrefl _ (KeyOrder.trans less more)
  have different : other ≠ key := by
    rintro rfl
    exact KeyOrder.irrefl _ less
  induction entries with
  | nil => simp only [insert, if_pos less, if_neg notLess, if_neg different]
  | cons entry rest ih =>
    obtain ⟨k, v⟩ := entry
    by_cases before : key < k
    · -- The smaller key goes to the front, wherever the other one goes.
      by_cases before' : other < k
      · simp only [insert, if_pos before, if_pos before', if_pos less, if_neg notLess,
          if_neg different]
      · by_cases same' : other = k
        · simp only [insert, if_pos before, if_neg before', if_pos same', if_pos less,
            if_neg notLess, if_neg different]
        · simp only [insert, if_pos before, if_neg before', if_neg same', if_neg notLess,
            if_neg different]
    · have reached : ¬k < key → key = k := KeyOrder.trichotomy before
      by_cases same : key = k
      · subst same
        simp only [insert, if_neg notLess, if_neg different, if_neg before, if_pos]
      · have after : k < other :=
          KeyOrder.trans (Decidable.byContradiction fun h => same (reached h)) less
        have before' : ¬other < k := fun more => KeyOrder.irrefl _ (KeyOrder.trans after more)
        have different' : other ≠ k := by
          rintro rfl
          exact KeyOrder.irrefl _ after
        simp only [insert, if_neg before, if_neg same, if_neg before', if_neg different', ih]

/-- Of two keys it does not matter which one is inserted first. -/
theorem insert_comm {key other : κ} (different : key ≠ other) (value value' : α)
    (entries : List (κ × α)) : insert key value (insert other value' entries) =
      insert other value' (insert key value entries) := by
  by_cases less : key < other
  · exact insert_comm_of_lt less value value' entries
  · have more : other < key :=
      Decidable.byContradiction fun h => different (KeyOrder.trichotomy less h)
    exact (insert_comm_of_lt more value' value entries).symm

/-- A key that is not among those inserted may as well be inserted after them. -/
theorem insertAll_insert {key : κ} {added : List (κ × α)}
    (absent : ∀ entry ∈ added, entry.1 ≠ key) (value : α) (entries : List (κ × α)) :
    insertAll added (insert key value entries) = insert key value (insertAll added entries) := by
  induction added generalizing entries with
  | nil => rfl
  | cons entry rest ih =>
    have first := insert_comm (absent entry List.mem_cons_self) entry.2 value entries
    have others := ih (fun entry mem => absent entry (List.mem_cons_of_mem _ mem))
      (insert entry.1 entry.2 entries)
    show insertAll rest (insert entry.1 entry.2 (insert key value entries)) = _
    rw [first, others]
    rfl

/-- Pairs of different keys that are inserted again change nothing. -/
theorem insertAll_insertAll_self {added : List (κ × α)}
    (distinct : added.Pairwise fun a b => a.1 ≠ b.1) (entries : List (κ × α)) :
    insertAll added (insertAll added entries) = insertAll added entries := by
  induction added generalizing entries with
  | nil => rfl
  | cons entry rest ih =>
    obtain ⟨first, distinct⟩ := List.pairwise_cons.mp distinct
    have absent : ∀ entry' ∈ rest, entry'.1 ≠ entry.1 := fun entry' mem => (first entry' mem).symm
    show insertAll rest (insert entry.1 entry.2 (insertAll rest (insert entry.1 entry.2 entries))) =
      insertAll rest (insert entry.1 entry.2 entries)
    rw [← insertAll_insert absent, insert_insert_self, ih distinct]

end Assoc

namespace Dict

variable {κ α β : Type} [DecidableEq κ] [LT κ] [KeyOrder κ]

/-- What is collected from the entries of some keys depends on these keys only. -/
theorem filterMap_congr (p : κ → Bool) {f : κ × α → Option β} {d d' : Dict κ α}
    (only : ∀ key value, f (key, value) ≠ none → p key = true)
    (same : ∀ key, p key = true → d.get? key = d'.get? key) :
    d.entries.filterMap f = d'.entries.filterMap f := by
  have restricted (entries : List (κ × α)) :
      (entries.filter fun entry => p entry.1).filterMap f = entries.filterMap f := by
    induction entries with
    | nil => rfl
    | cons entry rest ih =>
      rw [List.filter_cons]
      split
      · rw [List.filterMap_cons, List.filterMap_cons, ih]
      · next dropped =>
        have uncollected : f entry = none := by
          by_cases collected : f entry = none
          · exact collected
          · exact absurd (only entry.1 entry.2 collected) dropped
        rw [List.filterMap_cons_none uncollected, ih]
  rw [← restricted d.entries, ← restricted d'.entries]
  refine congrArg _ (Assoc.eq_of_lookup (d.ascending.filter _) (d'.ascending.filter _) ?_)
  intro key
  rw [Assoc.lookup_filter, Assoc.lookup_filter]
  split
  · next kept => exact same key kept
  · rfl

/-- An entry is what is looked up under its key. -/
theorem mem_entries_iff {d : Dict κ α} {key : κ} {value : α} :
    (key, value) ∈ d.entries ↔ d.get? key = some value := by
  constructor
  · intro mem
    have ascending := d.ascending
    unfold get?
    generalize d.entries = entries at mem ascending
    induction entries with
    | nil => cases mem
    | cons entry rest ih =>
      obtain ⟨k, v⟩ := entry
      obtain ⟨first, ascends⟩ := List.pairwise_cons.mp ascending
      rw [Assoc.lookup_cons]
      rcases List.mem_cons.mp mem with same | mem
      · cases same
        exact if_pos rfl
      · have different : k ≠ key := by
          rintro rfl
          have less : k < k := first (k, value) mem
          exact KeyOrder.irrefl _ less
        rw [if_neg different]
        exact ih mem ascends
  · exact Assoc.mem_of_lookup

omit [KeyOrder κ] in
theorem mem_keys_iff {d : Dict κ α} {key : κ} : key ∈ d.keys ↔ d.get? key ≠ none := by
  unfold get? keys
  rw [ne_eq, Assoc.lookup_eq_none_iff]
  simp

omit [KeyOrder κ] in
theorem mem_keys_of_get? {d : Dict κ α} {key : κ} {value : α} (h : d.get? key = some value) :
    key ∈ d.keys :=
  List.mem_map.mpr ⟨_, Assoc.mem_of_lookup h, rfl⟩

variable [DecidableLT κ]

/-- A dictionary is made of its entries. -/
theorem ofList_entries (d : Dict κ α) : ofList d.entries = d :=
  ext (Assoc.insertAll_of_ascending d.ascending)

/-- What is looked up in a dictionary of some pairs is the last pair of a key. -/
theorem get?_ofList (pairs : List (κ × α)) (key : κ) :
    (ofList pairs).get? key = Assoc.lookup key pairs.reverse := by
  unfold get? ofList Assoc.ofList
  rw [Assoc.lookup_insertAll, Assoc.lookup_nil, Option.or_none]

/-- The keys of a dictionary of some pairs are the keys of the pairs. -/
theorem mem_keys_ofList_iff {pairs : List (κ × α)} {key : κ} :
    key ∈ (ofList pairs).keys ↔ key ∈ pairs.map (·.1) := by
  rw [mem_keys_iff, get?_ofList, ne_eq, Assoc.lookup_eq_none_iff]
  simp

/-- Every key that is written is a key. -/
theorem mem_keys_ofList {pairs : List (κ × α)} {key : κ} (mem : key ∈ pairs.map (·.1)) :
    key ∈ (ofList pairs).keys :=
  mem_keys_ofList_iff.mpr mem

/-- Where no key has two values, every pair is looked up. -/
theorem get?_ofList_iff {pairs : List (κ × α)} {key : κ} {value : α}
    (single : ∀ v v', (key, v) ∈ pairs → (key, v') ∈ pairs → v = v') :
    (ofList pairs).get? key = some value ↔ (key, value) ∈ pairs := by
  rw [get?_ofList]
  constructor
  · intro found
    exact List.mem_reverse.mp (Assoc.mem_of_lookup found)
  · intro mem
    cases found : Assoc.lookup key pairs.reverse with
    | none => exact absurd rfl (Assoc.lookup_eq_none_iff.mp found _ (List.mem_reverse.mpr mem))
    | some value' =>
      have mem' := List.mem_reverse.mp (Assoc.mem_of_lookup found)
      rw [single value' value mem' mem]

end Dict

end GatewayOperator
