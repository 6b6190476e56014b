import GatewayOperator.Document.Fragment
import GatewayOperator.Proofs.Entries

/-!
# Documents in key order

The entries of every mapping of a document stand in the order of their keys.  A text is read to such
a document, and merging keeps the order.

## Main Definitions

* `Document.IsLayer` — a mapping with its keys in order, such as a text holds.

## Main Statements

* `Document.isLayer_of_parse` — a text that can be read holds a layer.
* `Document.IsLayer.merge`, `Document.isLayer_fold` — layers are merged to a layer.
-/

namespace GatewayOperator.Document

/-- A layer of a configuration: a mapping, with the keys in order all through it. -/
structure IsLayer (d : Document) : Prop where
  /-- It is a mapping. -/
  mapping : ∃ entries, d = .mapping entries
  /-- Its keys are in order. -/
  ordered : d.Ordered

@[simp] theorem ordered_scalar (value : Scalar) : (scalar value).Ordered := .scalar value

@[simp] theorem ordered_mapping_iff {entries : List (String × Document)} :
    (mapping entries).Ordered ↔
      Assoc.Ascending entries ∧ ∀ entry ∈ entries, entry.2.Ordered := by
  constructor
  · intro ordered
    cases ordered with
    | mapping ascending values => exact ⟨ascending, values⟩
  · rintro ⟨ascending, values⟩
    exact .mapping ascending values

@[simp] theorem ordered_sequence_iff {items : List Document} :
    (sequence items).Ordered ↔ ∀ item ∈ items, item.Ordered := by
  constructor
  · intro ordered
    cases ordered with
    | sequence values => exact values
  · intro values
    exact .sequence values

/-- What is found under a key of an ordered document is ordered. -/
theorem Ordered.get? {d value : Document} {key : String} (ordered : d.Ordered)
    (found : d.get? key = some value) : value.Ordered := by
  cases ordered with
  | scalar => cases found
  | mapping ascending values => exact values _ (Assoc.mem_of_lookup found)
  | sequence => cases found

/-- An entry that is ordered can be inserted among others. -/
theorem ordered_insert {entries : List (String × Document)} {key : String} {value : Document}
    (ordered : (mapping entries).Ordered) (orderedValue : value.Ordered) :
    (mapping (Assoc.insert key value entries)).Ordered := by
  rw [ordered_mapping_iff] at ordered ⊢
  obtain ⟨ascending, values⟩ := ordered
  refine ⟨Assoc.ascending_insert key value ascending, fun entry mem => ?_⟩
  rcases Assoc.mem_insert mem with rfl | mem
  · exact orderedValue
  · exact values entry mem

/-- The document without entries is a layer. -/
theorem isLayer_empty : empty.IsLayer :=
  ⟨⟨[], rfl⟩, .mapping List.Pairwise.nil fun _ impossible => by cases impossible⟩

/-! ### Reading -/

mutual

/-- What is read is in order. -/
theorem ordered_of_ofValue? {v : Yaml.Value} {d : Document} (read : ofValue? v = some d) :
    d.Ordered := by
  cases v with
  | scalar value =>
    simp only [ofValue?, Option.some.injEq] at read
    subst read
    exact .scalar value
  | mapping pairs =>
    simp only [ofValue?, Option.map_eq_some_iff] at read
    obtain ⟨entries, read, rfl⟩ := read
    exact ordered_of_entriesOfPairs? read isLayer_empty.ordered
  | sequence items =>
    simp only [ofValue?, Option.map_eq_some_iff] at read
    obtain ⟨documents, read, rfl⟩ := read
    exact .sequence (ordered_of_itemsOfValues? read)

/-- The entries that are read go among the others in order. -/
theorem ordered_of_entriesOfPairs? {pairs : List (Yaml.Value × Yaml.Value)}
    {done entries : List (String × Document)} (read : entriesOfPairs? pairs done = some entries)
    (ordered : (mapping done).Ordered) : (mapping entries).Ordered := by
  match pairs with
  | [] =>
    simp only [entriesOfPairs?, Option.some.injEq] at read
    rwa [← read]
  | (.scalar key, value) :: rest =>
    simp only [entriesOfPairs?] at read
    split at read
    · cases read
    · next child found =>
      exact ordered_of_entriesOfPairs? read (ordered_insert ordered (ordered_of_ofValue? found))
  | (.sequence _, _) :: _ => simp [entriesOfPairs?] at read
  | (.mapping _, _) :: _ => simp [entriesOfPairs?] at read

/-- The items that are read are in order. -/
theorem ordered_of_itemsOfValues? {values : List Yaml.Value} {items : List Document}
    (read : itemsOfValues? values = some items) : ∀ item ∈ items, item.Ordered := by
  match values with
  | [] =>
    simp only [itemsOfValues?, Option.some.injEq] at read
    simp [← read]
  | value :: rest =>
    simp only [itemsOfValues?] at read
    split at read
    · next first others readFirst readOthers =>
      cases read
      intro item mem
      rcases List.mem_cons.mp mem with rfl | mem
      · exact ordered_of_ofValue? readFirst
      · exact ordered_of_itemsOfValues? readOthers item mem
    · cases read

end

/-- A text that can be read holds a layer. -/
theorem isLayer_of_parse {origin text : String} {d : Document}
    (read : parse origin text = .ok d) : d.IsLayer := by
  unfold parse at read
  split at read
  · cases read
  · next value _ =>
    split at read
    · cases read
      exact isLayer_empty
    · next entries found =>
      cases read
      exact ⟨⟨entries, rfl⟩, ordered_of_ofValue? found⟩
    · cases read
    · cases read

/-! ### Merging -/

theorem merge_of_same {base overlay : Document} (same : base.same overlay = true) :
    base.merge overlay = base := by
  unfold Document.merge
  exact if_pos same

theorem merge_mapping_of_not_same {below above : List (String × Document)}
    (differs : ¬(mapping below).same (mapping above) = true) :
    (mapping below).merge (mapping above) = mapping (mergeEntries below above) := by
  rw [Document.merge, if_neg differs]

/-- The ways in which two documents are merged. -/
theorem merge_cases (base overlay : Document) :
    base.same overlay = true ∧ base.merge overlay = base ∨
    (∃ below above, base = mapping below ∧ overlay = mapping above ∧
      base.merge overlay = mapping (mergeEntries below above)) ∨
    (∃ below above, base = sequence below ∧ overlay = sequence above ∧
      base.merge overlay = sequence (below ++ above)) ∨
    base.merge overlay = overlay := by
  by_cases same : base.same overlay = true
  · exact Or.inl ⟨same, merge_of_same same⟩
  · right
    unfold Document.merge
    rw [if_neg same]
    split
    · exact Or.inl ⟨_, _, rfl, rfl, rfl⟩
    · exact Or.inr (Or.inl ⟨_, _, rfl, rfl, rfl⟩)
    · exact Or.inr (Or.inr rfl)

/-- Laying ordered entries on top of others keeps the order, if merging their values does. -/
theorem ordered_mergeEntries {above : List (String × Document)}
    (merged : ∀ entry ∈ above, ∀ {base : Document}, base.Ordered → (base.merge entry.2).Ordered)
    (values : ∀ entry ∈ above, entry.2.Ordered) {below : List (String × Document)}
    (ordered : (mapping below).Ordered) : (mapping (mergeEntries below above)).Ordered := by
  induction above generalizing below with
  | nil =>
    unfold mergeEntries
    exact ordered
  | cons entry rest ih =>
    obtain ⟨key, value⟩ := entry
    unfold mergeEntries
    refine ih (fun entry mem => merged entry (List.mem_cons_of_mem _ mem))
      (fun entry mem => values entry (List.mem_cons_of_mem _ mem)) (ordered_insert ordered ?_)
    cases found : Assoc.lookup key below with
    | none => exact values _ List.mem_cons_self
    | some existing =>
      exact merged _ List.mem_cons_self (ordered.get? (d := mapping below) found)

/-- Merging keeps the order. -/
theorem Ordered.merge {base overlay : Document} (below : base.Ordered) (above : overlay.Ordered) :
    (base.merge overlay).Ordered := by
  -- The induction is on why the overlay is in order, as its values are what is merged again.
  induction above generalizing base with
  | scalar value =>
    rcases merge_cases base (.scalar value) with
      ⟨-, merged⟩ | ⟨_, _, -, impossible, -⟩ | ⟨_, _, -, impossible, -⟩ | merged
    · rwa [merged]
    · cases impossible
    · cases impossible
    · rw [merged]
      exact .scalar value
  | @mapping entries ascending values ih =>
    rcases merge_cases base (.mapping entries) with
      ⟨-, merged⟩ | ⟨_, _, rfl, same, merged⟩ | ⟨_, _, -, impossible, -⟩ | merged
    · rwa [merged]
    · cases same
      rw [merged]
      exact ordered_mergeEntries ih values below
    · cases impossible
    · rw [merged]
      exact .mapping ascending values
  | @sequence items values ih =>
    rcases merge_cases base (.sequence items) with
      ⟨-, merged⟩ | ⟨_, _, -, impossible, -⟩ | ⟨_, _, rfl, same, merged⟩ | merged
    · rwa [merged]
    · cases impossible
    · cases same
      rw [merged, ordered_sequence_iff]
      intro item mem
      rcases List.mem_append.mp mem with mem | mem
      · exact ordered_sequence_iff.mp below item mem
      · exact values item mem
    · rw [merged]
      exact .sequence values

/-- A mapping on top of a mapping makes a mapping. -/
theorem exists_merge_mapping (below above : List (String × Document)) :
    ∃ entries, (mapping below).merge (mapping above) = mapping entries := by
  rcases merge_cases (mapping below) (mapping above) with
    ⟨-, merged⟩ | ⟨_, _, -, -, merged⟩ | ⟨_, _, impossible, -⟩ | merged
  · exact ⟨_, merged⟩
  · exact ⟨_, merged⟩
  · cases impossible
  · exact ⟨_, merged⟩

/-- A layer on top of a layer makes a layer. -/
theorem IsLayer.merge {base overlay : Document} (below : base.IsLayer) (above : overlay.IsLayer) :
    (base.merge overlay).IsLayer := by
  refine ⟨?_, below.ordered.merge above.ordered⟩
  obtain ⟨entries, rfl⟩ := below.mapping
  obtain ⟨entries', rfl⟩ := above.mapping
  exact exists_merge_mapping entries entries'

/-- Layers make a layer. -/
theorem isLayer_fold {layers : List Document} (areLayers : ∀ layer ∈ layers, layer.IsLayer) :
    (fold layers).IsLayer := by
  have onTop {base : Document} (below : base.IsLayer) : (layers.foldl merge base).IsLayer := by
    induction layers generalizing base with
    | nil => exact below
    | cons layer rest ih =>
      exact ih (fun layer mem => areLayers layer (List.mem_cons_of_mem _ mem))
        (below.merge (areLayers layer List.mem_cons_self))
  exact onTop isLayer_empty

end GatewayOperator.Document
