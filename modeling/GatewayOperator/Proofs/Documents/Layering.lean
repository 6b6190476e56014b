import GatewayOperator.Proofs.Documents.Ordering

/-!
# What stands at a path of merged layers

Layers are merged as whole trees.  This module says what becomes of the single value at the end of a
path of keys: it is merged from the values that the layers have there, in their order.

## Main Definitions

* `Document.children` — the entries of a mapping; anything else has none.
* `Document.MapsAlong` — along a path a document has only mappings.
* `Document.mergeAll?` — some values merged from the first to the last.

## Main Statements

* `Document.lookup_mergeEntries`, `Document.lookup_merge` — what stands under a key and at a path of
  two merged documents.
* `Document.merge_mapping` — a mapping on top is always merged key by key.
* `Document.MapsAlong.merge` — merging keeps the mappings along a path.
* `Document.lookup_fold` — the law for any number of layers.
* `Document.fold_nil_at_root` — where there are no layers, the law does not hold of the empty path.

## Design Notes

Merging stops at two equal trees, so below them nothing is merged key by key.  Where they are
mappings it might as well be: they have the same keys, equal values under each key, and merging
equal values gives the lower one.
-/

namespace GatewayOperator.Document

/-- The entries of a mapping; anything else has none. -/
def children (d : Document) : List (String × Document) := d.entries?.getD []

/-- Along a path, whatever stands before its end is a mapping. -/
def MapsAlong (d : Document) (path : List String) : Prop :=
  ∀ start value, start <+: path → start ≠ path → d.lookup start = some value →
    ∃ entries, value = mapping entries

/-- Some values merged from the first to the last, if there are any. -/
def mergeAll? : List Document → Option Document
  | [] => none
  | first :: others => some (others.foldl merge first)

@[simp] theorem lookup_nil (d : Document) : d.lookup [] = some d := rfl

@[simp] theorem lookup_cons (d : Document) (key : String) (path : List String) :
    d.lookup (key :: path) = (d.get? key).bind fun child => child.lookup path := rfl

@[simp] theorem children_mapping (entries : List (String × Document)) :
    (mapping entries).children = entries := rfl

theorem get?_eq_lookup_children (d : Document) (key : String) :
    d.get? key = Assoc.lookup key d.children := by
  cases d <;> rfl

/-! ### Under a key -/

/-- Equal entries have equal values under every key. -/
theorem lookup_of_sameEntries {below above : List (String × Document)}
    (same : sameEntries below above = true) (key : String) :
    (Assoc.lookup key below = none ∧ Assoc.lookup key above = none) ∨
      ∃ u v, Assoc.lookup key below = some u ∧ Assoc.lookup key above = some v ∧
        u.same v = true := by
  induction below generalizing above with
  | nil =>
    cases above with
    | nil => exact Or.inl ⟨rfl, rfl⟩
    | cons => simp [sameEntries] at same
  | cons entry below ih =>
    cases above with
    | nil => simp [sameEntries] at same
    | cons entry' above =>
      obtain ⟨k, u⟩ := entry
      obtain ⟨l, v⟩ := entry'
      simp only [sameEntries, Bool.and_eq_true, decide_eq_true_eq] at same
      obtain ⟨⟨rfl, values⟩, rest⟩ := same
      by_cases here : k = key
      · refine Or.inr ⟨u, v, ?_, ?_, values⟩
        · rw [Assoc.lookup_cons, if_pos here]
        · rw [Assoc.lookup_cons, if_pos here]
      · rw [Assoc.lookup_cons, Assoc.lookup_cons, if_neg here, if_neg here]
        exact ih rest

/-- Under a key, entries on top of others have what the values there are merged to. -/
theorem lookup_mergeEntries {below above : List (String × Document)}
    (ascending : Assoc.Ascending above) (key : String) :
    Assoc.lookup key (mergeEntries below above) =
      Option.merge merge (Assoc.lookup key below) (Assoc.lookup key above) := by
  induction above generalizing below with
  | nil =>
    unfold mergeEntries
    cases Assoc.lookup key below <;> rfl
  | cons entry rest ih =>
    obtain ⟨k, value⟩ := entry
    obtain ⟨first, ascends⟩ := List.pairwise_cons.mp ascending
    unfold mergeEntries
    rw [ih ascends, Assoc.lookup_cons]
    by_cases here : k = key
    · -- The key of the first entry does not come again.
      subst here
      have once : Assoc.lookup k rest = none := Assoc.lookup_eq_none_of_lt first
      rw [once, if_pos rfl, Assoc.lookup_insert_self]
      cases Assoc.lookup k below <;> rfl
    · rw [if_neg here, Assoc.lookup_insert_of_ne (Ne.symm here)]

/-- Laying entries on top of others keeps the order of the keys. -/
theorem ascending_mergeEntries {below above : List (String × Document)}
    (ascending : Assoc.Ascending below) : Assoc.Ascending (mergeEntries below above) := by
  induction above generalizing below with
  | nil =>
    unfold mergeEntries
    exact ascending
  | cons entry rest ih =>
    unfold mergeEntries
    exact ih (Assoc.ascending_insert _ _ ascending)

/-- Equal entries have the same keys, in the same order. -/
theorem keys_of_sameEntries {below above : List (String × Document)}
    (same : sameEntries below above = true) : below.map (·.1) = above.map (·.1) := by
  induction below generalizing above with
  | nil =>
    cases above with
    | nil => rfl
    | cons => simp [sameEntries] at same
  | cons entry below ih =>
    cases above with
    | nil => simp [sameEntries] at same
    | cons entry' above =>
      simp only [sameEntries, Bool.and_eq_true, decide_eq_true_eq] at same
      rw [List.map_cons, List.map_cons, same.1.1, ih same.2]

theorem ascending_of_sameEntries {below above : List (String × Document)}
    (same : sameEntries below above = true) (ascending : Assoc.Ascending above) :
    Assoc.Ascending below := by
  unfold Assoc.Ascending at ascending ⊢
  rw [← List.pairwise_map (R := (· < ·))] at ascending ⊢
  rwa [keys_of_sameEntries same]

/-- Equal entries on top of others change nothing. -/
theorem mergeEntries_of_same {below above : List (String × Document)}
    (same : sameEntries below above = true) (ascending : Assoc.Ascending above) :
    mergeEntries below above = below := by
  have inOrder := ascending_of_sameEntries same ascending
  refine Assoc.eq_of_lookup (ascending_mergeEntries inOrder) inOrder fun key => ?_
  rw [lookup_mergeEntries ascending]
  rcases lookup_of_sameEntries same key with ⟨absent, absent'⟩ | ⟨u, v, found, found', values⟩
  · rw [absent, absent', Option.merge_none_left]
  · rw [found, found', Option.merge_some_some, merge_of_same values]

theorem mergeEntries_nil {above : List (String × Document)} (ascending : Assoc.Ascending above) :
    mergeEntries [] above = above := by
  refine Assoc.eq_of_lookup (ascending_mergeEntries List.Pairwise.nil) ascending fun key => ?_
  rw [lookup_mergeEntries ascending, Assoc.lookup_nil, Option.merge_none_left]

/-- A mapping on top is always merged key by key, be it equal to what is below or not; where that is
no mapping, there is nothing to merge with. -/
theorem merge_mapping (base : Document) {above : List (String × Document)}
    (ascending : Assoc.Ascending above) :
    base.merge (mapping above) = mapping (mergeEntries base.children above) := by
  cases base with
  | scalar value =>
    show mapping above = mapping (mergeEntries [] above)
    rw [mergeEntries_nil ascending]
  | sequence items =>
    show mapping above = mapping (mergeEntries [] above)
    rw [mergeEntries_nil ascending]
  | mapping below =>
    by_cases same : (mapping below).same (mapping above) = true
    · rw [merge_of_same same, children_mapping]
      unfold Document.same at same
      rw [mergeEntries_of_same same ascending]
    · rw [merge_mapping_of_not_same same, children_mapping]

/-- Under a key, a mapping on top of a mapping has what the values there are merged to. -/
theorem get?_merge_mapping {below above : List (String × Document)}
    (ascending : Assoc.Ascending above) (key : String) :
    ((mapping below).merge (mapping above)).get? key =
      Option.merge merge ((mapping below).get? key) ((mapping above).get? key) := by
  rw [merge_mapping _ ascending]
  exact lookup_mergeEntries ascending key

/-! ### At a path -/

@[simp] theorem mapsAlong_nil (d : Document) : d.MapsAlong [] := by
  intro start value isStart proper _
  exact absurd (List.prefix_nil.mp isStart) proper

/-- Along a path a document has only mappings if it is one, and what stands under the first key has
only mappings along the rest of the path. -/
theorem mapsAlong_cons_iff {d : Document} {key : String} {path : List String} :
    d.MapsAlong (key :: path) ↔
      (∃ entries, d = mapping entries) ∧
        ∀ value, d.get? key = some value → value.MapsAlong path := by
  constructor
  · intro maps
    refine ⟨maps [] d List.nil_prefix (List.cons_ne_nil key path).symm rfl, ?_⟩
    intro value found start part isStart proper there
    refine maps (key :: start) part (List.prefix_cons_inj key |>.mpr isStart) ?_ ?_
    · intro same
      exact proper (List.cons.inj same).2
    · rw [lookup_cons, found]
      exact there
  · rintro ⟨root, children⟩ start part isStart proper there
    cases start with
    | nil =>
      cases there
      exact root
    | cons first start =>
      obtain ⟨rfl, further⟩ := List.cons_prefix_cons.mp isStart
      obtain ⟨value, found, there⟩ := Option.bind_eq_some_iff.mp there
      refine children value found start part further ?_ there
      rintro rfl
      exact proper rfl

/-- What holds along a path holds along its starts. -/
theorem MapsAlong.of_isPrefix {d : Document} {start path : List String} (maps : d.MapsAlong path)
    (isStart : start <+: path) : d.MapsAlong start := by
  intro before value isBefore proper there
  refine maps before value (isBefore.trans isStart) ?_ there
  rintro rfl
  exact proper (isBefore.eq_of_length_le isStart.length_le)

/-- **At a path**, a document on top of another one has what the values there are merged to. -/
theorem lookup_merge {base overlay : Document} {path : List String}
    (below : base.MapsAlong path) (above : overlay.MapsAlong path) (ordered : overlay.Ordered) :
    (base.merge overlay).lookup path =
      Option.merge merge (base.lookup path) (overlay.lookup path) := by
  induction path generalizing base overlay with
  | nil => rfl
  | cons key path ih =>
    obtain ⟨⟨entries, rfl⟩, below⟩ := mapsAlong_cons_iff.mp below
    obtain ⟨⟨entries', rfl⟩, above⟩ := mapsAlong_cons_iff.mp above
    rw [lookup_cons, lookup_cons, lookup_cons,
      get?_merge_mapping (ordered_mapping_iff.mp ordered).1 key]
    cases found : (mapping entries).get? key with
    | none => simp
    | some u =>
      cases found' : (mapping entries').get? key with
      | none => simp
      | some v => exact ih (below u found) (above v found') (ordered.get? found')

/-- Merging keeps the mappings along a path. -/
theorem MapsAlong.merge {base overlay : Document} {path : List String}
    (below : base.MapsAlong path) (above : overlay.MapsAlong path) (ordered : overlay.Ordered) :
    (base.merge overlay).MapsAlong path := by
  intro start value isStart proper there
  rw [lookup_merge (below.of_isPrefix isStart) (above.of_isPrefix isStart) ordered] at there
  cases found : base.lookup start with
  | none =>
    rw [found, Option.merge_none_left] at there
    exact above start value isStart proper there
  | some u =>
    cases found' : overlay.lookup start with
    | none =>
      rw [found, found', Option.merge_none_right] at there
      exact below start value isStart proper (found.trans there)
    | some v =>
      -- Two mappings are merged to a mapping.
      obtain ⟨entries, rfl⟩ := below start u isStart proper found
      obtain ⟨entries', rfl⟩ := above start v isStart proper found'
      rw [found, found'] at there
      cases there
      exact exists_merge_mapping entries entries'

/-! ### Any number of layers -/

/-- At a path, layers on top of a document have what the values there are merged to, from the lowest
to the highest. -/
theorem lookup_foldl {base : Document} {layers : List Document} {path : List String}
    (below : base.MapsAlong path) (above : ∀ layer ∈ layers, layer.MapsAlong path)
    (ordered : ∀ layer ∈ layers, layer.Ordered) :
    (layers.foldl merge base).lookup path =
      mergeAll? ((base :: layers).filterMap fun layer => layer.lookup path) := by
  induction layers generalizing base with
  | nil => cases found : base.lookup path <;> simp [found, mergeAll?]
  | cons layer rest ih =>
    have maps := above layer List.mem_cons_self
    have inOrder := ordered layer List.mem_cons_self
    rw [List.foldl_cons, ih (below.merge maps inOrder)
      (fun layer mem => above layer (List.mem_cons_of_mem _ mem))
      (fun layer mem => ordered layer (List.mem_cons_of_mem _ mem)),
      List.filterMap_cons, lookup_merge below maps inOrder, List.filterMap_cons,
      List.filterMap_cons]
    cases base.lookup path <;> cases layer.lookup path <;> rfl

/-- A layer on top of nothing is the layer. -/
theorem empty_merge {layer : Document} (isLayer : layer.IsLayer) : empty.merge layer = layer := by
  obtain ⟨⟨entries, rfl⟩, ordered⟩ := isLayer
  have ascending := (ordered_mapping_iff.mp ordered).1
  rw [merge_mapping _ ascending]
  exact congrArg mapping (mergeEntries_nil ascending)

theorem same_scalar_self (value : Scalar) : (scalar value).same (scalar value) = true := by
  unfold Document.same
  cases value with
  | number n => cases n <;> simp [Scalar.same, Number.same, Binary64.same_self]
  | _ => simp [Scalar.same]

/-- A scalar on top of anything is what is left, up to equality. -/
theorem same_merge_scalar (base : Document) (value : Scalar) :
    (base.merge (scalar value)).same (scalar value) = true := by
  rcases merge_cases base (scalar value) with
    ⟨same, merged⟩ | ⟨_, _, -, impossible, -⟩ | ⟨_, _, -, impossible, -⟩ | merged
  · rwa [merged]
  · cases impossible
  · cases impossible
  · rw [merged]
    exact same_scalar_self value

/-- There is a result if there is a value. -/
theorem exists_mergeAll?_iff {values : List Document} :
    (∃ value, mergeAll? values = some value) ↔ ∃ value, value ∈ values := by
  cases values with
  | nil => simp [mergeAll?]
  | cons first others => exact ⟨fun _ => ⟨first, List.mem_cons_self⟩, fun _ => ⟨_, rfl⟩⟩

/-- Where the last of some values is a scalar, they are merged to it, up to equality. -/
theorem same_mergeAll? {values : List Document} {value : Scalar}
    (last : values.getLast? = some (scalar value)) :
    ∃ found, mergeAll? values = some found ∧ found.same (scalar value) = true := by
  obtain ⟨others, rfl⟩ := List.getLast?_eq_some_iff.mp last
  cases others with
  | nil => exact ⟨scalar value, rfl, same_scalar_self value⟩
  | cons first others =>
    refine ⟨_, rfl, ?_⟩
    show (List.foldl merge first (others ++ [scalar value])).same (scalar value) = true
    rw [List.foldl_append]
    exact same_merge_scalar _ value

/-- **The law of layers.**  Where every layer has only mappings along a path, the merged layers have
at its end what the values that the layers have there are merged to, from the first to the last.  So
there is a value exactly if some layer has one, and a scalar of the last of these layers wins, up to
equality.  Only the empty path of no layers at all is left out. -/
theorem lookup_fold {layers : List Document} {path : List String}
    (areLayers : ∀ layer ∈ layers, layer.IsLayer) (maps : ∀ layer ∈ layers, layer.MapsAlong path)
    (present : layers ≠ [] ∨ path ≠ []) :
    (fold layers).lookup path = mergeAll? (layers.filterMap fun layer => layer.lookup path) ∧
    ((∃ value, (fold layers).lookup path = some value) ↔
      ∃ layer ∈ layers, ∃ value, layer.lookup path = some value) ∧
    ∀ value, (layers.filterMap fun layer => layer.lookup path).getLast? = some (scalar value) →
      ∃ found, (fold layers).lookup path = some found ∧ found.same (scalar value) = true := by
  have law : (fold layers).lookup path =
      mergeAll? (layers.filterMap fun layer => layer.lookup path) := by
    cases layers with
    | nil =>
      cases path with
      | nil => simp at present
      | cons key path => rfl
    | cons layer rest =>
      unfold fold
      rw [List.foldl_cons, empty_merge (areLayers layer List.mem_cons_self)]
      exact lookup_foldl (maps layer List.mem_cons_self)
        (fun layer mem => maps layer (List.mem_cons_of_mem _ mem))
        (fun layer mem => (areLayers layer (List.mem_cons_of_mem _ mem)).ordered)
  rw [law]
  refine ⟨rfl, ?_, fun value => same_mergeAll?⟩
  rw [exists_mergeAll?_iff]
  simp only [List.mem_filterMap]
  exact ⟨fun ⟨value, layer, mem, found⟩ => ⟨layer, mem, value, found⟩,
    fun ⟨layer, mem, value, found⟩ => ⟨value, layer, mem, found⟩⟩

/-- A server with a port and without encryption, something else, and encryption for the server. -/
def sampleLayers : List Document :=
  [mapping [("server", mapping
      [("port", scalar (.number (.int 80))), ("tls", mapping [("on", scalar (.bool false))])])],
    mapping [("name", text "edge")],
    mapping [("server", mapping [("tls", mapping [("on", scalar (.bool true))])])]]

/-- Of the sample layers the last one decides on encryption. -/
theorem sampleLayers_encrypt :
    (∀ layer ∈ sampleLayers, layer.IsLayer) ∧
    (∀ layer ∈ sampleLayers, layer.MapsAlong ["server", "tls", "on"]) ∧ sampleLayers ≠ [] ∧
    (sampleLayers.filterMap fun layer => layer.lookup ["server", "tls", "on"]).getLast? =
      some (scalar (.bool true)) ∧
    ∃ found, (fold sampleLayers).lookup ["server", "tls", "on"] = some found ∧
      found.same (scalar (.bool true)) = true := by
  have areLayers : ∀ layer ∈ sampleLayers, layer.IsLayer := by
    have single (key : String) (value : Document) : Assoc.Ascending [(key, value)] :=
      List.pairwise_singleton _ _
    have server : Assoc.Ascending [("port", scalar (.number (.int 80))),
        ("tls", mapping [("on", scalar (.bool false))])] := by decide +kernel
    intro layer mem
    simp only [sampleLayers, List.mem_cons, List.not_mem_nil, or_false] at mem
    rcases mem with rfl | rfl | rfl
    · exact ⟨⟨_, rfl⟩, by simp [single, server]⟩
    · exact ⟨⟨_, rfl⟩, by simp [single, text]⟩
    · exact ⟨⟨_, rfl⟩, by simp [single]⟩
  have maps : ∀ layer ∈ sampleLayers, layer.MapsAlong ["server", "tls", "on"] := by
    simp [sampleLayers, mapsAlong_cons_iff, get?, Assoc.lookup]
  have last : (sampleLayers.filterMap fun layer => layer.lookup ["server", "tls", "on"]).getLast? =
      some (scalar (.bool true)) := rfl
  have present : sampleLayers ≠ [] := List.cons_ne_nil _ _
  exact ⟨areLayers, maps, present, last,
    (lookup_fold areLayers maps (Or.inl present)).2.2 (.bool true) last⟩

/-- No layers at all make the empty mapping, which stands at the empty path although no layer has
anything there. -/
theorem fold_nil_at_root :
    ¬∀ (layers : List Document) (path : List String),
      (∀ layer ∈ layers, layer.IsLayer ∧ layer.MapsAlong path) →
        ((∃ value, (fold layers).lookup path = some value) ↔
          ∃ layer ∈ layers, ∃ value, layer.lookup path = some value) := by
  intro law
  have invented : ∃ value, (fold []).lookup [] = some value := ⟨empty, rfl⟩
  obtain ⟨layer, impossible, -⟩ := (law [] [] fun _ mem => by cases mem).mp invented
  cases impossible

end GatewayOperator.Document
