import GatewayOperator.Proofs.Documents.Layering

/-!
# Merging rule by rule

Merging compares two whole trees first and leaves them as they are where they are equal.  This
module says that the comparison makes no difference: the result is the one of the rules for
mappings, sequences and scalars alone.

## Main Definitions

* `Document.mergeByRules` — two documents merged by the rules, with comparisons of sequences and
  scalars only.

## Main Statements

* `Document.merge_eq_mergeByRules` — merging is merging by the rules.

## Design Notes

Equality is not structural, as the two zeros are equal, so equal mappings may differ below.  They
have the same keys, though, and under each key the rules keep the lower one of two equal values.
Only the overlay has to be in order: a base that equals it is in order with it.
-/

namespace GatewayOperator.Document

/-! ### Rules -/

mutual

/-- The document `base` with the document `overlay` on top, by the rules: mappings are merged key by
key, a sequence is put behind one that it does not equal, a scalar takes the place of one that it
does not equal, and of two documents that are not alike the upper one is left. -/
def mergeByRules (base overlay : Document) : Document :=
  match base, overlay with
  | .mapping below, .mapping above => .mapping (mergeEntriesByRules below above)
  | .sequence below, .sequence above =>
    if sameItems below above then .sequence below else .sequence (below ++ above)
  | .scalar below, .scalar above => if below.same above then .scalar below else .scalar above
  | _, overlay => overlay
termination_by structural overlay

/-- The entries `below` with the entries `above` on top, by the rules. -/
def mergeEntriesByRules (below above : List (String × Document)) : List (String × Document) :=
  match above with
  | [] => below
  | (key, value) :: rest =>
    let merged := match Assoc.lookup key below with
      | some existing => mergeByRules existing value
      | none => value
    mergeEntriesByRules (Assoc.insert key merged below) rest
termination_by structural above

end

/-- Entries are merged by the rules if their values are. -/
theorem mergeEntries_eq_mergeEntriesByRules {above : List (String × Document)}
    (values : ∀ entry ∈ above, ∀ base : Document,
      base.merge entry.2 = base.mergeByRules entry.2) (below : List (String × Document)) :
    mergeEntries below above = mergeEntriesByRules below above := by
  induction above generalizing below with
  | nil =>
    unfold mergeEntries mergeEntriesByRules
    rfl
  | cons entry rest ih =>
    obtain ⟨key, value⟩ := entry
    have first (existing : Document) : existing.merge value = existing.mergeByRules value :=
      values (key, value) List.mem_cons_self existing
    unfold mergeEntries mergeEntriesByRules
    simp only [first]
    exact ih (fun entry mem => values entry (List.mem_cons_of_mem _ mem)) _

theorem merge_scalar_eq (base : Document) (value : Scalar) :
    base.merge (scalar value) = base.mergeByRules (scalar value) := by
  cases base with
  | scalar below =>
    unfold Document.merge mergeByRules Document.same
    rfl
  | mapping below => rfl
  | sequence below => rfl

theorem merge_sequence_eq (base : Document) (items : List Document) :
    base.merge (sequence items) = base.mergeByRules (sequence items) := by
  cases base with
  | scalar value => rfl
  | mapping below => rfl
  | sequence below =>
    unfold Document.merge mergeByRules Document.same
    rfl

/-- **Merging is merging by the rules**, although it leaves two trees as they are where they are
equal. -/
theorem merge_eq_mergeByRules {overlay : Document} (ordered : overlay.Ordered) (base : Document) :
    base.merge overlay = base.mergeByRules overlay := by
  -- The induction is on why the overlay is in order; the base changes from key to key.
  induction ordered generalizing base with
  | scalar value => exact merge_scalar_eq base value
  | sequence values ih => exact merge_sequence_eq base _
  | @mapping above ascending values ih =>
    cases base with
    | scalar value => rfl
    | sequence items => rfl
    | mapping below =>
      rw [merge_mapping _ ascending, children_mapping, mergeEntries_eq_mergeEntriesByRules ih]
      unfold mergeByRules
      rfl

/-- Limits with a rate of zero, of either sign. -/
def zeroRate (negative : Bool) : Document :=
  mapping [("rate", scalar (.number (.float (.finite negative 0 Binary64.leastExponent))))]

/-- Where two trees are equal although they differ, the lower one is left; beside them items are put
behind each other and an encryption that is turned off gives way to one with settings. -/
theorem zeroRate_kept :
    let base := mapping [("hosts", sequence [text "a"]), ("limits", zeroRate true),
      ("tls", text "off")]
    let overlay := mapping [("hosts", sequence [text "b"]), ("limits", zeroRate false),
      ("tls", mapping [("verify", scalar (.bool true))])]
    (zeroRate true).same (zeroRate false) = true ∧ overlay.Ordered ∧
      base.merge overlay = base.mergeByRules overlay ∧
      base.merge overlay = mapping [("hosts", sequence [text "a", text "b"]),
        ("limits", zeroRate true), ("tls", mapping [("verify", scalar (.bool true))])] := by
  intro base overlay
  have single (key : String) (value : Document) : Assoc.Ascending [(key, value)] :=
    List.pairwise_singleton _ _
  have ascending : Assoc.Ascending [("hosts", sequence [text "b"]), ("limits", zeroRate false),
      ("tls", mapping [("verify", scalar (.bool true))])] := by decide +kernel
  have ordered : overlay.Ordered :=
    ordered_mapping_iff.mpr ⟨ascending, by simp [zeroRate, single, text]⟩
  have merged := merge_eq_mergeByRules ordered base
  refine ⟨rfl, ordered, merged, ?_⟩
  rw [merged]
  rfl

end GatewayOperator.Document
