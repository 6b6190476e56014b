import GatewayOperator.Proofs.Documents.Paths
import GatewayOperator.Registration

/-!
# The identity section of a document

A registered client is entered into the identity section of a document.  Where there is such a
section it is filled in place, and otherwise it comes with a layer of its own.  This module says
that both ways lead to the same document, and what stands in it.

## Main Definitions

* `Document.child` — what stands under a key, or the empty mapping.
* `Registration.entered` — the document with the entries of a client in its identity section.
* `Registration.PointsAt` — a document says of a client what the registration tells, and is
  otherwise as it was before.

## Main Statements

* `Document.merge_under` — a layer with one key is merged under this key only.
* `Registration.applyTo_eq_entered` — what becomes of the document, whatever stands in it.
* `Registration.applyTo_pointsAt` — both ways are merging the layer, which changes nothing but the
  entries of the client, and nothing at all when it is done again.

## Design Notes

The values of the section are texts.  A text on top of an equal one is the same text, so it makes no
difference that an insertion replaces values and merging keeps equal ones; and as no value is a
sequence, merging the layer again doubles nothing.
-/

namespace GatewayOperator

namespace Document

/-! ### One key -/

/-- What stands under a key, or the empty mapping. -/
def child (d : Document) (key : String) : Document := (d.get? key).getD empty

@[simp] theorem child_put_self (d : Document) (key : String) (value : Document) :
    (d.put key value).child key = value := by
  unfold child
  rw [get?_put_self, Option.getD_some]

theorem child_of_get? {d value : Document} {key : String} (found : d.get? key = some value) :
    d.child key = value := by
  unfold child
  rw [found, Option.getD_some]

/-- Under a key of a child stands what is found along both keys. -/
theorem get?_child (d : Document) (key other : String) :
    (d.child key).get? other = (d.get? key).bind fun child => child.get? other := by
  unfold child
  cases d.get? key <;> rfl

/-- A layer with one key, under which there is a mapping, is merged under this key only. -/
theorem merge_under (d : Document) (key : String) {above : List (String × Document)}
    (ascending : Assoc.Ascending above) :
    d.merge (mapping [(key, mapping above)]) = d.put key ((d.child key).merge (mapping above)) := by
  rw [merge_mapping d (List.pairwise_singleton _ _)]
  unfold mergeEntries mergeEntries put child
  rw [get?_eq_lookup_children]
  cases Assoc.lookup key d.children with
  | some existing => rfl
  | none =>
    have onEmpty : empty.merge (mapping above) = mapping above := by
      rw [merge_mapping empty ascending]
      exact congrArg mapping (mergeEntries_nil ascending)
    show mapping (Assoc.insert key (mapping above) d.children) =
      mapping (Assoc.insert key (empty.merge (mapping above)) d.children)
    rw [onEmpty]

/-! ### Texts -/

/-- A text on top of anything is what is left. -/
theorem merge_text (base : Document) (s : String) : base.merge (text s) = text s := by
  rcases merge_cases base (text s) with
    ⟨same, merged⟩ | ⟨_, _, -, impossible, -⟩ | ⟨_, _, -, impossible, -⟩ | merged
  · rw [merged]
    cases base with
    | scalar value =>
      unfold text Document.same at same
      cases value <;> simp_all [Scalar.same, text]
    | mapping => cases same
    | sequence => cases same
  · cases impossible
  · cases impossible
  · exact merged

/-- Texts on top of other entries take their places. -/
theorem mergeEntries_texts {above : List (String × Document)}
    (texts : ∀ entry ∈ above, ∃ s, entry.2 = text s) (below : List (String × Document)) :
    mergeEntries below above = Assoc.insertAll above below := by
  induction above generalizing below with
  | nil =>
    unfold mergeEntries
    rfl
  | cons entry rest ih =>
    obtain ⟨key, value⟩ := entry
    obtain ⟨s, same⟩ := texts (key, value) List.mem_cons_self
    dsimp only at same
    subst same
    have others := ih fun entry mem => texts entry (List.mem_cons_of_mem _ mem)
    unfold mergeEntries
    cases Assoc.lookup key below with
    | none => exact others _
    | some existing =>
      show mergeEntries (Assoc.insert key (existing.merge (text s)) below) rest = _
      rw [merge_text]
      exact others _

end Document

namespace Registration

open Document

variable (r : Registration)

/-! ### The entries of the client -/

/-- The document with the entries of the client in its identity section, beside what is there. -/
def entered (d : Document) : Document :=
  let identity := d.child "identity"
  let section_ := mapping (Assoc.insertAll r.identityEntries (identity.child "oidc").children)
  d.put "identity" (identity.put "oidc" section_)

/-- The entries of the client in the order of their keys. -/
theorem ofList_identityEntries : Assoc.ofList r.identityEntries =
    [(clientIdKey, text (r.reference clientIdKey)),
      (clientSecretKey, text (r.reference clientSecretKey)),
      ("discovery_endpoint", text r.discoveryEndpoint)] := by
  have first : clientIdKey < "discovery_endpoint" := by decide +kernel
  have second : clientSecretKey < "discovery_endpoint" := by decide +kernel
  have third : ¬clientSecretKey < clientIdKey := by decide +kernel
  have different : clientSecretKey ≠ clientIdKey := by decide +kernel
  simp only [Assoc.ofList, Assoc.insertAll, identityEntries, List.foldl_cons, List.foldl_nil,
    Assoc.insert, if_pos first, if_pos second, if_neg third, if_neg different]

theorem distinct_identityEntries : r.identityEntries.Pairwise fun a b => a.1 ≠ b.1 := by
  simp [identityEntries, clientIdKey, clientSecretKey]

/-- The layer of the client on top of a section leaves its entries beside those of the section. -/
theorem merge_identityEntries (section_ : Document) :
    section_.merge (mapping (Assoc.ofList r.identityEntries)) =
      mapping (Assoc.insertAll r.identityEntries section_.children) := by
  have texts : ∀ entry ∈ Assoc.ofList r.identityEntries, ∃ s, entry.2 = text s := by
    rw [ofList_identityEntries]
    simp [text]
  -- The layer has the address of the provider last, the entries of the client have it first.
  have moved : Assoc.insertAll (Assoc.ofList r.identityEntries) section_.children =
      Assoc.insertAll r.identityEntries section_.children := by
    obtain ⟨first, -⟩ := List.pairwise_cons.mp r.distinct_identityEntries
    rw [ofList_identityEntries]
    exact (Assoc.insertAll_insert (fun entry mem => (first entry mem).symm)
      (text r.discoveryEndpoint) section_.children).symm
  rw [merge_mapping section_ (Assoc.ascending_ofList _), mergeEntries_texts texts, moved]

/-- The layer of the client on top of a document leaves its entries in the identity section. -/
theorem merge_identityLayer (d : Document) : d.merge r.identityLayer = r.entered d := by
  unfold identityLayer
  rw [merge_under d "identity" (List.pairwise_singleton _ _),
    merge_under (d.child "identity") "oidc" (Assoc.ascending_ofList _), merge_identityEntries]
  rfl

/-- Whatever stands in a document, the entries of the client are entered into it. -/
theorem applyTo_eq_entered (d : Document) : r.applyTo d = r.entered d := by
  unfold applyTo
  split
  · next entries found =>
    obtain ⟨identity, foundIdentity, found⟩ := Option.bind_eq_some_iff.mp found
    obtain ⟨section_, foundSection, same⟩ := Option.bind_eq_some_iff.mp found
    cases same
    simp only [identityPath, replaceAt_cons, replaceAt_nil, foundIdentity, foundSection,
      Option.bind_some, Option.map_some, Option.getD_some, entered, child_of_get? foundIdentity,
      child_of_get? foundSection, children_mapping]
  · exact r.merge_identityLayer d

/-! ### What becomes of a document -/

/-- The document `after` says of the client what the registration tells, and is otherwise as the
document `before` was. -/
structure PointsAt (before after : Document) : Prop where
  /-- The provider describes itself at the address of the registration. -/
  endpoint : after.lookup ["identity", "oidc", "discovery_endpoint"] =
    some (text r.discoveryEndpoint)
  /-- The name of the client stands in the secret. -/
  clientId : after.lookup ["identity", "oidc", "client_id"] =
    some (text ("secret:" ++ r.secretName ++ "/client_id"))
  /-- The password of the client stands there, too. -/
  clientSecret : after.lookup ["identity", "oidc", "client_secret"] =
    some (text ("secret:" ++ r.secretName ++ "/client_secret"))
  /-- Outside of the identity nothing changes. -/
  outside : ∀ key path, key ≠ "identity" →
    after.lookup (key :: path) = before.lookup (key :: path)
  /-- Neither does anything of the identity outside of its section. -/
  beside : ∀ key path, key ≠ "oidc" →
    after.lookup ("identity" :: key :: path) = before.lookup ("identity" :: key :: path)
  /-- Nor any other entry of the section. -/
  others : ∀ key path, key ∉ ["discovery_endpoint", "client_id", "client_secret"] →
    after.lookup ("identity" :: "oidc" :: key :: path) =
      before.lookup ("identity" :: "oidc" :: key :: path)

/-- What stands in the identity section after the entries of the client were entered. -/
theorem lookup_entered (d : Document) (key : String) :
    (r.entered d).lookup ["identity", "oidc", key] =
      (Assoc.lookup key r.identityEntries.reverse).or (d.lookup ["identity", "oidc", key]) := by
  have section_ (entries : List (String × Document)) :
      (mapping entries).get? key = Assoc.lookup key entries := rfl
  simp only [entered, lookup_cons, get?_put_self, Option.bind_some, section_, lookup_nil,
    Option.bind_fun_some, Assoc.lookup_insertAll, ← get?_eq_lookup_children, get?_child,
    Option.bind_assoc]

theorem pointsAt_entered (d : Document) : r.PointsAt d (r.entered d) := by
  constructor
  · rw [lookup_entered]
    simp [identityEntries, Assoc.lookup, clientIdKey, clientSecretKey]
  · rw [lookup_entered]
    simp [identityEntries, Assoc.lookup, clientIdKey, clientSecretKey, reference,
      String.append_assoc]
  · rw [lookup_entered]
    simp [identityEntries, Assoc.lookup, clientSecretKey, reference, String.append_assoc]
  · intro key path different
    unfold entered
    rw [lookup_cons, get?_put_of_ne different, lookup_cons]
  · intro key path different
    unfold entered
    simp only [lookup_cons, get?_put_self, Option.bind_some]
    rw [get?_put_of_ne different, get?_child, Option.bind_assoc]
  · intro key path other
    have absent : Assoc.lookup key r.identityEntries.reverse = none := by
      refine Assoc.lookup_eq_none_iff.mpr fun entry mem same => other ?_
      rw [List.mem_reverse] at mem
      rw [← same]
      exact List.mem_map_of_mem (f := (·.1)) mem
    have split_ : "identity" :: "oidc" :: key :: path = ["identity", "oidc", key] ++ path := rfl
    rw [split_, lookup_append, lookup_entered, absent, Option.none_or, lookup_append]

theorem entered_entered (d : Document) : r.entered (r.entered d) = r.entered d := by
  unfold entered
  simp only [child_put_self, put_put_self, children_mapping,
    Assoc.insertAll_insertAll_self r.distinct_identityEntries]

/-- **Filling the identity section in place is merging its layer**, for documents of any shape.
Afterwards the section points at the client, everything else is as it was, and doing it again
changes nothing. -/
theorem applyTo_pointsAt (d : Document) :
    r.applyTo d = d.merge r.identityLayer ∧ r.PointsAt d (r.applyTo d) ∧
      r.applyTo (r.applyTo d) = r.applyTo d := by
  simp only [applyTo_eq_entered, merge_identityLayer, entered_entered, pointsAt_entered, and_self]

end Registration

end GatewayOperator
