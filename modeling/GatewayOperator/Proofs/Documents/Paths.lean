import GatewayOperator.Proofs.Documents.Layering

/-!
# Reading and writing at a path

A path of keys leads to a part of a document, which can be read and written.  This module says that
reading and writing fit together: they reach the same parts, a part that was written is what is read
there, and nothing else is changed.

## Main Definitions

* `Document.put` — a mapping with a value under a key, made of a document of any shape.
* `Document.Lacks`, `Document.BreaksOff` — where a path does not lead on, and that it comes to such
  a part.
* `Document.Slot`, `Document.slotAt?` — a part that is changed in its place, and how it is reached.
* `Document.WrittenAt` — a document is another one with a value at the end of a path.

## Main Statements

* `Document.lookup_append` — two paths in turn.
* `Document.lookup_eq_none_iff` — nothing is found exactly where the path breaks off.
* `Document.foldlM_enter` — changing a part in its place is replacing it in the whole.
* `Document.WrittenAt.put`, `Document.writtenAt_of_replaceAt` — one key, and any path.
* `Document.path_access_lawful` — the laws of reading and writing.

## Design Notes

Reading and replacing go down a path from its first key, and replacing builds the document again on
the way back.  Whoever changes a part in its place goes down the same path with what is around the
part instead, so that is what the induction is about: it starts anywhere, not at the root.

Only one law needs the keys of the document in order: that writing a part where it was read changes
nothing.
-/

namespace GatewayOperator.Document

variable {d child child' part value value' after before : Document} {key other : String}
  {path : List String}

/-! ### One key -/

/-- The mapping with a value under a key beside the entries of a document; a document that is no
mapping has none. -/
def put (d : Document) (key : String) (value : Document) : Document :=
  mapping (Assoc.insert key value d.children)

@[simp] theorem get?_put_self (d : Document) (key : String) (value : Document) :
    (d.put key value).get? key = some value :=
  Assoc.lookup_insert_self key value d.children

theorem get?_put_of_ne (different : other ≠ key) (d value : Document) :
    (d.put key value).get? other = d.get? other := by
  rw [get?_eq_lookup_children d]
  exact Assoc.lookup_insert_of_ne different value d.children

@[simp] theorem put_put_self (d : Document) (key : String) (value value' : Document) :
    (d.put key value').put key value = d.put key value :=
  congrArg mapping (Assoc.insert_insert_self key value value' d.children)

/-- A value that is put where it stands changes nothing. -/
theorem put_of_get? (ordered : d.Ordered) (found : d.get? key = some value) :
    d.put key value = d := by
  cases d with
  | scalar => cases found
  | sequence => cases found
  | mapping entries =>
    have ascending := (ordered_mapping_iff.mp ordered).1
    exact congrArg mapping (Assoc.insert_of_lookup ascending found)

theorem Ordered.put (ordered : d.Ordered) (key : String) (orderedValue : value.Ordered) :
    (d.put key value).Ordered := by
  cases d with
  | scalar => exact ordered_insert isLayer_empty.ordered orderedValue
  | sequence => exact ordered_insert isLayer_empty.ordered orderedValue
  | mapping entries => exact ordered_insert ordered orderedValue

/-- Under a key, nothing stands in a document. -/
inductive Lacks : Document → String → Prop where
  /-- A scalar has nothing under any key. -/
  | scalar (value : Scalar) (key : String) : Lacks (.scalar value) key
  /-- Neither has a sequence. -/
  | sequence (items : List Document) (key : String) : Lacks (.sequence items) key
  /-- A mapping has nothing under a key that is not among its keys. -/
  | mapping {entries : List (String × Document)} {key : String}
      (absent : ∀ entry ∈ entries, entry.1 ≠ key) : Lacks (.mapping entries) key

theorem get?_eq_none_iff : d.get? key = none ↔ d.Lacks key := by
  constructor
  · intro missing
    cases d with
    | scalar value => exact .scalar value key
    | sequence items => exact .sequence items key
    | mapping entries => exact .mapping (Assoc.lookup_eq_none_iff.mp missing)
  · rintro (_ | _ | absent)
    · rfl
    · rfl
    · exact Assoc.lookup_eq_none_iff.mpr absent

/-! ### Reading -/

/-- Along two paths in turn stands what stands along the second one in what stands along the first
one. -/
theorem lookup_append (d : Document) (path path' : List String) :
    d.lookup (path ++ path') = (d.lookup path).bind fun part => part.lookup path' := by
  induction path generalizing d with
  | nil => rfl
  | cons key path ih =>
    rw [List.cons_append, lookup_cons, lookup_cons, Option.bind_assoc]
    exact Option.bind_congr fun child _ => ih child

/-- A path comes to a part that lacks the next key. -/
def BreaksOff (d : Document) (path : List String) : Prop :=
  ∃ start key rest part, path = start ++ key :: rest ∧ d.lookup start = some part ∧ part.Lacks key

theorem lookup_eq_none_iff : d.lookup path = none ↔ d.BreaksOff path := by
  constructor
  · intro missing
    induction path generalizing d with
    | nil => cases missing
    | cons key path ih =>
      cases found : d.get? key with
      | none => exact ⟨[], key, path, d, rfl, rfl, get?_eq_none_iff.mp found⟩
      | some child =>
        rw [lookup_cons, found] at missing
        obtain ⟨start, key', rest, part, rfl, there, lacks⟩ := ih missing
        refine ⟨key :: start, key', rest, part, rfl, ?_, lacks⟩
        rw [lookup_cons, found]
        exact there
  · rintro ⟨start, key, rest, part, rfl, there, lacks⟩
    rw [lookup_append, there, Option.bind_some, lookup_cons, get?_eq_none_iff.mpr lacks,
      Option.bind_none]

/-! ### Replacing -/

@[simp] theorem replaceAt_nil (d value : Document) : d.replaceAt value [] = some value := by
  cases d <;> rfl

theorem replaceAt_cons (d value : Document) (key : String) (path : List String) :
    d.replaceAt value (key :: path) =
      (d.get? key).bind fun child => (child.replaceAt value path).map (d.put key) := by
  cases d <;> rfl

/-! ### Changing in place -/

/-- A part of a document that is changed in its place. -/
structure Slot where
  /-- What stands there. -/
  part : Document
  /-- The whole document with something else there. -/
  refill : Document → Document

namespace Slot

/-- The place of a key in the mapping that stands at a place. -/
def enter (slot : Slot) (key : String) : Option Slot :=
  match slot.part with
  | .mapping entries => (Assoc.lookup key entries).map fun child =>
      ⟨child, fun value => slot.refill (.mapping (Assoc.insert key value entries))⟩
  | _ => none

theorem enter_eq (slot : Slot) (key : String) :
    slot.enter key = (slot.part.get? key).map fun child =>
      ⟨child, fun value => slot.refill (slot.part.put key value)⟩ := by
  obtain ⟨part, refill⟩ := slot
  cases part <;> rfl

end Slot

/-- The part at the end of a path, to be changed in its place. -/
def slotAt? (d : Document) (path : List String) : Option Slot :=
  path.foldlM Slot.enter ⟨d, id⟩

/-- From any place, a path leads to the part that is found there, and filling the place of that part
is replacing it in the part one started from. -/
theorem foldlM_enter (slot : Slot) (path : List String) :
    (path.foldlM Slot.enter slot).map Slot.part = slot.part.lookup path ∧
    ∀ value, (path.foldlM Slot.enter slot).map (fun reached => reached.refill value) =
      (slot.part.replaceAt value path).map slot.refill := by
  induction path generalizing slot with
  | nil => simp
  | cons key path ih =>
    rw [List.foldlM_cons, Slot.enter_eq, lookup_cons]
    simp only [replaceAt_cons]
    cases slot.part.get? key with
    | none => simp
    | some child =>
      obtain ⟨reads, writes⟩ := ih ⟨child, fun value => slot.refill (slot.part.put key value)⟩
      refine ⟨reads, fun value => ?_⟩
      simp only [Option.bind_some, Option.map_map]
      exact writes value

/-- What is reached along a path is what is read there. -/
theorem map_part_slotAt? (d : Document) (path : List String) :
    (d.slotAt? path).map Slot.part = d.lookup path :=
  (foldlM_enter ⟨d, id⟩ path).1

/-- Filling the place that is reached along a path is replacing what stands there. -/
theorem map_refill_slotAt? (d value : Document) (path : List String) :
    (d.slotAt? path).map (fun slot => slot.refill value) = d.replaceAt value path :=
  ((foldlM_enter ⟨d, id⟩ path).2 value).trans Option.map_id'

/-! ### What was written -/

/-- The document `after` is the document `before` with a value at the end of a path. -/
structure WrittenAt (before : Document) (path : List String) (value after : Document) : Prop where
  /-- The value stands at the end of the path. -/
  here : after.lookup path = some value
  /-- A longer path leads on inside the value. -/
  inside : ∀ further, after.lookup (path ++ further) = value.lookup further
  /-- Beside the path everything is as it was. -/
  beside : ∀ other, ¬path <+: other → ¬other <+: path → after.lookup other = before.lookup other
  /-- On the way to its end, a part is as it was but for the value. -/
  onTheWay : ∀ start rest, start ++ rest = path →
    after.lookup start = (before.lookup start).bind fun part => part.replaceAt value rest
  /-- What is written there next takes the place of the value. -/
  again : ∀ value', after.replaceAt value' path = before.replaceAt value' path
  /-- The keys stay in order. -/
  ordered : before.Ordered → value.Ordered → after.Ordered

namespace WrittenAt

/-- At the root, a value takes the place of the whole document. -/
theorem root (before value : Document) : WrittenAt before [] value value where
  here := rfl
  inside _ := rfl
  beside _ apart := absurd List.nil_prefix apart
  onTheWay start rest split := by
    obtain ⟨rfl, rfl⟩ := List.append_eq_nil_iff.mp split
    simp
  again value' := by simp
  ordered _ inOrder := inOrder

theorem replaceAt_eq (written : WrittenAt before path value after) :
    before.replaceAt value path = some after :=
  (written.onTheWay [] path rfl).symm

/-- What was written below a key is written in the whole document. -/
theorem put (written : WrittenAt child path value child') (found : before.get? key = some child) :
    WrittenAt before (key :: path) value (before.put key child') where
  here := by
    rw [lookup_cons, get?_put_self]
    exact written.here
  inside further := by
    rw [List.cons_append, lookup_cons, get?_put_self]
    exact written.inside further
  beside other below above := by
    cases other with
    | nil => exact absurd List.nil_prefix above
    | cons first rest =>
      rw [lookup_cons, lookup_cons]
      by_cases same : first = key
      · subst same
        rw [get?_put_self, found]
        refine written.beside rest (fun longer => below ?_) (fun shorter => above ?_)
        · exact List.cons_prefix_cons.mpr ⟨rfl, longer⟩
        · exact List.cons_prefix_cons.mpr ⟨rfl, shorter⟩
      · rw [get?_put_of_ne same]
  onTheWay start rest split := by
    cases start with
    | nil =>
      -- The whole document is the first part on the way.
      cases split
      rw [lookup_nil, lookup_nil, Option.bind_some, replaceAt_cons, found, Option.bind_some,
        written.replaceAt_eq, Option.map_some]
    | cons first start =>
      obtain ⟨rfl, below⟩ := List.cons.inj split
      rw [lookup_cons, lookup_cons, get?_put_self, found]
      exact written.onTheWay start rest below
  again value' := by
    rw [replaceAt_cons, replaceAt_cons, get?_put_self, found, Option.bind_some, Option.bind_some,
      written.again value']
    exact congrArg (Option.map · _) (funext fun part => put_put_self before key part child')
  ordered inOrder inOrderValue :=
    inOrder.put key (written.ordered (inOrder.get? found) inOrderValue)

end WrittenAt

/-- What is replaced at the end of a path was written there. -/
theorem writtenAt_of_replaceAt (written : d.replaceAt value path = some after) :
    WrittenAt d path value after := by
  induction path generalizing d after with
  | nil =>
    cases (replaceAt_nil d value).symm.trans written
    exact .root d value
  | cons key path ih =>
    rw [replaceAt_cons] at written
    obtain ⟨child, found, written⟩ := Option.bind_eq_some_iff.mp written
    obtain ⟨child', below, rfl⟩ := Option.map_eq_some_iff.mp written
    exact (ih below).put found

/-- Writing what stands at the end of a path changes nothing. -/
theorem replaceAt_of_lookup (ordered : d.Ordered) (found : d.lookup path = some part) :
    d.replaceAt part path = some d := by
  induction path generalizing d with
  | nil =>
    cases found
    exact replaceAt_nil _ _
  | cons key path ih =>
    obtain ⟨child, there, found⟩ := Option.bind_eq_some_iff.mp found
    rw [replaceAt_cons, there, Option.bind_some, ih (ordered.get? there) found, Option.map_some,
      put_of_get? ordered there]

/-- **Reading and writing at a path fit together.**  A part is changed in its place exactly where a
part is found, and it is the same part.  Filling its place is replacing it in the whole document,
which is then the document with the value written there; filling the place with what was found
there changes nothing.  Nothing is found exactly if the path comes to a scalar, a sequence or a
mapping without the next key, and then there is nothing to change either. -/
theorem path_access_lawful (d : Document) (path : List String) :
    ((∃ slot, d.slotAt? path = some slot) ↔ ∃ part, d.lookup path = some part) ∧
    (∀ slot, d.slotAt? path = some slot →
      d.lookup path = some slot.part ∧
      (∀ value, d.replaceAt value path = some (slot.refill value) ∧
        WrittenAt d path value (slot.refill value)) ∧
      (d.Ordered → slot.refill slot.part = d)) ∧
    (d.lookup path = none ↔ d.BreaksOff path) ∧
    (d.BreaksOff path → d.slotAt? path = none ∧ ∀ value, d.replaceAt value path = none) := by
  refine ⟨?_, fun slot reached => ?_, lookup_eq_none_iff, fun breaks => ?_⟩
  · rw [← map_part_slotAt?]
    cases d.slotAt? path <;> simp
  · have there : d.lookup path = some slot.part := by
      rw [← map_part_slotAt?, reached, Option.map_some]
    have filled (value : Document) : d.replaceAt value path = some (slot.refill value) := by
      rw [← map_refill_slotAt?, reached, Option.map_some]
    refine ⟨there, fun value => ⟨filled value, writtenAt_of_replaceAt (filled value)⟩, ?_⟩
    intro ordered
    exact Option.some.inj ((filled slot.part).symm.trans (replaceAt_of_lookup ordered there))
  · have missing : d.lookup path = none := lookup_eq_none_iff.mpr breaks
    have unreached : d.slotAt? path = none := by
      rwa [← map_part_slotAt?, Option.map_eq_none_iff] at missing
    refine ⟨unreached, fun value => ?_⟩
    rw [← map_refill_slotAt?, unreached, Option.map_none]

/-- The port of a server is written beside what else there is; a path through the port breaks
off. -/
example :
    let server (port : String) : Document :=
      mapping [("name", text "edge"), ("server", mapping [("host", text "a"), ("port", text port)])]
    (server "80").replaceAt (text "443") ["server", "port"] = some (server "443") ∧
      (server "80").replaceAt (text "443") ["server", "port", "tls"] = none :=
  ⟨rfl, rfl⟩

end GatewayOperator.Document
