import GatewayOperator.Proofs.Injection.PatchedWorkloads
import GatewayOperator.Proofs.Json.Objects

/-!
# Patches that edit lists and annotations

A patch is made for edits of an object: items are put into lists of it, and its annotations are
changed.  It is sent in its written form, and whoever receives it reads it and applies it.

## Main Definitions

* `ObjectEdit`, `Patch.ofEdits` — an edit of an object, and the patch for some edits.
* `ObjectEdit.Fits`, `ObjectEdit.FitAll` — edits that were made for what stands in the object.
* `ObjectEdit.Effect`, `ObjectEdit.Effects` — what an edit, and what several edits do to an object.
* `Patch.ofJson?`, `Patch.applyWritten` — the patch of a written form, and an object after it.

## Main Statements

* `Patch.ofJson?_toJson` — a patch is read as it was written.
* `ObjectEdit.apply_operation` — the operation of an edit that fits can be applied.
* `ObjectEdit.effect_applyTo` — it does what was asked for, and nothing else.
* `Patch.applyWritten_ofEdits` — **main law**: the written patch for edits that fit can be applied,
  and does what was asked for by each edit in its turn.

## Design Notes

Whether an edit fits is asked of the object after the edits before it, so `FitAll` runs through the
edits like the patch does.  That the object has metadata is kept by every edit that fits: the
metadata are no list, so no edit puts anything in their place.
-/

namespace GatewayOperator

open Json PatchOperation

/-! ### The written form -/

/-- The change of a written form.  Other changes are not written. -/
def PatchOperation.ofJson? (v : Json) : Option PatchOperation := do
  let op ← (v.get? "op").bind string?
  let path ← ((v.get? "path").bind string?).bind Pointer.read?
  let value ← v.get? "value"
  if op = "add" then some (.add path value)
  else if op = "replace" then some (.replace path value)
  else none

/-- The patch of a written form. -/
def Patch.ofJson? : Json → Option Patch := readList PatchOperation.ofJson?

/-- An object after the changes of a written patch. -/
def Patch.applyWritten (patch object : Json) : Option Json :=
  (Patch.ofJson? patch).bind fun p => p.apply object

theorem PatchOperation.ofJson?_toJson (operation : PatchOperation) :
    PatchOperation.ofJson? operation.toJson = some operation := by
  have read (op : String) (path : Pointer) (value : Json) :
      ((Json.object [("op", .string op), ("path", .string path.text), ("value", value)]).get?
        "path").bind string? = some path.text := rfl
  unfold PatchOperation.ofJson?
  cases operation with
  | add path value =>
    unfold PatchOperation.toJson
    rw [read, Option.bind_some, Pointer.read?_text]
    rfl
  | replace path value =>
    unfold PatchOperation.toJson
    rw [read, Option.bind_some, Pointer.read?_text]
    rfl

/-- A patch is read as it was written. -/
theorem Patch.ofJson?_toJson (p : Patch) : Patch.ofJson? p.toJson = some p := by
  have each : (p.map PatchOperation.toJson).mapM PatchOperation.ofJson? = some p :=
    mapM_map_of_forall fun operation _ => PatchOperation.ofJson?_toJson operation
  unfold Patch.ofJson? Patch.toJson readList ofList items?
  rw [Option.bind_some, each]

/-! ### Edits -/

/-- The items of the list at a place; if nothing or null stands there, it has none. -/
def Json.itemsAt? (v : Json) (place : Pointer) : Option (List Json) :=
  match v.at? place with
  | none => some []
  | some .null => some []
  | some found => found.items?

/-- A list with items is there. -/
theorem Json.at?_of_itemsAt? {v : Json} {place : Pointer} {items : List Json}
    (listed : v.itemsAt? place = some items) (filled : items ≠ []) :
    v.at? place = some (.array items) := by
  unfold itemsAt? at listed
  split at listed
  · cases listed
    exact absurd rfl filled
  · cases listed
    exact absurd rfl filled
  · next found _ present =>
    cases found with
    | array items' =>
      cases listed
      exact present
    | _ => cases listed

/-- An object is no list. -/
theorem Json.itemsAt?_object {v : Json} {place : Pointer} {fields : List (String × Json)}
    (object : v.at? place = some (.object fields)) : v.itemsAt? place = none := by
  unfold itemsAt?
  rw [object]
  rfl

/-- An edit of an object.  The places of lists are places below a base. -/
inductive ObjectEdit where
  /-- Puts an item at the end of a list, which is said to have `length` items. -/
  | append (list : Pointer) (length : Nat) (item : Json)
  /-- Puts an item of a list in place of another one. -/
  | replaceAt (list : Pointer) (index : Nat) (item : Json)
  /-- Puts an item of a list in place of another one, or at the end. -/
  | upsert (list : Pointer) (index : Option Nat) (length : Nat) (item : Json)
  /-- Changes some of the annotations, which are said to be `current`. -/
  | setAnnotations (current : Option TextMap) (updates : TextMap)

namespace ObjectEdit

variable (base : Pointer)

/-- The change that a patch has for an edit. -/
def operation : ObjectEdit → PatchOperation
  | append list length item => .append (base ++ list) length item
  | replaceAt list index item => .replaceAt (base ++ list) index item
  | upsert list index length item => .upsert (base ++ list) index length item
  | setAnnotations current updates => .setAnnotations current updates

/-- The place of what is edited. -/
def place : ObjectEdit → Pointer
  | append list .. | replaceAt list .. | upsert list .. => base ++ list
  | setAnnotations .. => annotationsPath

/-- An edit is made for an object: objects lead to the list, which has as many items as was said,
and so many that there is one to be replaced; and the annotations are those that were named. -/
def Fits (v : Json) : ObjectEdit → Prop
  | append list length _ => v.LeadsThroughObjects (base ++ list) ∧
      ∃ items, v.itemsAt? (base ++ list) = some items ∧ items.length = length
  | replaceAt list index _ => v.LeadsThroughObjects (base ++ list) ∧
      ∃ items, v.itemsAt? (base ++ list) = some items ∧ index < items.length
  | upsert list index length _ => v.LeadsThroughObjects (base ++ list) ∧
      ∃ items, v.itemsAt? (base ++ list) = some items ∧ items.length = length ∧
        ∀ i ∈ index, i < length
  | setAnnotations current _ =>
      Json.optional readTextMap (v.at? annotationsPath) = some current

/-- The value that an edit puts at its place. -/
def value (v : Json) : ObjectEdit → Json
  | append list _ item => .array ((v.itemsAt? (base ++ list)).getD [] ++ [item])
  | replaceAt list index item => .array (((v.itemsAt? (base ++ list)).getD []).set index item)
  | upsert list index _ item => .array (upserted index item ((v.itemsAt? (base ++ list)).getD []))
  | setAnnotations current updates => .ofTextMap (updateAnnotations (current.getD ∅) updates)

/-- An object after an edit. -/
def applyTo (v : Json) (edit : ObjectEdit) : Json := put (edit.value base v) (edit.place base) v

/-- Every edit is made for the object after the edits before it. -/
def FitAll : Json → List ObjectEdit → Prop
  | _, [] => True
  | v, edit :: edits => edit.Fits base v ∧ FitAll (edit.applyTo base v) edits

/-- What an edit does to an object: it gives one of its lists another item, or changes some of its
annotations, and leaves everything outside that place alone. -/
inductive Effect : ObjectEdit → Json → Json → Prop
  /-- The list has one more item. -/
  | append {list : Pointer} {length : Nat} {item : Json} {items : List Json} {v v' : Json}
      (were : v.itemsAt? (base ++ list) = some items)
      (are : v'.at? (base ++ list) = some (.array (items ++ [item])))
      (same : SameOutside [base ++ list] v v') : Effect (.append list length item) v v'
  /-- The list has another item at a position of it. -/
  | replaceAt {list : Pointer} {index : Nat} {item : Json} {items : List Json} {v v' : Json}
      (were : v.itemsAt? (base ++ list) = some items) (inside : index < items.length)
      (are : v'.at? (base ++ list) = some (.array (items.set index item)))
      (same : SameOutside [base ++ list] v v') : Effect (.replaceAt list index item) v v'
  /-- With a position, the list has another item there. -/
  | replaced {list : Pointer} {index length : Nat} {item : Json} {v v' : Json}
      (effect : Effect (.replaceAt list index item) v v') :
      Effect (.upsert list (some index) length item) v v'
  /-- Without a position, the list has one more item. -/
  | appended {list : Pointer} {length : Nat} {item : Json} {v v' : Json}
      (effect : Effect (.append list length item) v v') :
      Effect (.upsert list none length item) v v'
  /-- The annotations are changed one by one; an empty value takes an annotation away. -/
  | setAnnotations {current : Option TextMap} {updates annotations : TextMap} {v v' : Json}
      (were : Json.optional readTextMap (v.at? annotationsPath) = some current)
      (are : v'.at? annotationsPath = some (.ofTextMap annotations))
      (each : ∀ key, annotations.get? key =
        match updates.get? key with
        | some value => if value.isEmpty then none else some value
        | none => (current.getD ∅).get? key)
      (same : SameOutside [annotationsPath] v v') : Effect (.setAnnotations current updates) v v'

/-- What several edits do to an object, one after another. -/
inductive Effects : List ObjectEdit → Json → Json → Prop
  /-- Without an edit, the object is the same. -/
  | nil (v : Json) : Effects [] v v
  /-- The others are edits of what the first one left. -/
  | cons {edit : ObjectEdit} {edits : List ObjectEdit} {v v' v'' : Json}
      (first : Effect base edit v v') (others : Effects edits v' v'') :
      Effects (edit :: edits) v v''

end ObjectEdit

/-- The patch for some edits. -/
def Patch.ofEdits (base : Pointer) (edits : List ObjectEdit) : Patch :=
  edits.map (ObjectEdit.operation base)

/-! ### One edit -/

namespace ObjectEdit

variable {base : Pointer} {v : Json} {edit : ObjectEdit} {list : Pointer} {items : List Json}

theorem apply_append (leads : v.LeadsThroughObjects list) (listed : v.itemsAt? list = some items)
    (item : Json) :
    (PatchOperation.append list items.length item).apply v =
      some (put (.array (items ++ [item])) list v) := by
  unfold PatchOperation.append
  split
  · next empty =>
    -- An empty list is written as a whole, whatever stood there before.
    rw [List.eq_nil_of_length_eq_zero empty]
    exact add?_put leads (.array [item])
  · next filled =>
    have present := at?_of_itemsAt? listed fun empty => filled (List.length_eq_zero_iff.mpr empty)
    exact add?_end_put leads present item

theorem apply_replaceAt (leads : v.LeadsThroughObjects list)
    (listed : v.itemsAt? list = some items) {index : Nat} (inside : index < items.length)
    (item : Json) :
    (PatchOperation.replaceAt list index item).apply v =
      some (put (.array (items.set index item)) list v) :=
  replace?_item_put leads
    (at?_of_itemsAt? listed (List.length_pos_iff.mp (Nat.zero_lt_of_lt inside))) inside item

/-- Objects lead to the annotations of an object that has metadata. -/
theorem leads_annotations {fields : List (String × Json)}
    (metadata : v.at? ["metadata"] = some (.object fields)) :
    v.LeadsThroughObjects annotationsPath := by
  have metadata' : (v.child? "metadata").bind (·.at? []) = some (.object fields) := metadata
  obtain ⟨found, here, -⟩ := Option.bind_eq_some_iff.mp metadata'
  obtain ⟨fields', object, -⟩ := fields?_of_child? (by decide) here
  have leads : v.LeadsThroughObjects ([] ++ ["metadata"]) :=
    leadsThroughObjects_concat_iff.mpr
      ⟨leadsThroughObjects_nil v, fields', congrArg some (eq_object_of_fields? object)⟩
  show v.LeadsThroughObjects (["metadata"] ++ ["annotations"])
  exact leadsThroughObjects_concat_iff.mpr ⟨leads, fields, metadata⟩

theorem apply_setAnnotations {fields : List (String × Json)}
    (metadata : v.at? ["metadata"] = some (.object fields)) {current : Option TextMap}
    (named : Json.optional readTextMap (v.at? annotationsPath) = some current)
    (updates : TextMap) :
    (PatchOperation.setAnnotations current updates).apply v =
      some (put (.ofTextMap (updateAnnotations (current.getD ∅) updates)) annotationsPath v) := by
  have leads := leads_annotations metadata
  cases current with
  | none => exact add?_put leads _
  | some a =>
    obtain ⟨found, present, -⟩ := optional_eq_some_some named
    exact replace?_put leads present _

/-- An edit that fits is one of a list that objects lead to, or of the annotations. -/
theorem Fits.list_or (fits : edit.Fits base v) :
    (v.LeadsThroughObjects (edit.place base) ∧
        ∃ items, v.itemsAt? (edit.place base) = some items) ∨
      edit.place base = annotationsPath := by
  cases edit with
  | append =>
    obtain ⟨leads, items, listed, -⟩ := fits
    exact Or.inl ⟨leads, items, listed⟩
  | replaceAt =>
    obtain ⟨leads, items, listed, -⟩ := fits
    exact Or.inl ⟨leads, items, listed⟩
  | upsert =>
    obtain ⟨leads, items, listed, -⟩ := fits
    exact Or.inl ⟨leads, items, listed⟩
  | setAnnotations => exact Or.inr rfl

/-- Objects lead to the place of an edit that fits. -/
theorem Fits.leads {fields : List (String × Json)} (fits : edit.Fits base v)
    (metadata : v.at? ["metadata"] = some (.object fields)) :
    v.LeadsThroughObjects (edit.place base) := by
  rcases fits.list_or with ⟨leads, -⟩ | annotated
  · exact leads
  · exact annotated ▸ leads_annotations metadata

/-- The operation of an edit that fits can be applied. -/
theorem apply_operation {fields : List (String × Json)} (fits : edit.Fits base v)
    (metadata : v.at? ["metadata"] = some (.object fields)) :
    (edit.operation base).apply v = some (edit.applyTo base v) := by
  unfold applyTo
  cases edit with
  | append list length item =>
    obtain ⟨leads, items, listed, rfl⟩ := fits
    rw [value, listed]
    exact apply_append leads listed item
  | replaceAt list index item =>
    obtain ⟨leads, items, listed, inside⟩ := fits
    rw [value, listed]
    exact apply_replaceAt leads listed inside item
  | upsert list index length item =>
    obtain ⟨leads, items, listed, rfl, inside⟩ := fits
    rw [value, listed]
    cases index with
    | some index => exact apply_replaceAt leads listed (inside index rfl) item
    | none => exact apply_append leads listed item
  | setAnnotations current updates => exact apply_setAnnotations metadata fits updates

/-- An edit that fits does what was asked for, and nothing else. -/
theorem effect_applyTo {fields : List (String × Json)} (fits : edit.Fits base v)
    (metadata : v.at? ["metadata"] = some (.object fields)) :
    edit.Effect base v (edit.applyTo base v) := by
  have leads := fits.leads metadata
  have are := at?_put leads (edit.value base v)
  have same := sameOutside_put leads (edit.value base v)
  unfold applyTo
  cases edit with
  | append list length item =>
    obtain ⟨-, items, listed, -⟩ := fits
    rw [value, listed] at are same ⊢
    exact .append listed are same
  | replaceAt list index item =>
    obtain ⟨-, items, listed, inside⟩ := fits
    rw [value, listed] at are same ⊢
    exact .replaceAt listed inside are same
  | upsert list index length item =>
    obtain ⟨-, items, listed, rfl, inside⟩ := fits
    rw [value, listed] at are same ⊢
    cases index with
    | some index => exact .replaced (.replaceAt listed (inside index rfl) are same)
    | none => exact .appended (.append listed are same)
  | setAnnotations current updates =>
    exact .setAnnotations fits are (get?_updateAnnotations (current.getD ∅) updates) same

/-- Outside the place of an edit, everything is the same. -/
theorem Effect.sameOutside {v' : Json} (effect : edit.Effect base v v') :
    SameOutside [edit.place base] v v' := by
  induction effect with
  | append _ _ same => exact same
  | replaceAt _ _ _ same => exact same
  | replaced _ same => exact same
  | appended _ same => exact same
  | setAnnotations _ _ _ same => exact same

/-- An edit that fits puts nothing in place of the metadata, or of what is above them. -/
theorem Fits.not_prefix_metadata {fields : List (String × Json)} (fits : edit.Fits base v)
    (metadata : v.at? ["metadata"] = some (.object fields)) :
    ¬edit.place base <+: ["metadata"] := by
  intro part
  have short : edit.place base ≠ annotationsPath := by
    intro same
    exact absurd (same ▸ part) (by decide : ¬annotationsPath <+: ["metadata"])
  rcases fits.list_or with ⟨-, items, listed⟩ | annotated
  · -- At both places above the annotations there are objects, and an object is no list.
    obtain ⟨fields', object⟩ := leads_annotations metadata (edit.place base)
      (part.trans (List.prefix_append ["metadata"] ["annotations"])) short
    cases (itemsAt?_object object).symm.trans listed
  · exact short annotated

/-- An object that has metadata has some after an edit that fits. -/
theorem metadata_applyTo {fields : List (String × Json)} (fits : edit.Fits base v)
    (metadata : v.at? ["metadata"] = some (.object fields)) :
    ∃ fields', (edit.applyTo base v).at? ["metadata"] = some (.object fields') := by
  refine (effect_applyTo fits metadata).sameOutside.objects _ fields (fun changed mem => ?_)
    metadata
  rw [List.mem_singleton.mp mem]
  exact fits.not_prefix_metadata metadata

/-! ### Edits one after another -/

/-- Outside the places of all edits, everything is the same. -/
theorem Effects.sameOutside {edits : List ObjectEdit} {v' : Json}
    (effects : Effects base edits v v') : SameOutside (edits.map (place base)) v v' := by
  induction effects with
  | nil v => exact .refl [] v
  | @cons edit edits _ _ _ first others ih =>
    have head : SameOutside (edit.place base :: edits.map (place base)) _ _ :=
      first.sameOutside.mono fun place mem => by
        rw [List.mem_singleton.mp mem]
        exact List.mem_cons_self
    exact head.trans (ih.mono fun place mem => List.mem_cons_of_mem _ mem)

theorem apply_ofEdits {fields : List (String × Json)} {edits : List ObjectEdit}
    (metadata : v.at? ["metadata"] = some (.object fields)) (fit : FitAll base v edits) :
    (Patch.ofEdits base edits).apply v = some (edits.foldl (applyTo base) v) ∧
      Effects base edits v (edits.foldl (applyTo base) v) := by
  induction edits generalizing v fields with
  | nil => exact ⟨rfl, .nil v⟩
  | cons edit edits ih =>
    obtain ⟨fits, fit⟩ := fit
    obtain ⟨fields', metadata'⟩ := metadata_applyTo fits metadata
    obtain ⟨applied, effects⟩ := ih metadata' fit
    refine ⟨?_, .cons (effect_applyTo fits metadata) effects⟩
    exact (Patch.apply_append (Patch.apply_single (apply_operation fits metadata))).trans applied

end ObjectEdit

/-- **Patches are edits.** The written patch for edits that fit an object with metadata can be
applied.  Each edit then has its effect in its turn, and outside their places nothing changes. -/
theorem Patch.applyWritten_ofEdits (base : Pointer) {v : Json} {fields : List (String × Json)}
    (metadata : v.at? ["metadata"] = some (.object fields)) {edits : List ObjectEdit}
    (fit : ObjectEdit.FitAll base v edits) :
    ∃ v', Patch.applyWritten (Patch.ofEdits base edits).toJson v = some v' ∧
      v' = edits.foldl (ObjectEdit.applyTo base) v ∧ ObjectEdit.Effects base edits v v' ∧
      Json.SameOutside (edits.map (ObjectEdit.place base)) v v' := by
  obtain ⟨applied, effects⟩ := ObjectEdit.apply_ofEdits metadata fit
  refine ⟨_, ?_, rfl, effects, effects.sameOutside⟩
  unfold Patch.applyWritten
  rw [Patch.ofJson?_toJson]
  exact applied

/-- An object whose keys are written with separators, escapes and digits. -/
def editedSample (list first : Json) (annotations : List (String × Json)) : Json :=
  .object [
    ("metadata", .object [("annotations", .object annotations)]),
    ("spec", .object [("a/b", .object [("0", first), ("~1", list)])])]

/-- Edits of both lists of the sample and of its annotations. -/
def sampleEdits : List ObjectEdit :=
  [.append ["a/b", "~1"] 0 (.int 2), .upsert ["a/b", "~1"] none 1 (.int 3),
    .replaceAt ["a/b", "0"] 0 (.int 4), .upsert ["a/b", "~1"] (some 0) 2 (.int 5),
    .setAnnotations (some (.ofList [("gone", "x"), ("kept", "y")]))
      (.ofList [("gone", ""), ("new/~", "z")])]

/-- A list that is null gets its items, and all edits follow one another. -/
theorem editedSample_edits :
    ObjectEdit.FitAll ["spec"]
        (editedSample .null (.array [.int 1]) [("gone", .string "x"), ("kept", .string "y")])
        sampleEdits ∧
      Patch.applyWritten (Patch.ofEdits ["spec"] sampleEdits).toJson
          (editedSample .null (.array [.int 1]) [("gone", .string "x"), ("kept", .string "y")]) =
        some (editedSample (.array [.int 5, .int 3]) (.array [.int 4])
          [("kept", .string "y"), ("new/~", .string "z")]) := by
  have fit : ObjectEdit.FitAll ["spec"]
      (editedSample .null (.array [.int 1]) [("gone", .string "x"), ("kept", .string "y")])
      sampleEdits := by
    refine ⟨⟨by decide, _, rfl, rfl⟩, ⟨by decide, _, rfl, rfl, nofun⟩,
      ⟨by decide, _, rfl, by decide⟩, ⟨by decide, _, rfl, rfl, by decide⟩, rfl, trivial⟩
  refine ⟨fit, ?_⟩
  obtain ⟨v', applied, rfl, -, -⟩ := Patch.applyWritten_ofEdits ["spec"] rfl fit
  exact applied

end GatewayOperator
