import GatewayOperator.Proofs.Injection.Groups
import GatewayOperator.Proofs.Text.Integers
import Mathlib.Data.List.Nodup
import Mathlib.Tactic.MkIffOfInductiveProp

/-!
# The grammar of annotated configurations

Every list of entries can be written in annotations, with names and orders of one's choice.  This
module says what is written; that it is read as it was is shown in
`GatewayOperator.Proofs.Injection.Decoding`.

## Main Definitions

* `AnnotatedEntry` — an entry with the names and the order under which it is written.
* `AnnotatedEntry.fields` — what is written of an entry, each value under a path.
* `annotationsOf` — the annotations that are written.
* `AnnotatedEntry.WellNamed` — which names, orders and fields can be written.
* `AnnotatedConfiguration` — entries that can be written together.

## Main Statements

* `AnnotatedEntry.mem_fields_iff` — the paths under which there is something.
* `AnnotatedEntry.WellNamed.single` — a path has one value.
-/

namespace GatewayOperator

open Annotations Text

/-! ### Writing -/

/-- An entry with the names and the order under which it is written. -/
structure AnnotatedEntry where
  /-- The name of the group. -/
  group : String
  /-- The order. -/
  order : Int
  /-- The entry. -/
  entry : ConfigurationEntry
  /-- The names of the headers. -/
  headerNames : List String
  /-- The names of the registration fields. -/
  postDataNames : List String
  deriving DecidableEq, Repr, Inhabited

/-- Some values under a path, those that are set. -/
def under (path : List String) (values : List (String × Option String)) :
    List (List String × String) :=
  values.filterMap fun value => value.2.map (path ++ [value.1], ·)

/-- The values of a header. -/
def HeaderEntry.parts (h : HeaderEntry) : List (String × Option String) :=
  [("type", some h.kind.name), ("name", some h.name), ("value", some h.value),
    ("secretKey", h.secretKey)]

/-- The values of a registration field, except for a list of them. -/
def PostDataEntry.parts (p : PostDataEntry) : List (String × Option String) :=
  [("name", some p.name), ("value", p.value)]

namespace AnnotatedEntry

/-- The values of an entry that stand in its group directly. -/
def parts (e : AnnotatedEntry) : List (String × Option String) :=
  [("type", some e.entry.kind.name), ("order", some (toString e.order)), ("name", e.entry.name),
    ("dataKey", e.entry.dataKey), ("url", e.entry.url), ("value", e.entry.value),
    ("discoveryEndpoint", e.entry.discoveryEndpoint), ("secret", e.entry.secret)]

/-- The headers with their names. -/
def headers (e : AnnotatedEntry) : List (String × HeaderEntry) :=
  e.headerNames.zip e.entry.headers

/-- The registration fields with their names. -/
def postData (e : AnnotatedEntry) : List (String × PostDataEntry) :=
  e.postDataNames.zip e.entry.postData

/-- The list of values of a registration field, each under its number. -/
def numbered (name : String) (p : PostDataEntry) : List (List String × String) :=
  (p.values.getD []).zipIdx.map fun value =>
    (["postData", name, "values", toString value.2], value.1)

/-- The entry with its place. -/
def ordered (e : AnnotatedEntry) : OrderedEntry := ⟨e.order, e.entry⟩

/-- What is written of an entry, each value under a path. -/
def fields (e : AnnotatedEntry) : List (List String × String) :=
  under [] e.parts ++ (e.headers.flatMap fun h => under ["header", h.1] h.2.parts) ++
    e.postData.flatMap fun p => under ["postData", p.1] p.2.parts ++ numbered p.1 p.2

end AnnotatedEntry

/-- The annotations that are written for some entries. -/
def annotationsOf (entries : List AnnotatedEntry) : TextMap :=
  Dict.ofList (entries.flatMap fun e =>
    e.fields.map fun field => (groupKey e.group (dotted field.1), field.2))

/-! ### What can be written -/

/-- An entry without the fields that do not belong to its kind. -/
def ConfigurationEntry.proper (e : ConfigurationEntry) : ConfigurationEntry :=
  let bare := ConfigurationEntry.bare e.kind
  match e.kind with
  | .literal => { bare with value := e.value }
  | .configMap => { bare with name := e.name, dataKey := e.dataKey }
  | .web => { bare with url := e.url, headers := e.headers }
  | .oidcRegistration =>
    { bare with
      discoveryEndpoint := e.discoveryEndpoint
      secret := e.secret
      postData := e.postData }

/-- A registration field has a name, and either a value that is not empty or a list of values, of
any length that a list in memory can have. -/
def PostDataEntry.Writable (p : PostDataEntry) : Prop :=
  p.name ≠ "" ∧
    match p.value, p.values with
    | some value, none => value ≠ ""
    | none, some values => values.length ≤ twoTo 64
    | _, _ => False

instance : DecidablePred PostDataEntry.Writable
  | ⟨name, some value, none⟩ => inferInstanceAs (Decidable (name ≠ "" ∧ value ≠ ""))
  | ⟨name, none, some values⟩ => inferInstanceAs (Decidable (name ≠ "" ∧ values.length ≤ twoTo 64))
  | ⟨name, some _, some _⟩ => inferInstanceAs (Decidable (name ≠ "" ∧ False))
  | ⟨name, none, none⟩ => inferInstanceAs (Decidable (name ≠ "" ∧ False))

/-- Names for some items: one for each, in order, none of them empty or with a dot. -/
@[mk_iff] structure Names (names : List String) (count : Nat) : Prop where
  /-- There is one for each item. -/
  each : names.length = count
  /-- They are in order. -/
  ascending : names.Pairwise (· < ·)
  /-- None is empty, and none has a dot. -/
  parts : ∀ name ∈ names, name ≠ "" ∧ Dotless name

instance (names : List String) (count : Nat) : Decidable (Names names count) :=
  decidable_of_iff' _ (names_iff names count)

/-- An entry whose names, order and fields can be written. -/
@[mk_iff] structure AnnotatedEntry.WellNamed (e : AnnotatedEntry) : Prop where
  /-- The group is a part of a key. -/
  group : Dotless e.group
  /-- The order is a 64-bit integer. -/
  order : -(twoTo 63 : Int) ≤ e.order ∧ e.order < (twoTo 63 : Int)
  /-- No field of another kind is set. -/
  own : e.entry = e.entry.proper
  /-- There is a name for each header. -/
  headers : Names e.headerNames e.entry.headers.length
  /-- There is a name for each registration field. -/
  postData : Names e.postDataNames e.entry.postData.length
  /-- The registration fields can be written. -/
  writable : ∀ p ∈ e.entry.postData, p.Writable

instance : DecidablePred AnnotatedEntry.WellNamed :=
  fun e => decidable_of_iff' _ (AnnotatedEntry.wellNamed_iff e)

/-- Entries that can be written together. -/
@[mk_iff] structure AnnotatedConfiguration (entries : List AnnotatedEntry) : Prop where
  /-- There is one. -/
  nonempty : entries ≠ []
  /-- Each of them can be written. -/
  wellNamed : ∀ e ∈ entries, e.WellNamed
  /-- At most one is a registration. -/
  registration : (entries.filter fun e => e.entry.kind = .oidcRegistration).length ≤ 1
  /-- No two groups have the same name. -/
  distinct : (entries.map (·.group)).Nodup
  /-- They stand in their order, and where that is the same, in the order of their names. -/
  ascending : entries.Pairwise fun e e' =>
    e.order < e'.order ∨ e.order = e'.order ∧ e.group < e'.group

instance : DecidablePred AnnotatedConfiguration :=
  fun entries => decidable_of_iff' _ (annotatedConfiguration_iff entries)

/-! ### What stands under a path -/

theorem mem_under_iff {path p : List String} {values : List (String × Option String)} {v : String} :
    (p, v) ∈ under path values ↔ ∃ part, (part, some v) ∈ values ∧ p = path ++ [part] := by
  unfold under
  rw [List.mem_filterMap]
  constructor
  · rintro ⟨⟨part, value⟩, mem, same⟩
    obtain ⟨v', rfl, same⟩ := Option.map_eq_some_iff.mp same
    cases same
    exact ⟨part, mem, rfl⟩
  · rintro ⟨part, mem, rfl⟩
    exact ⟨(part, some v), mem, rfl⟩

/-- A key has one value only where keys do not repeat. -/
theorem eq_of_nodup_keys {α : Type} {values : List (String × α)} {key : String} {v v' : α}
    (nodup : (values.map (·.1)).Nodup) (mem : (key, v) ∈ values) (mem' : (key, v') ∈ values) :
    v = v' :=
  congrArg Prod.snd (List.inj_on_of_nodup_map nodup mem mem' rfl)

theorem Names.nodup_zip {α : Type} {names : List String} {items : List α}
    (names_ : Names names items.length) : ((names.zip items).map (·.1)).Nodup := by
  rw [List.map_fst_zip (Nat.le_of_eq names_.each)]
  exact names_.ascending.imp fun less => String.ne_of_lt less

theorem Names.of_mem_zip {α : Type} {names : List String} {items : List α} {name : String}
    {item : α}
    (names_ : Names names items.length) (mem : (name, item) ∈ names.zip items) :
    (name ≠ "" ∧ Dotless name) ∧ item ∈ items :=
  ⟨names_.parts name (List.of_mem_zip mem).1, (List.of_mem_zip mem).2⟩

theorem dotless_toString (n : Nat) : Dotless (toString n) := by
  intro dot
  have digit := isDigit_of_mem_toString dot
  revert digit
  decide

theorem eq_of_mem_zipIdx {α : Type} {l : List α} {a a' : α} {n : Nat} (mem : (a, n) ∈ l.zipIdx)
    (mem' : (a', n) ∈ l.zipIdx) : a = a' := by
  have first := List.mk_mem_zipIdx_iff_getElem?.mp mem
  have second := List.mk_mem_zipIdx_iff_getElem?.mp mem'
  exact Option.some.inj (first.symm.trans second)

namespace AnnotatedEntry

variable {e : AnnotatedEntry} {key name part v v' : String} {p : List String} {o : Option String}

/-- The paths under which an entry is written. -/
theorem mem_fields_iff : (p, v) ∈ e.fields ↔
    (∃ part, (part, some v) ∈ e.parts ∧ p = [part]) ∨
    (∃ name h part, (name, h) ∈ e.headers ∧ (part, some v) ∈ h.parts ∧ p = ["header", name, part]) ∨
    (∃ name f part, (name, f) ∈ e.postData ∧ (part, some v) ∈ f.parts ∧
      p = ["postData", name, part]) ∨
    ∃ name f n, (name, f) ∈ e.postData ∧ (v, n) ∈ (f.values.getD []).zipIdx ∧
      p = ["postData", name, "values", toString n] := by
  unfold fields numbered
  simp only [List.mem_append, List.mem_flatMap, mem_under_iff, List.mem_map, Prod.exists,
    List.nil_append, List.cons_append, Prod.mk.injEq]
  constructor
  · rintro ((part | ⟨name, h, mem, part, here, rfl⟩) |
      ⟨name, f, mem, ⟨part, here, rfl⟩ | ⟨v', n, here, rfl, rfl⟩⟩)
    · exact .inl part
    · exact .inr (.inl ⟨name, h, part, mem, here, rfl⟩)
    · exact .inr (.inr (.inl ⟨name, f, part, mem, here, rfl⟩))
    · exact .inr (.inr (.inr ⟨name, f, n, mem, here, rfl⟩))
  · rintro (part | ⟨name, h, part, mem, here, rfl⟩ | ⟨name, f, part, mem, here, rfl⟩ |
      ⟨name, f, n, mem, here, rfl⟩)
    · exact .inl (.inl part)
    · exact .inl (.inr ⟨name, h, mem, part, here, rfl⟩)
    · exact .inr ⟨name, f, mem, .inl ⟨part, here, rfl⟩⟩
    · exact .inr ⟨name, f, mem, .inr ⟨v, n, here, rfl, rfl⟩⟩

theorem mem_fields_part : ([part], v) ∈ e.fields ↔ (part, some v) ∈ e.parts := by
  simp [mem_fields_iff]

theorem mem_fields_header : (["header", name, part], v) ∈ e.fields ↔
    ∃ h, (name, h) ∈ e.headers ∧ (part, some v) ∈ h.parts := by
  simp [mem_fields_iff]

theorem mem_fields_postData : (["postData", name, part], v) ∈ e.fields ↔
    ∃ f, (name, f) ∈ e.postData ∧ (part, some v) ∈ f.parts := by
  simp [mem_fields_iff]

theorem mem_fields_values : (["postData", name, "values", part], v) ∈ e.fields ↔
    ∃ f n, (name, f) ∈ e.postData ∧ (v, n) ∈ (f.values.getD []).zipIdx ∧ part = toString n := by
  simp [mem_fields_iff]

/-- Under the word for headers stand the headers. -/
theorem header_of_mem_fields (mem : ("header" :: name :: p, v) ∈ e.fields) :
    ∃ h, (name, h) ∈ e.headers := by
  rcases mem_fields_iff.mp mem with ⟨part, -, same⟩ | ⟨name', h, part, named, -, same⟩ |
    ⟨name', f, part, -, -, same⟩ | ⟨name', f, n, -, -, same⟩
  · simp at same
  · simp only [List.cons.injEq, true_and] at same
    obtain ⟨rfl, -⟩ := same
    exact ⟨h, named⟩
  · simp at same
  · simp at same

/-- Under the word for registration fields stand the registration fields and their values. -/
theorem postData_of_mem_fields (mem : ("postData" :: name :: p, v) ∈ e.fields) :
    ∃ f, (name, f) ∈ e.postData ∧ ((∃ part, (part, some v) ∈ f.parts ∧ p = [part]) ∨
      ∃ n, (v, n) ∈ (f.values.getD []).zipIdx ∧ p = ["values", toString n]) := by
  rcases mem_fields_iff.mp mem with ⟨part, -, same⟩ | ⟨name', h, part, -, -, same⟩ |
    ⟨name', f, part, named, here, same⟩ | ⟨name', f, n, named, here, same⟩
  · simp at same
  · simp at same
  · simp only [List.cons.injEq, true_and] at same
    obtain ⟨rfl, same⟩ := same
    exact ⟨f, named, .inl ⟨part, here, same⟩⟩
  · simp only [List.cons.injEq, true_and] at same
    obtain ⟨rfl, same⟩ := same
    exact ⟨f, named, .inr ⟨n, here, same⟩⟩

/-! ### Paths -/

/-- Words that are parts of keys, each of them once. -/
structure Words (words : List String) : Prop where
  /-- None of them has a dot. -/
  dotless : ∀ word ∈ words, Dotless word
  /-- No two are the same. -/
  nodup : words.Nodup

theorem words_parts (e : AnnotatedEntry) : Words (e.parts.map (·.1)) := by
  simp only [parts, List.map_cons, List.map_nil]
  exact ⟨by decide, by decide⟩

theorem words_headerParts (h : HeaderEntry) : Words (h.parts.map (·.1)) := by
  simp only [HeaderEntry.parts, List.map_cons, List.map_nil]
  exact ⟨by decide, by decide⟩

theorem words_postDataParts (f : PostDataEntry) : Words (f.parts.map (·.1)) := by
  simp only [PostDataEntry.parts, List.map_cons, List.map_nil]
  exact ⟨by decide, by decide⟩

/-- A path is a list of parts of a key. -/
theorem WellNamed.path (well : e.WellNamed) (mem : (p, v) ∈ e.fields) :
    p ≠ [] ∧ ∀ part ∈ p, Dotless part := by
  have header : Dotless "header" := by decide
  have postData : Dotless "postData" := by decide
  have values : Dotless "values" := by decide
  rcases mem_fields_iff.mp mem with ⟨part, here, rfl⟩ | ⟨name, h, part, named, here, rfl⟩ |
    ⟨name, f, part, named, here, rfl⟩ | ⟨name, f, n, named, here, rfl⟩
  · have dotless := (words_parts e).dotless part (List.mem_map_of_mem here)
    simp [dotless]
  · have dotless := (words_headerParts h).dotless part (List.mem_map_of_mem here)
    have dotless' := (well.headers.of_mem_zip named).1.2
    simp [header, dotless, dotless']
  · have dotless := (words_postDataParts f).dotless part (List.mem_map_of_mem here)
    have dotless' := (well.postData.of_mem_zip named).1.2
    simp [postData, dotless, dotless']
  · have dotless := (well.postData.of_mem_zip named).1.2
    simpa [postData, values, dotless] using dotless_toString n

/-- A path has one value. -/
theorem WellNamed.single (well : e.WellNamed) (mem : (p, v) ∈ e.fields)
    (mem' : (p, v') ∈ e.fields) :
    v = v' := by
  rcases mem_fields_iff.mp mem with ⟨part, here, rfl⟩ | ⟨name, h, part, named, here, rfl⟩ |
    ⟨name, f, part, named, here, rfl⟩ | ⟨name, f, n, named, here, rfl⟩
  · have here' := mem_fields_part.mp mem'
    exact Option.some.inj (eq_of_nodup_keys (words_parts e).nodup here here')
  · obtain ⟨h', named', here'⟩ := mem_fields_header.mp mem'
    obtain rfl := eq_of_nodup_keys well.headers.nodup_zip named named'
    exact Option.some.inj (eq_of_nodup_keys (words_headerParts h).nodup here here')
  · obtain ⟨f', named', here'⟩ := mem_fields_postData.mp mem'
    obtain rfl := eq_of_nodup_keys well.postData.nodup_zip named named'
    exact Option.some.inj (eq_of_nodup_keys (words_postDataParts f).nodup here here')
  · obtain ⟨f', n', named', here', same⟩ := mem_fields_values.mp mem'
    obtain rfl := eq_of_nodup_keys well.postData.nodup_zip named named'
    obtain rfl := toString_inj same
    exact eq_of_mem_zipIdx here here'

end AnnotatedEntry

end GatewayOperator
