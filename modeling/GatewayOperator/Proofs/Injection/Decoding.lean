import GatewayOperator.Proofs.Attempts
import GatewayOperator.Proofs.Injection.Grammar
import GatewayOperator.Proofs.Sorting

/-!
# Reading annotated configurations

Every list of entries that is written in annotations is read from them as it was, whatever else is
annotated.

## Main Statements

* `AnnotatedEntry.decodeValues_eq` — values are read in the order of their numbers.
* `AnnotatedEntry.decodeGroup_eq` — an entry is read from its group as it was written.
* `configuration_of_annotations` — so is the whole list.

## Design Notes

A path is unique, and so is the key that is made of it, because no part of a path has a dot.  So
what is read under a key is what was written under its path, and nothing else is needed of the way
in which keys are sorted.  Where several keys are read one after another, their order is that of
their texts, in which `values.10` precedes `values.2`; values are put in order by their numbers
afterwards.
-/

namespace GatewayOperator

open Annotations Text

/-! ### Names and numbers -/

theorem mapM_names {α β : Type} {names : List String} {items : List α}
    {f : String → Except Failure β} {g : α → β} (each : names.length = items.length)
    (go : ∀ name item, (name, item) ∈ names.zip items → f name = .ok (g item)) :
    names.mapM f = .ok (items.map g) := by
  refine mapM_eq_ok_iff.mpr ⟨(names.zip items).map fun pair => (pair.1, g pair.2), ?_, ?_, ?_⟩
  · rw [List.map_map]
    exact List.map_fst_zip (Nat.le_of_eq each)
  · calc ((names.zip items).map fun pair => (pair.1, g pair.2)).map (·.2)
      _ = ((names.zip items).map (·.2)).map g := by rw [List.map_map, List.map_map]; rfl
      _ = items.map g := by rw [List.map_snd_zip (Nat.le_of_eq each.symm)]
  · intro pair mem
    obtain ⟨named, here, rfl⟩ := List.mem_map.mp mem
    exact go named.1 named.2 here

theorem filterMap_names {α : Type} {names : List String} {items : List α}
    {f : String → Option α} (each : names.length = items.length)
    (go : ∀ name item, (name, item) ∈ names.zip items → f name = some item) :
    names.filterMap f = items := by
  induction names generalizing items with
  | nil =>
    obtain rfl := List.length_eq_zero_iff.mp each.symm
    rfl
  | cons name names ih =>
    cases items with
    | nil => cases each
    | cons item items =>
      rw [List.filterMap_cons_some (go name item List.mem_cons_self),
        ih (Nat.succ.inj each) fun name item mem => go name item (List.mem_cons_of_mem _ mem)]

/-- The place of a value is the number that it was written under. -/
theorem valueIndex?_toString {n : Nat} (within : n < twoTo 64) :
    valueIndex? ("." ++ toString n) = some (some n) := by
  have some_ : ("." ++ toString n).isEmpty = false := by
    simp
  unfold valueIndex?
  rw [some_, stripPrefix?_eq_some_iff.mpr rfl, Option.map_some, readUnsigned64_toString within]
  rfl

theorem ascending_zipIdx {α : Type} (l : List α) : l.zipIdx.Pairwise fun a b => a.2 < b.2 := by
  have ascending := List.pairwise_lt_range' (s := 0) (n := l.length)
  rw [← List.zipIdx_map_snd] at ascending
  exact List.pairwise_map.mp ascending

theorem ValueIndex.le_trans (a b c : ValueIndex) (h : a.le b = true) (h' : b.le c = true) :
    a.le c = true := by
  cases a <;> cases b <;> cases c <;> simp_all [ValueIndex.le]
  omega

theorem ValueIndex.le_total (a b : ValueIndex) : (a.le b || b.le a) = true := by
  cases a <;> cases b <;> simp [ValueIndex.le]
  omega

/-- The key of a value of a registration field. -/
def valueKey (name : String) (n : Nat) : String :=
  subgroupPrefix postDataSection name ++ "values" ++ ("." ++ toString n)

/-- The value that an entry of a group is for a registration field, with its place. -/
def placedValue? (name : String) (entry : String × String) : Option (ValueIndex × String) :=
  (stripPrefix? (subgroupPrefix postDataSection name ++ "values") entry.1).bind
    fun rest => (valueIndex? rest).map (·, entry.2)

namespace AnnotatedEntry

variable {e : AnnotatedEntry} {key name part v v' : String} {p : List String} {o : Option String}

/-! ### Reading a group -/

/-- The fields of a group are what is written of an entry. -/
def Holds (e : AnnotatedEntry) (fields : TextMap) : Prop :=
  ∀ key v, fields.get? key = some v ↔ ∃ p, (p, v) ∈ e.fields ∧ key = dotted p

section

variable {fields : TextMap} (well : e.WellNamed) (holds : e.Holds fields)

include well holds

/-- What is read under a key is what was written under its path. -/
theorem get?_dotted (some_ : p ≠ []) (dotless : ∀ part ∈ p, Dotless part) :
    fields.get? (dotted p) = some v ↔ (p, v) ∈ e.fields := by
  rw [holds]
  constructor
  · rintro ⟨q, mem, same⟩
    obtain ⟨some_', dotless'⟩ := well.path mem
    rw [dotted_inj some_ some_' dotless dotless' same]
    exact mem
  · intro mem
    exact ⟨p, mem, rfl⟩

theorem get?_part (mem : (part, o) ∈ e.parts) : fields.get? part = o := by
  have dotless : Dotless part := (words_parts e).dotless part (List.mem_map_of_mem mem)
  refine Option.ext fun v => ?_
  rw [← dotted_singleton part, get?_dotted well holds (by simp) (by simpa using dotless),
    mem_fields_part]
  constructor
  · intro here
    exact eq_of_nodup_keys (words_parts e).nodup mem here
  · rintro rfl
    exact mem

/-- What is read of a named item of a section is what was written of it. -/
theorem get?_item {α : Type} (section_ : String) {items : List (String × α)} {item : α}
    {parts : α → List (String × Option String)} (dotless : Dotless section_)
    (words : ∀ item, Words ((parts item).map (·.1))) (nodup : (items.map (·.1)).Nodup)
    (written : ∀ {name part v}, ([section_, name, part], v) ∈ e.fields ↔
      ∃ item, (name, item) ∈ items ∧ (part, some v) ∈ parts item)
    (dotless' : Dotless name) (named : (name, item) ∈ items) (mem : (part, o) ∈ parts item) :
    fields.get? (subgroupPrefix (section_ ++ ".") name ++ part) = o := by
  have last : Dotless part := (words item).dotless part (List.mem_map_of_mem mem)
  have key : subgroupPrefix (section_ ++ ".") name ++ part = dotted [section_, name, part] := by
    simp [subgroupPrefix, String.append_assoc]
  refine Option.ext fun v => ?_
  rw [key, get?_dotted well holds (by simp) (by simp [dotless, dotless', last]), written]
  constructor
  · rintro ⟨item', named', here⟩
    obtain rfl := eq_of_nodup_keys nodup named named'
    exact eq_of_nodup_keys (words item).nodup mem here
  · rintro rfl
    exact ⟨item, named, mem⟩

theorem get?_header {h : HeaderEntry} (named : (name, h) ∈ e.headers) (mem : (part, o) ∈ h.parts) :
    fields.get? (subgroupPrefix headerSection name ++ part) = o :=
  get?_item well holds "header" (by decide) words_headerParts well.headers.nodup_zip
    mem_fields_header (well.headers.of_mem_zip named).1.2 named mem

theorem get?_postData {f : PostDataEntry} (named : (name, f) ∈ e.postData)
    (mem : (part, o) ∈ f.parts) :
    fields.get? (subgroupPrefix postDataSection name ++ part) = o :=
  get?_item well holds "postData" (by decide) words_postDataParts well.postData.nodup_zip
    mem_fields_postData (well.postData.of_mem_zip named).1.2 named mem

theorem mem_subgroups {section_ : String} (dotless : Dotless section_) :
    name ∈ subgroups fields (section_ ++ ".") ↔
      name ≠ "" ∧ ∃ p v, (section_ :: name :: p, v) ∈ e.fields := by
  rw [mem_subgroups_iff]
  refine and_congr_right fun _ => ?_
  constructor
  · rintro ⟨rest, found, first⟩
    obtain ⟨v, found⟩ := Option.ne_none_iff_exists'.mp found
    obtain ⟨q, mem, same⟩ := (holds _ v).mp found
    obtain ⟨some_, dotless'⟩ := well.path mem
    rw [String.append_assoc] at same
    obtain ⟨others, some_', rfl, rfl⟩ := dotted_eq_append_dot some_ dotless' dotless same.symm
    obtain ⟨part, p, rfl⟩ := List.exists_cons_of_ne_nil some_'
    rw [takeWhile_dotted (dotless' part (by simp))] at first
    exact ⟨p, v, first ▸ mem⟩
  · rintro ⟨p, v, mem⟩
    obtain ⟨-, dotless'⟩ := well.path mem
    refine ⟨dotted (name :: p), ?_, takeWhile_dotted (dotless' name (by simp)) p⟩
    have key : section_ ++ "." ++ dotted (name :: p) = dotted (section_ :: name :: p) := by
      rw [dotted_cons_cons, String.append_assoc]
    rw [key, (holds _ v).mpr ⟨_, mem, rfl⟩]
    simp

theorem decodeKind_eq (group : String) : decodeKind group fields = .ok e.entry.kind := by
  have type : fields.get? "type" = some e.entry.kind.name :=
    get?_part well holds (by simp [parts])
  unfold decodeKind
  rw [type]
  cases e.entry.kind <;> rfl

theorem decodeOrder_eq (group : String) : decodeOrder group fields = .ok e.order := by
  have order : fields.get? "order" = some (toString e.order) :=
    get?_part well holds (by simp [parts])
  unfold decodeOrder
  rw [order, Option.getD_some]
  dsimp only
  rw [trim_toString, readInt64_toString well.order.1 well.order.2]

/-! ### Headers -/

/-- A header is read as it was written. -/
theorem decodeHeader_eq {h : HeaderEntry} (named : (name, h) ∈ e.headers) :
    decodeHeader fields name = .ok (some h) := by
  have get (part : String) (o : Option String) (mem : (part, o) ∈ h.parts) :
      fields.get? (subgroupPrefix headerSection name ++ part) = o :=
    get?_header well holds named mem
  have type := get "type" (some h.kind.name) (by simp [HeaderEntry.parts])
  have name_ := get "name" (some h.name) (by simp [HeaderEntry.parts])
  have value := get "value" (some h.value) (by simp [HeaderEntry.parts])
  have secretKey := get "secretKey" h.secretKey (by simp [HeaderEntry.parts])
  have kind : (some h.kind.name).bind nonEmpty? = some h.kind.name ∧
      HeaderKind.ofName? h.kind.name = some h.kind := by
    cases h.kind <;> decide
  unfold decodeHeader
  dsimp only
  rw [type, name_, value, secretKey, kind.1]
  dsimp only
  rw [kind.2]
  rfl

/-- The subgroups of a section are the names under which its items were written. -/
theorem subgroups_eq {α : Type} (section_ : String) {names : List String} {items : List α}
    (dotless : Dotless section_) (names_ : Names names items.length)
    (written : ∀ {name}, (∃ p v, (section_ :: name :: p, v) ∈ e.fields) ↔
      ∃ item, (name, item) ∈ names.zip items) :
    subgroups fields (section_ ++ ".") = names := by
  refine sortedDistinct_eq names_.ascending fun name => ?_
  refine (mem_subgroups well holds dotless).trans ?_
  rw [written]
  constructor
  · rintro ⟨-, item, mem⟩
    exact (List.of_mem_zip mem).1
  · intro mem
    have mem' := mem
    rw [← List.map_fst_zip (Nat.le_of_eq names_.each)] at mem'
    obtain ⟨named, here, rfl⟩ := List.mem_map.mp mem'
    exact ⟨(names_.parts named.1 mem).1, named.2, here⟩

theorem decodeHeaders_eq : decodeHeaders fields = .ok e.entry.headers := by
  have names : subgroups fields headerSection = e.headerNames := by
    refine subgroups_eq well holds "header" (by decide) well.headers fun {name} => ?_
    constructor
    · rintro ⟨p, v, mem⟩
      exact header_of_mem_fields mem
    · rintro ⟨h, named⟩
      have here : ("type", some h.kind.name) ∈ h.parts := by simp [HeaderEntry.parts]
      exact ⟨["type"], h.kind.name, mem_fields_header.mpr ⟨h, named, here⟩⟩
  have read := mapM_names well.headers.each fun name h named =>
    decodeHeader_eq well holds (named : (name, h) ∈ e.headers)
  unfold decodeHeaders
  rw [names, read]
  simp [bind, Except.bind, pure, Except.pure, List.filterMap_map]

/-! ### Registration fields -/

/-- Where a key goes on with the word for values, it is written for a value of the field. -/
theorem value_of_get? {f : PostDataEntry} {rest : String} (named : (name, f) ∈ e.postData)
    (found : fields.get? (subgroupPrefix postDataSection name ++ "values" ++ rest) = some v) :
    ∃ n, (v, n) ∈ (f.values.getD []).zipIdx ∧ rest = "." ++ toString n := by
  have dotless : Dotless name := (well.postData.of_mem_zip named).1.2
  obtain ⟨p, mem, same⟩ := (holds _ v).mp found
  obtain ⟨some_, dotless'⟩ := well.path mem
  have key : subgroupPrefix postDataSection name ++ "values" ++ rest =
      "postData" ++ ("." ++ (name ++ ("." ++ ("values" ++ rest)))) := by
    show "postData" ++ "." ++ name ++ "." ++ "values" ++ rest = _
    simp only [String.append_assoc]
  rw [key] at same
  obtain ⟨q, some_', rfl, same'⟩ := dotted_eq_append_dot some_ dotless' (by decide) same.symm
  have below : ∀ part ∈ q, Dotless part := fun part mem =>
    dotless' part (List.mem_cons_of_mem _ mem)
  obtain ⟨r, -, rfl, same''⟩ := dotted_eq_append_dot some_' below dotless same'.symm
  obtain ⟨f', named', ⟨part, here, rfl⟩ | ⟨n, here, rfl⟩⟩ := postData_of_mem_fields mem
  · -- No other part starts with the word.
    have after : stripPrefix? "values" part = some rest := stripPrefix?_eq_some_iff.mpr same''.symm
    unfold PostDataEntry.parts at here
    simp only [List.mem_cons, Prod.mk.injEq, List.not_mem_nil, or_false] at here
    rcases here with ⟨rfl, -⟩ | ⟨rfl, -⟩
    · have other : stripPrefix? "values" "name" = none := by decide
      cases other.symm.trans after
    · have other : stripPrefix? "values" "value" = none := by decide
      cases other.symm.trans after
  · obtain rfl := eq_of_nodup_keys well.postData.nodup_zip named named'
    refine ⟨n, here, ?_⟩
    exact (String.append_right_inj "values").mp same''

variable {f : PostDataEntry} {values : List String} (named : (name, f) ∈ e.postData)
  (listed : f.values = some values) (within : values.length ≤ twoTo 64)

include named listed within

/-- The values that are collected are those that were written, with their numbers. -/
theorem placedValue?_eq_some_iff {key : String} {value : ValueIndex × String}
    (found : fields.get? key = some v) : placedValue? name (key, v) = some value ↔
      ∃ n, (v, n) ∈ values.zipIdx ∧ value = (some n, v) ∧ key = valueKey name n := by
  have index {n : Nat} (mem : (v, n) ∈ values.zipIdx) :
      valueIndex? ("." ++ toString n) = some (some n) := by
    obtain ⟨below, -⟩ := List.getElem?_eq_some_iff.mp (List.mk_mem_zipIdx_iff_getElem?.mp mem)
    exact valueIndex?_toString (by omega)
  unfold placedValue?
  rw [Option.bind_eq_some_iff]
  constructor
  · rintro ⟨rest, stripped, placed⟩
    obtain ⟨i, placed, rfl⟩ := Option.map_eq_some_iff.mp placed
    obtain rfl := stripPrefix?_eq_some_iff.mp stripped
    obtain ⟨n, mem, rfl⟩ := value_of_get? well holds named found
    rw [listed, Option.getD_some] at mem
    rw [index mem] at placed
    cases placed
    exact ⟨n, mem, rfl, rfl⟩
  · rintro ⟨n, mem, rfl, rfl⟩
    refine ⟨"." ++ toString n, stripPrefix?_eq_some_iff.mpr rfl, ?_⟩
    rw [index mem]
    rfl

omit well within in
theorem get?_valueKey {n : Nat} (mem : (v, n) ∈ values.zipIdx) :
    fields.get? (valueKey name n) = some v := by
  refine (holds _ _).mpr ⟨["postData", name, "values", toString n], ?_, ?_⟩
  · exact mem_fields_values.mpr ⟨f, n, named, by rwa [listed], rfl⟩
  · show "postData" ++ "." ++ name ++ "." ++ "values" ++ ("." ++ toString n) = _
    simp only [dotted_cons_cons, dotted_singleton, String.append_assoc]

/-- Each value is collected once, with its number. -/
theorem placedValues_perm : (fields.entries.filterMap (placedValue? name)).Perm
    (values.zipIdx.map fun value => (some value.2, value.1)) := by
  have placed_iff (entry : String × String) (mem : entry ∈ fields.entries)
      (value : ValueIndex × String) : placedValue? name entry = some value ↔
        ∃ n, (entry.2, n) ∈ values.zipIdx ∧ value = (some n, entry.2) ∧ entry.1 = valueKey name n :=
    placedValue?_eq_some_iff well holds named listed within (Dict.mem_entries_iff.mp mem)
  have nodup : (fields.entries.filterMap (placedValue? name)).Nodup := by
    refine List.pairwise_filterMap.mpr (fields.ascending.imp_of_mem ?_)
    intro entry entry' mem mem' less value placed value' placed' same
    obtain ⟨n, -, rfl, here⟩ := (placed_iff entry mem value).mp placed
    obtain ⟨n', -, rfl, here'⟩ := (placed_iff entry' mem' value').mp placed'
    -- Values with the same number have the same key.
    obtain ⟨number, -⟩ := Prod.mk.inj same
    rw [here, here', Option.some.inj number] at less
    exact String.lt_irrefl _ less
  have nodup' : (values.zipIdx.map fun value =>
      ((some value.2, value.1) : ValueIndex × String)).Nodup := by
    refine List.pairwise_map.mpr ((ascending_zipIdx values).imp fun {value value'} less same => ?_)
    obtain ⟨number, -⟩ := Prod.mk.inj same
    exact Nat.ne_of_lt less (Option.some.inj number)
  refine (List.perm_ext_iff_of_nodup nodup nodup').mpr fun value => ?_
  rw [List.mem_filterMap, List.mem_map]
  constructor
  · rintro ⟨entry, mem, placed⟩
    obtain ⟨n, mem', rfl, -⟩ := (placed_iff entry mem value).mp placed
    exact ⟨(entry.2, n), mem', rfl⟩
  · rintro ⟨⟨v, n⟩, mem, rfl⟩
    have found := Dict.mem_entries_iff.mpr (get?_valueKey holds named listed mem)
    exact ⟨_, found, (placed_iff _ found _).mpr ⟨n, mem, rfl, rfl⟩⟩

/-- Values are read in the order of their numbers. -/
theorem decodeValues_eq : decodeValues fields name = values := by
  show ((fields.entries.filterMap (placedValue? name)).mergeSort fun a b => a.1.le b.1).map
    (·.2) = _
  have ordered :
      (values.zipIdx.map fun value => ((some value.2, value.1) : ValueIndex × String)).Pairwise
      fun a b => a.1.le b.1 = true := by
    refine List.pairwise_map.mpr ((ascending_zipIdx values).imp fun {value value'} less => ?_)
    exact decide_eq_true (Nat.le_of_lt less)
  rw [mergeSort_eq_of_perm (fun a b c => ValueIndex.le_trans a.1 b.1 c.1)
    (fun a b => ValueIndex.le_total a.1 b.1) ?_
    (placedValues_perm well holds named listed within) ordered]
  · rw [List.map_map]
    exact List.zipIdx_map_fst 0 values
  · intro a mem b mem' le le'
    obtain ⟨⟨v, n⟩, here, rfl⟩ := List.mem_map.mp mem
    obtain ⟨⟨v', n'⟩, here', rfl⟩ := List.mem_map.mp mem'
    have number : n = n' := Nat.le_antisymm (of_decide_eq_true le) (of_decide_eq_true le')
    subst number
    rw [eq_of_mem_zipIdx here here']

end

section

variable {fields : TextMap} (well : e.WellNamed) (holds : e.Holds fields)

include well holds

/-- A registration field is read as it was written. -/
theorem decodePostDataEntry_eq {f : PostDataEntry} (named : (name, f) ∈ e.postData) :
    decodePostDataEntry fields name = some f := by
  obtain ⟨some_, one⟩ := well.writable f (well.postData.of_mem_zip named).2
  have get (part : String) (o : Option String) (mem : (part, o) ∈ f.parts) :
      nonEmpty? fields (subgroupPrefix postDataSection name ++ part) = o.bind Text.nonEmpty? := by
    unfold Annotations.nonEmpty?
    rw [get?_postData well holds named mem]
  have name_ := get "name" (some f.name) (by simp [PostDataEntry.parts])
  have value := get "value" f.value (by simp [PostDataEntry.parts])
  unfold decodePostDataEntry
  dsimp only
  rw [name_, value, Option.bind_some, nonEmpty?_of_ne some_, Option.map_some]
  split at one
  · next v single unlisted =>
    rw [single, Option.bind_some, nonEmpty?_of_ne one]
    dsimp only
    rw [← single, ← unlisted]
  · next values unset listed =>
    rw [unset, Option.bind_none, decodeValues_eq well holds named listed one]
    dsimp only
    rw [← unset, ← listed]
  · exact one.elim

theorem decodePostData_eq : decodePostData fields = e.entry.postData := by
  have names : subgroups fields postDataSection = e.postDataNames := by
    refine subgroups_eq well holds "postData" (by decide) well.postData fun {name} => ?_
    constructor
    · rintro ⟨p, v, mem⟩
      obtain ⟨f, named, -⟩ := postData_of_mem_fields mem
      exact ⟨f, named⟩
    · rintro ⟨f, named⟩
      have here : ("name", some f.name) ∈ f.parts := by simp [PostDataEntry.parts]
      exact ⟨["name"], f.name, mem_fields_postData.mpr ⟨f, named, here⟩⟩
  unfold decodePostData
  rw [names]
  exact filterMap_names well.postData.each fun name f named =>
    decodePostDataEntry_eq well holds named

/-! ### Entries -/

theorem decodeFields_eq : decodeFields e.entry.kind fields = .ok e.entry := by
  have own := well.own
  have get (part : String) (o : Option String) (mem : (part, o) ∈ e.parts) : fields.get? part = o :=
    get?_part well holds mem
  unfold ConfigurationEntry.proper at own
  unfold decodeFields
  cases kind : e.entry.kind with
  | literal =>
    rw [kind] at own
    dsimp only at own ⊢
    rw [get "value" e.entry.value (by simp [parts]), ← own]
  | configMap =>
    rw [kind] at own
    dsimp only at own ⊢
    rw [get "name" e.entry.name (by simp [parts]), get "dataKey" e.entry.dataKey (by simp [parts]),
      ← own]
  | web =>
    rw [kind] at own
    dsimp only at own ⊢
    rw [get "url" e.entry.url (by simp [parts]), decodeHeaders_eq well holds, Except.map, ← own]
  | oidcRegistration =>
    rw [kind] at own
    dsimp only at own ⊢
    rw [get "discoveryEndpoint" e.entry.discoveryEndpoint (by simp [parts]),
      get "secret" e.entry.secret (by simp [parts]), decodePostData_eq well holds, ← own]

/-- An entry is read from its group as it was written. -/
theorem decodeGroup_eq (group : String) : decodeGroup group fields = .ok ⟨e.order, e.entry⟩ := by
  unfold decodeGroup
  rw [decodeKind_eq well holds, decodeOrder_eq well holds]
  show (decodeFields e.entry.kind fields).bind _ = _
  rw [decodeFields_eq well holds]
  rfl

end

end AnnotatedEntry

/-! ### Reading all groups -/

/-- Where all groups can be read, the configuration consists of their entries in order. -/
theorem configuration_of_decodeGroups {a : TextMap} {ordered : List OrderedEntry}
    (decoded : decodeGroups a = .ok ordered) (few : ¬1 < registrationCount ordered)
    (some_ : ordered ≠ []) : configuration a =
      .ok ((ordered.mergeSort fun a b => a.order ≤ b.order).map (·.entry)) := by
  have nonempty : ¬ordered.isEmpty = true := fun empty => some_ (List.isEmpty_iff.mp empty)
  unfold configuration
  rw [decoded]
  simp only [bind, Except.bind, if_neg few, if_neg nonempty, pure, Except.pure]

section

variable {entries : List AnnotatedEntry} (written : AnnotatedConfiguration entries)

include written

/-- A group is found among several by its name. -/
theorem AnnotatedConfiguration.eq_of_group {e e' : AnnotatedEntry} (mem : e ∈ entries)
    (mem' : e' ∈ entries) (same : e.group = e'.group) : e = e' :=
  List.inj_on_of_nodup_map written.distinct mem mem' same

/-- What is annotated under a key is what was written of an entry under its path. -/
theorem get?_annotationsOf {key v : String} : (annotationsOf entries).get? key = some v ↔
    ∃ e ∈ entries, ∃ p, (p, v) ∈ e.fields ∧ key = groupKey e.group (dotted p) := by
  have mem_iff {v : String} : (key, v) ∈ (entries.flatMap fun e =>
      e.fields.map fun field => (groupKey e.group (dotted field.1), field.2)) ↔
      ∃ e ∈ entries, ∃ p, (p, v) ∈ e.fields ∧ key = groupKey e.group (dotted p) := by
    simp only [List.mem_flatMap, List.mem_map, Prod.exists, Prod.mk.injEq]
    constructor
    · rintro ⟨e, here, p, _, mem, rfl, rfl⟩
      exact ⟨e, here, p, mem, rfl⟩
    · rintro ⟨e, here, p, mem, rfl⟩
      exact ⟨e, here, p, v, mem, rfl, rfl⟩
  unfold annotationsOf
  rw [Dict.get?_ofList_iff fun v v' mem mem' => ?_, mem_iff]
  obtain ⟨e, here, p, stands, rfl⟩ := mem_iff.mp mem
  obtain ⟨e', here', p', stands', same⟩ := mem_iff.mp mem'
  have well := written.wellNamed e here
  have well' := written.wellNamed e' here'
  obtain ⟨group, path⟩ := groupKey_inj well.group well'.group same
  obtain rfl := written.eq_of_group here here' group
  obtain ⟨some_, dotless⟩ := well.path stands
  obtain ⟨some_', dotless'⟩ := well.path stands'
  obtain rfl := dotted_inj some_ some_' dotless dotless' path
  exact well.single stands stands'

/-- The fields of a group are what is written of its entry. -/
theorem AnnotatedConfiguration.holds {e : AnnotatedEntry} (here : e ∈ entries) :
    e.Holds (group (annotationsOf entries) e.group) := by
  intro key v
  have well := written.wellNamed e here
  rw [get?_group well.group, get?_annotationsOf written]
  constructor
  · rintro ⟨e', here', p, mem, same⟩
    obtain ⟨group, rfl⟩ := groupKey_inj well.group (written.wellNamed e' here').group same
    obtain rfl := written.eq_of_group here here' group
    exact ⟨p, mem, rfl⟩
  · rintro ⟨p, mem, rfl⟩
    exact ⟨e, here, p, mem, rfl⟩

/-- The groups are those of the entries, in the order of their names. -/
theorem groupNames_eq {byName : List AnnotatedEntry} (same : byName.Perm entries)
    (ascending : byName.Pairwise fun e e' => e.group < e'.group) :
    groupNames (annotationsOf entries) = byName.map (·.group) := by
  refine sortedDistinct_eq (List.pairwise_map.mpr ascending) fun name => ?_
  refine mem_groupNames_iff.trans ?_
  rw [List.mem_map]
  constructor
  · rintro ⟨dotless, field, v, found⟩
    obtain ⟨e, here, p, -, key⟩ := (get?_annotationsOf written).mp found
    obtain ⟨group, -⟩ := groupKey_inj dotless (written.wellNamed e here).group key
    exact ⟨e, same.mem_iff.mpr here, group.symm⟩
  · rintro ⟨e, here, rfl⟩
    have here' := same.mem_iff.mp here
    have type : (["type"], e.entry.kind.name) ∈ e.fields :=
      AnnotatedEntry.mem_fields_part.mpr (by simp [AnnotatedEntry.parts])
    refine ⟨(written.wellNamed e here').group, "type", e.entry.kind.name, ?_⟩
    exact (get?_annotationsOf written).mpr ⟨e, here', ["type"], type, rfl⟩

theorem decodeGroups_eq {byName : List AnnotatedEntry} (same : byName.Perm entries)
    (ascending : byName.Pairwise fun e e' => e.group < e'.group) :
    decodeGroups (annotationsOf entries) = .ok (byName.map AnnotatedEntry.ordered) := by
  unfold decodeGroups
  rw [groupNames_eq written same ascending]
  have pairs : (byName.map (·.group)).zip byName = byName.map fun e => (e.group, e) := by
    simpa using List.zip_map' (f := AnnotatedEntry.group) (g := id) (l := byName)
  refine mapM_names (by simp) fun name e mem => ?_
  rw [pairs] at mem
  obtain ⟨e, here, named⟩ := List.mem_map.mp mem
  obtain ⟨rfl, rfl⟩ := Prod.mk.inj named
  have here' := same.mem_iff.mp here
  exact AnnotatedEntry.decodeGroup_eq (written.wellNamed e here') (written.holds here') e.group

/-- Entries that are read in the order of their names are put in their order. -/
theorem mergeSort_ordered {byName : List AnnotatedEntry} (same : byName.Perm entries)
    (ascending : byName.Pairwise fun e e' => e.group < e'.group) :
    (byName.map AnnotatedEntry.ordered).mergeSort (fun a b => a.order ≤ b.order) =
      entries.map AnnotatedEntry.ordered := by
  rw [← mergeSort_eq (fun _ _ => String.lt_asymm) same ascending written.ascending]
  refine (List.map_mergeSort fun a _ b _ => ?_).symm
  rfl

omit written in
theorem registrationCount_ordered (l : List AnnotatedEntry) :
    registrationCount (l.map AnnotatedEntry.ordered) =
      (l.filter fun e => e.entry.kind = .oidcRegistration).length := by
  unfold registrationCount
  rw [List.filter_map, List.length_map]
  rfl

/-- There is an order by names. -/
theorem AnnotatedConfiguration.exists_byName : ∃ byName : List AnnotatedEntry, byName.Perm entries ∧
    byName.Pairwise fun e e' => e.group < e'.group := by
  let le (e e' : AnnotatedEntry) : Bool := decide (e.group ≤ e'.group)
  have perm := List.mergeSort_perm entries le
  have trans (a b c : AnnotatedEntry) (h : le a b = true) (h' : le b c = true) : le a c = true :=
    decide_eq_true (String.le_trans (of_decide_eq_true h) (of_decide_eq_true h'))
  have total (a b : AnnotatedEntry) : (le a b || le b a) = true := by
    simpa [le] using String.le_total a.group b.group
  have ordered := List.pairwise_mergeSort trans total entries
  have distinct : (entries.mergeSort le).Pairwise fun e e' => e.group ≠ e'.group :=
    List.pairwise_map.mp ((perm.map AnnotatedEntry.group).nodup_iff.mpr written.distinct)
  refine ⟨entries.mergeSort le, perm, (ordered.and distinct).imp fun {e e'} both => ?_⟩
  by_contra notBefore
  have notAfter : ¬e'.group < e.group := String.not_lt.mpr (of_decide_eq_true both.1)
  exact both.2 (KeyOrder.trichotomy notBefore notAfter)

/-- What is read of written entries alone. -/
theorem AnnotatedConfiguration.configuration_annotationsOf :
    configuration (annotationsOf entries) = .ok (entries.map (·.entry)) := by
  obtain ⟨byName, perm, ascending⟩ := written.exists_byName
  have few : ¬1 < registrationCount (byName.map AnnotatedEntry.ordered) := by
    have count := registrationCount_ordered byName
    rw [(perm.filter _).length_eq] at count
    have := written.registration
    omega
  have some_ : byName.map AnnotatedEntry.ordered ≠ [] := by
    intro none_
    obtain rfl := List.map_eq_nil_iff.mp none_
    exact written.nonempty perm.nil_eq.symm
  rw [configuration_of_decodeGroups (decodeGroups_eq written perm ascending) few some_,
    mergeSort_ordered written perm ascending, List.map_map]
  rfl

end

/-- Every list of entries that can be written is read as it was written, whatever is annotated
outside of the configuration; so it has the sources that it has in a custom resource. -/
theorem configuration_of_annotations {entries : List AnnotatedEntry} {a : TextMap}
    (written : AnnotatedConfiguration entries)
    (same : ∀ key, hasPrefix (WellKnown.vendorPrefix ++ configurationKey) key = true →
      a.get? key = (annotationsOf entries).get? key) :
    configuration a = .ok (entries.map (·.entry)) ∧
      (configuration a).bind Source.ofEntries = Source.ofEntries (entries.map (·.entry)) := by
  have agree : Agree .config a (annotationsOf entries) := by
    intro key concerns
    exact same key (configuration_of_partOf? concerns)
  have read : configuration a = .ok (entries.map (·.entry)) := by
    rw [agree.configuration]
    exact written.configuration_annotationsOf
  refine ⟨read, ?_⟩
  rw [read]
  rfl

/-- Sources of all kinds, whose groups are not in the order of their names, with two headers, and
with a registration field that has more values than there are digits. -/
def gatheredSources : List AnnotatedEntry :=
  [{ group := "zones"
     order := -5
     entry := { ConfigurationEntry.bare .web with
       url := some "https://zones.example.com"
       headers := [⟨.literal, "Accept", "application/yaml", none⟩,
         ⟨.secret, "Authorization", "zone-tokens", some "reader"⟩] }
     headerNames := ["accept", "auth"]
     postDataNames := [] },
   { group := "base"
     order := 2
     entry := { ConfigurationEntry.bare .literal with value := some "gateway: {}" }
     headerNames := []
     postDataNames := [] },
   { group := "routes"
     order := 2
     entry := { ConfigurationEntry.bare .configMap with
       name := some "edge-routes", dataKey := some "routes.yaml" }
     headerNames := []
     postDataNames := [] },
   { group := "client"
     order := 10
     entry := { ConfigurationEntry.bare .oidcRegistration with
       discoveryEndpoint := some "https://id.example.com"
       secret := some "edge-client"
       postData := [⟨"client_name", some "edge", none⟩,
         ⟨"redirect_uris", none, some ["/a", "/b", "/c", "/d", "/e", "/f", "/g", "/h", "/i", "/j",
           "/k", "/l"]⟩] }
     headerNames := []
     postDataNames := ["name", "uris"] }]

theorem gatheredSources_read : AnnotatedConfiguration gatheredSources ∧
    (annotationsOf gatheredSources).get?
      "app-gateway.operator.dev/configuration.client.postData.uris.values.10" = some "/k" ∧
    configuration (((annotationsOf gatheredSources).insert "team" "edge").insert
        "app-gateway.operator.dev/deployment.image" "gateway:24.12") =
      .ok (gatheredSources.map (·.entry)) := by
  have written : AnnotatedConfiguration gatheredSources := by decide +kernel
  have same : ∀ key, hasPrefix (WellKnown.vendorPrefix ++ configurationKey) key = true →
      (((annotationsOf gatheredSources).insert "team" "edge").insert
        "app-gateway.operator.dev/deployment.image" "gateway:24.12").get? key =
      (annotationsOf gatheredSources).get? key := by
    intro key started
    rw [Dict.get?_insert_of_ne, Dict.get?_insert_of_ne]
    · rintro rfl
      revert started
      decide
    · rintro rfl
      revert started
      decide
  refine ⟨written, ?_, (configuration_of_annotations written same).1⟩
  -- The value is the eleventh one of the second field of the last entry.
  refine (get?_annotationsOf written).mpr
    ⟨gatheredSources[3], List.getElem_mem _, ["postData", "uris", "values", "10"], ?_, by decide⟩
  decide +kernel

end GatewayOperator
