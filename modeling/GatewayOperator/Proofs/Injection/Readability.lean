import GatewayOperator.Proofs.Injection.Decoding
import Mathlib.Data.Finset.Card

/-!
# Which annotations can be read

Annotations are written by hand, so any texts may stand in them.  This module says which of them
hold a configuration, in which order its entries are read, and what a change of one group does to
the others.

## Main Definitions

* `Annotations.HasGroup` — there is a key of a group.
* `Annotations.ReadableGroup`, `Annotations.Readable` — the fields of a group, and all annotations,
  can be read.
* `Annotations.Arranged` — the groups with their entries, in the order in which they are read.

## Main Statements

* `Annotations.exists_decodeGroup_iff` — a group is read exactly if its fields can be.
* `Annotations.exists_configuration_iff` — annotations are read exactly if they are readable.
* `Annotations.exists_arranged` — what is read is one entry for each group, in their order.
* `Annotations.Arranged.filter_eq` — entries of other groups stay as they were, and in their order.
* `Annotations.configuration_arranged` — all of this about any annotations.

## Design Notes

Keys that belong to no group are never looked at, and neither are headers without a name or a type.
A name of a group or header ends at the first dot, so in the statements names have none; the empty
text is a name of a group like any other.
-/

namespace GatewayOperator

/-! ### Names of kinds -/

theorem SourceKind.ofName?_eq_some_iff {name : String} {kind : SourceKind} :
    SourceKind.ofName? name = some kind ↔ name = kind.name := by
  constructor
  · intro found
    unfold SourceKind.ofName? at found
    have same := List.find?_some found
    exact (of_decide_eq_true same).symm
  · rintro rfl
    cases kind <;> rfl

theorem SourceKind.name_inj {kind kind' : SourceKind} : kind.name = kind'.name ↔ kind = kind' := by
  cases kind <;> cases kind' <;> decide

theorem HeaderKind.ofName?_eq_some_iff {name : String} {kind : HeaderKind} :
    HeaderKind.ofName? name = some kind ↔ name = kind.name := by
  constructor
  · intro found
    unfold HeaderKind.ofName? at found
    have same := List.find?_some found
    exact (of_decide_eq_true same).symm
  · rintro rfl
    cases kind <;> rfl

namespace Annotations

variable {a b : TextMap} {name changed : String} {fields : TextMap} {e : OrderedEntry}

/-! ### One group -/

/-- The fields of a group can be read. -/
structure ReadableGroup (field? : String → Option String) : Prop where
  /-- Its kind is a known one. -/
  kind : ∃ kind : SourceKind, field? "type" = some kind.name
  /-- Its order is a 64-bit integer between blanks. -/
  order : ∃ text order, field? "order" = some text ∧ Text.PaddedInt64 text order
  /-- For a web source the kind of every header is a known one, if header and kind have a name. -/
  headers : field? "type" = some "web" → ∀ header type, header ≠ "" → Text.Dotless header →
    field? ("header." ++ header ++ ".type") = some type → type ≠ "" →
      ∃ kind : HeaderKind, type = kind.name

theorem decodeKind_eq_ok_iff {kind : SourceKind} :
    decodeKind name fields = .ok kind ↔ fields.get? "type" = some kind.name := by
  unfold decodeKind
  cases fields.get? "type" with
  | none => simp
  | some text =>
    rw [Option.some.injEq, ← SourceKind.ofName?_eq_some_iff]
    unfold SourceKind.read
    dsimp only
    cases SourceKind.ofName? text <;> simp [Except.mapError]

theorem decodeOrder_eq_ok_iff {order : Int} : decodeOrder name fields = .ok order ↔
    ∃ text, fields.get? "order" = some text ∧ Text.PaddedInt64 text order := by
  simp only [← Text.readInt64_trim_eq_ok_iff]
  unfold decodeOrder
  cases fields.get? "order" with
  | none =>
    -- Nothing is no number.
    have empty : Text.readInt64 (Text.trim "") = .error .empty := rfl
    simp [empty]
  | some text =>
    simp only [Option.getD_some, Option.some.injEq, exists_eq_left']
    cases Text.readInt64 (Text.trim text) <;> simp

theorem exists_decodeHeader_iff {header : String} :
    (∃ h, decodeHeader fields header = .ok h) ↔
      ∀ type, fields.get? ("header." ++ header ++ ".type") = some type → type ≠ "" →
        ∃ kind : HeaderKind, type = kind.name := by
  have key : subgroupPrefix headerSection header ++ "type" = "header." ++ header ++ ".type" := by
    simp [subgroupPrefix, headerSection, String.append_assoc]
  unfold decodeHeader
  dsimp only
  rw [key]
  cases found : (fields.get? ("header." ++ header ++ ".type")).bind Text.nonEmpty? with
  | none =>
    refine iff_of_true ⟨none, rfl⟩ fun type present nonempty => ?_
    rw [Text.bind_nonEmpty?_eq_some_iff.mpr ⟨present, nonempty⟩] at found
    cases found
  | some type =>
    obtain ⟨present, nonempty⟩ := Text.bind_nonEmpty?_eq_some_iff.mp found
    dsimp only
    cases known : HeaderKind.ofName? type with
    | none =>
      refine iff_of_false (by simp) fun all => ?_
      obtain ⟨kind, same⟩ := all type present nonempty
      rw [HeaderKind.ofName?_eq_some_iff.mpr same] at known
      cases known
    | some kind =>
      refine iff_of_true ⟨_, rfl⟩ fun type' present' _ => ⟨kind, ?_⟩
      rw [present] at present'
      cases present'
      exact HeaderKind.ofName?_eq_some_iff.mp known

/-- A header that has a type has a subgroup. -/
theorem mem_subgroups_header {header : String} (nonempty : header ≠ "")
    (dotless : Text.Dotless header) {type : String}
    (found : fields.get? ("header." ++ header ++ ".type") = some type) :
    header ∈ subgroups fields headerSection := by
  refine mem_subgroups_iff.mpr ⟨nonempty, header ++ ".type", ?_, ?_⟩
  · have key : headerSection ++ (header ++ ".type") = "header." ++ header ++ ".type" := by
      rw [headerSection, String.append_assoc]
    rw [key, found]
    simp
  · exact Text.takeWhile_dotted dotless ["type"]

theorem dotless_of_mem_subgroups {section_ : String} (mem : name ∈ subgroups fields section_) :
    Text.Dotless name := by
  obtain ⟨-, rest, -, rfl⟩ := mem_subgroups_iff.mp mem
  intro dot
  rw [String.toList_ofList] at dot
  have := List.all_eq_true.mp (List.all_takeWhile (p := fun c => decide (c ≠ '.'))) '.' dot
  cases this

theorem exists_decodeHeaders_iff : (∃ headers, decodeHeaders fields = .ok headers) ↔
    ∀ header type, header ≠ "" → Text.Dotless header →
      fields.get? ("header." ++ header ++ ".type") = some type → type ≠ "" →
        ∃ kind : HeaderKind, type = kind.name := by
  have each : (∃ headers, decodeHeaders fields = .ok headers) ↔
      ∀ header ∈ subgroups fields headerSection, ∃ h, decodeHeader fields header = .ok h := by
    rw [← exists_mapM_eq_ok_iff]
    unfold decodeHeaders
    simp only [bind_eq_ok_iff]
    exact ⟨fun ⟨_, headers, read, _⟩ => ⟨headers, read⟩,
      fun ⟨headers, read⟩ => ⟨_, headers, read, rfl⟩⟩
  rw [each]
  constructor
  · intro read header type nonempty dotless found
    exact exists_decodeHeader_iff.mp (read header (mem_subgroups_header nonempty dotless found))
      type found
  · intro known header mem
    have nonempty : header ≠ "" := (mem_subgroups_iff.mp mem).1
    exact exists_decodeHeader_iff.mpr fun type =>
      known header type nonempty (dotless_of_mem_subgroups mem)

theorem exists_decodeFields_iff {kind : SourceKind} :
    (∃ entry, decodeFields kind fields = .ok entry) ↔
      (kind = .web → ∃ headers, decodeHeaders fields = .ok headers) := by
  cases kind with
  | literal => exact iff_of_true ⟨_, rfl⟩ fun impossible => by cases impossible
  | configMap => exact iff_of_true ⟨_, rfl⟩ fun impossible => by cases impossible
  | oidcRegistration => exact iff_of_true ⟨_, rfl⟩ fun impossible => by cases impossible
  | web =>
    unfold decodeFields
    dsimp only
    cases decodeHeaders fields <;> simp [Except.map]

/-- The kind of an entry is the one that it is decoded for. -/
theorem kind_of_decodeFields {kind : SourceKind} {entry : ConfigurationEntry}
    (decoded : decodeFields kind fields = .ok entry) : entry.kind = kind := by
  cases kind with
  | literal =>
    cases decoded
    rfl
  | configMap =>
    cases decoded
    rfl
  | oidcRegistration =>
    cases decoded
    rfl
  | web =>
    unfold decodeFields at decoded
    dsimp only at decoded
    cases headers : decodeHeaders fields with
    | error failure =>
      rw [headers] at decoded
      cases decoded
    | ok headers =>
      rw [headers] at decoded
      cases decoded
      rfl

theorem decodeGroup_eq_ok_iff : decodeGroup name fields = .ok e ↔
    ∃ kind, decodeKind name fields = .ok kind ∧ decodeOrder name fields = .ok e.order ∧
      decodeFields kind fields = .ok e.entry := by
  unfold decodeGroup
  simp only [bind_eq_ok_iff]
  constructor
  · rintro ⟨kind, known, order, ordered, entry, decoded, ⟨⟩⟩
    exact ⟨kind, known, ordered, decoded⟩
  · rintro ⟨kind, known, ordered, decoded⟩
    exact ⟨kind, known, e.order, ordered, e.entry, decoded, rfl⟩

/-- The kind of an entry stands in its group. -/
theorem type_of_decodeGroup (decoded : decodeGroup name fields = .ok e) :
    fields.get? "type" = some e.entry.kind.name := by
  obtain ⟨kind, known, -, decoded⟩ := decodeGroup_eq_ok_iff.mp decoded
  rw [kind_of_decodeFields decoded]
  exact decodeKind_eq_ok_iff.mp known

/-- A group is read exactly if its fields can be. -/
theorem exists_decodeGroup_iff :
    (∃ e, decodeGroup name fields = .ok e) ↔ ReadableGroup fields.get? := by
  simp only [decodeGroup_eq_ok_iff]
  constructor
  · rintro ⟨e, kind, known, ordered, decoded⟩
    have type := decodeKind_eq_ok_iff.mp known
    refine ⟨⟨kind, type⟩, ?_, fun web => ?_⟩
    · obtain ⟨text, found, read⟩ := decodeOrder_eq_ok_iff.mp ordered
      exact ⟨text, e.order, found, read⟩
    · have isWeb : kind = .web :=
        SourceKind.name_inj.mp (Option.some.inj (type.symm.trans web))
      exact exists_decodeHeaders_iff.mp (exists_decodeFields_iff.mp ⟨_, decoded⟩ isWeb)
  · rintro ⟨⟨kind, type⟩, ⟨text, order, found, read⟩, headers⟩
    have decodable : ∃ entry, decodeFields kind fields = .ok entry := by
      refine exists_decodeFields_iff.mpr fun isWeb => exists_decodeHeaders_iff.mpr (headers ?_)
      rw [type, isWeb]
      rfl
    obtain ⟨entry, decoded⟩ := decodable
    exact ⟨⟨order, entry⟩, kind, decodeKind_eq_ok_iff.mpr type,
      decodeOrder_eq_ok_iff.mpr ⟨text, found, read⟩, decoded⟩

/-! ### All groups -/

/-- There is a key of a group. -/
def HasGroup (a : TextMap) (name : String) : Prop :=
  Text.Dotless name ∧ ∃ field value, a.get? (groupKey name field) = some value

/-- Annotations hold a configuration. -/
structure Readable (a : TextMap) : Prop where
  /-- There is a group. -/
  nonempty : ∃ name, HasGroup a name
  /-- The fields of each group can be read. -/
  groups : ∀ name, HasGroup a name → ReadableGroup fun field => a.get? (groupKey name field)
  /-- At most one group is a registration. -/
  registration : ∀ name name', Text.Dotless name → Text.Dotless name' →
    a.get? (groupKey name "type") = some "oidc_registration" →
      a.get? (groupKey name' "type") = some "oidc_registration" → name = name'

/-- The entry of one group is read before the one of another: by their orders, and where these are
equal, by the names of the groups. -/
def Precedes (x y : String × OrderedEntry) : Prop :=
  x.2.order < y.2.order ∨ x.2.order = y.2.order ∧ x.1 < y.1

/-- The groups with their entries, in the order in which they are read. -/
structure Arranged (a : TextMap) (read : List (String × OrderedEntry)) : Prop where
  /-- No group is read twice. -/
  distinct : (read.map (·.1)).Nodup
  /-- Each group is read. -/
  groups : ∀ name, name ∈ read.map (·.1) ↔ HasGroup a name
  /-- Its entry is made of the fields of the group. -/
  decoded : ∀ item ∈ read, decodeGroup item.1 (group a item.1) = .ok item.2
  /-- The entries stand in their order. -/
  ascending : read.Pairwise Precedes

theorem Precedes.asymm {x y : String × OrderedEntry} (before : Precedes x y) : ¬Precedes y x := by
  rintro (less | ⟨same, after⟩)
  · rcases before with less' | ⟨same', -⟩
    · exact Int.lt_asymm less less'
    · omega
  · rcases before with less' | ⟨-, before⟩
    · omega
    · exact String.lt_asymm before after

theorem get?_group_eq (dotless : Text.Dotless name) :
    (group a name).get? = fun field => a.get? (groupKey name field) :=
  funext (get?_group dotless)

/-- The groups of a list of entries that could be read. -/
theorem decodeGroups_eq_ok_iff {ordered : List OrderedEntry} : decodeGroups a = .ok ordered ↔
    ∃ named : List (String × OrderedEntry), named.map (·.1) = groupNames a ∧
      named.map (·.2) = ordered ∧
      ∀ item ∈ named, decodeGroup item.1 (group a item.1) = .ok item.2 :=
  mapM_eq_ok_iff

theorem exists_decodeGroups_iff : (∃ ordered, decodeGroups a = .ok ordered) ↔
    ∀ name, HasGroup a name → ReadableGroup fun field => a.get? (groupKey name field) := by
  unfold decodeGroups
  rw [exists_mapM_eq_ok_iff]
  refine forall_congr' fun name => ?_
  rw [mem_groupNames_iff]
  refine forall_congr' fun there => ?_
  rw [exists_decodeGroup_iff, get?_group_eq there.1]

/-- A configuration is read exactly if every group is, if there are any, and if at most one of them
is a registration. -/
theorem configuration_eq_ok_iff {entries : List ConfigurationEntry} :
    configuration a = .ok entries ↔ ∃ ordered, decodeGroups a = .ok ordered ∧
      ¬1 < registrationCount ordered ∧ ordered ≠ [] ∧
      entries = (ordered.mergeSort fun x y => x.order ≤ y.order).map (·.entry) := by
  constructor
  · intro read
    obtain ⟨ordered, decoded, rest⟩ := bind_eq_ok_iff.mp read
    have few : ¬1 < registrationCount ordered := by
      intro many
      rw [if_pos many] at rest
      cases rest
    rw [if_neg few] at rest
    have some_ : ordered ≠ [] := by
      rintro rfl
      cases rest
    have nonempty : ¬ordered.isEmpty = true := fun empty => some_ (List.isEmpty_iff.mp empty)
    rw [if_neg nonempty] at rest
    cases rest
    exact ⟨ordered, decoded, few, some_, rfl⟩
  · rintro ⟨ordered, decoded, few, some_, rfl⟩
    exact configuration_of_decodeGroups decoded few some_

theorem nodup_groupNames (a : TextMap) : (groupNames a).Nodup :=
  (ascending_sortedDistinct _).imp fun less => String.ne_of_lt less

/-- Whether the type of a group is that of registrations. -/
def isRegistration (a : TextMap) (name : String) : Bool :=
  a.get? (groupKey name "type") = some "oidc_registration"

/-- The names of the groups that are registrations. -/
def registrations (a : TextMap) : List String := (groupNames a).filter (isRegistration a)

theorem mem_registrations_iff : name ∈ registrations a ↔
    Text.Dotless name ∧ a.get? (groupKey name "type") = some "oidc_registration" := by
  unfold registrations isRegistration
  rw [List.mem_filter, mem_groupNames_iff, decide_eq_true_eq]
  constructor
  · rintro ⟨⟨dotless, -⟩, type⟩
    exact ⟨dotless, type⟩
  · rintro ⟨dotless, type⟩
    exact ⟨⟨dotless, "type", _, type⟩, type⟩

section

variable {named : List (String × OrderedEntry)} (names : named.map (·.1) = groupNames a)
  (decoded : ∀ item ∈ named, decodeGroup item.1 (group a item.1) = .ok item.2)

include names

theorem hasGroup_of_mem {item : String × OrderedEntry} (mem : item ∈ named) :
    HasGroup a item.1 := by
  have named_ : item.1 ∈ named.map (·.1) := List.mem_map_of_mem mem
  rw [names] at named_
  exact mem_groupNames_iff.mp named_

include decoded

/-- The type of a group is that of its entry. -/
theorem isRegistration_iff {item : String × OrderedEntry} (mem : item ∈ named) :
    item.2.entry.kind = .oidcRegistration ↔
      a.get? (groupKey item.1 "type") = some "oidc_registration" := by
  have type := type_of_decodeGroup (decoded item mem)
  rw [get?_group (hasGroup_of_mem names mem).1] at type
  rw [type, Option.some.injEq]
  exact SourceKind.name_inj.symm

theorem registrationCount_eq :
    registrationCount (named.map (·.2)) = (registrations a).length := by
  calc registrationCount (named.map (·.2))
    _ = (named.filter fun item => item.2.entry.kind = .oidcRegistration).length := by
      unfold registrationCount
      rw [List.filter_map, List.length_map]
      rfl
    _ = (named.filter fun item => isRegistration a item.1).length := by
      refine congrArg List.length (List.filter_congr fun item mem => ?_)
      exact decide_eq_decide.mpr (isRegistration_iff names decoded mem)
    _ = ((named.map (·.1)).filter (isRegistration a)).length := by
      rw [List.filter_map, List.length_map]
      rfl
    _ = (registrations a).length := by rw [names, registrations]

/-- At most one entry is a registration exactly if at most one group is. -/
theorem few_registrations_iff : ¬1 < registrationCount (named.map (·.2)) ↔
    ∀ name name', Text.Dotless name → Text.Dotless name' →
      a.get? (groupKey name "type") = some "oidc_registration" →
        a.get? (groupKey name' "type") = some "oidc_registration" → name = name' := by
  have nodup : (registrations a).Nodup := (nodup_groupNames a).filter _
  rw [registrationCount_eq names decoded, Nat.not_lt, ← List.toFinset_card_of_nodup nodup,
    Finset.card_le_one]
  simp only [List.mem_toFinset, mem_registrations_iff]
  exact ⟨fun one name name' dotless dotless' type type' =>
      one name ⟨dotless, type⟩ name' ⟨dotless', type'⟩,
    fun one name there name' there' => one name name' there.1 there'.1 there.2 there'.2⟩

end

/-- Exactly the readable annotations hold a configuration. -/
theorem exists_configuration_iff : (∃ entries, configuration a = .ok entries) ↔ Readable a := by
  constructor
  · rintro ⟨entries, read⟩
    obtain ⟨ordered, groups, few, some_, -⟩ := configuration_eq_ok_iff.mp read
    obtain ⟨named, names, rfl, decoded⟩ := decodeGroups_eq_ok_iff.mp groups
    refine ⟨?_, exists_decodeGroups_iff.mp ⟨_, groups⟩,
      (few_registrations_iff names decoded).mp few⟩
    obtain ⟨e, mem⟩ := List.exists_mem_of_ne_nil _ some_
    obtain ⟨item, mem, -⟩ := List.mem_map.mp mem
    exact ⟨item.1, hasGroup_of_mem names mem⟩
  · rintro ⟨⟨name, there⟩, groups, one⟩
    obtain ⟨ordered, groups⟩ := exists_decodeGroups_iff.mpr groups
    obtain ⟨named, names, rfl, decoded⟩ := decodeGroups_eq_ok_iff.mp groups
    have some_ : named.map (·.2) ≠ [] := by
      intro none_
      have mem := mem_groupNames_iff.mpr there
      rw [← names, List.map_eq_nil_iff.mp none_] at mem
      cases mem
    exact ⟨_, configuration_eq_ok_iff.mpr
      ⟨_, groups, (few_registrations_iff names decoded).mpr one, some_, rfl⟩⟩

/-- The entries that are read are those of the groups, in their order. -/
theorem exists_arranged {entries : List ConfigurationEntry} (read : configuration a = .ok entries) :
    ∃ items, Arranged a items ∧ entries = items.map fun item => item.2.entry := by
  obtain ⟨ordered, groups, -, -, rfl⟩ := configuration_eq_ok_iff.mp read
  obtain ⟨named, names, rfl, decoded⟩ := decodeGroups_eq_ok_iff.mp groups
  have perm := List.mergeSort_perm named fun x y => x.2.order ≤ y.2.order
  have ascending : named.Pairwise fun x y => x.1 < y.1 := by
    rw [← List.pairwise_map, names]
    exact ascending_sortedDistinct _
  refine ⟨named.mergeSort fun x y => x.2.order ≤ y.2.order, ⟨?_, fun name => ?_, ?_, ?_⟩, ?_⟩
  · rw [(perm.map _).nodup_iff, names]
    exact nodup_groupNames a
  · rw [(perm.map _).mem_iff, names]
    exact mem_groupNames_iff
  · exact fun item mem => decoded item (perm.mem_iff.mp mem)
  · exact pairwise_mergeSort_key ascending
  · have sorted : (named.mergeSort fun x y => x.2.order ≤ y.2.order).map (·.2) =
        (named.map (·.2)).mergeSort fun x y => x.order ≤ y.order :=
      List.map_mergeSort fun _ _ _ _ => rfl
    rw [← sorted, List.map_map]
    rfl

namespace Arranged

variable {items items' : List (String × OrderedEntry)}

theorem mem_iff (arranged : Arranged a items) {item : String × OrderedEntry} : item ∈ items ↔
    HasGroup a item.1 ∧ decodeGroup item.1 (group a item.1) = .ok item.2 := by
  constructor
  · intro mem
    exact ⟨(arranged.groups _).mp (List.mem_map_of_mem mem), arranged.decoded item mem⟩
  · rintro ⟨there, decoded⟩
    obtain ⟨other, mem, same⟩ := List.mem_map.mp ((arranged.groups _).mpr there)
    have decoded' := arranged.decoded other mem
    rw [same, decoded] at decoded'
    rwa [Prod.ext same (Except.ok.inj decoded').symm] at mem

/-- Where one group is changed, the entries of the others stay as they were, in the order in which
they stood. -/
theorem filter_eq (before : Arranged a items) (after : Arranged b items')
    (same : ∀ name field, name ≠ changed → Text.Dotless name →
      a.get? (groupKey name field) = b.get? (groupKey name field)) :
    (items.filter fun item => item.1 ≠ changed) = items'.filter fun item => item.1 ≠ changed := by
  have sameGroup {name : String} (other : name ≠ changed) (dotless : Text.Dotless name) :
      group a name = group b name := by
    refine Dict.ext (Assoc.eq_of_lookup (group a name).ascending (group b name).ascending ?_)
    intro field
    calc (group a name).get? field
      _ = a.get? (groupKey name field) := get?_group dotless field
      _ = b.get? (groupKey name field) := same name field other dotless
      _ = (group b name).get? field := (get?_group dotless field).symm
  have sameNames {name : String} (other : name ≠ changed) : HasGroup a name ↔ HasGroup b name := by
    refine and_congr_right fun dotless => exists_congr fun field => ?_
    rw [same name field other dotless]
  have nodup {c : TextMap} {l : List (String × OrderedEntry)} (arranged : Arranged c l) :
      (l.filter fun item => item.1 ≠ changed).Nodup := arranged.distinct.of_map.filter _
  refine List.Perm.eq_of_pairwise (fun x y _ _ less less' => absurd less' less.asymm)
    (before.ascending.filter _) (after.ascending.filter _) ?_
  rw [List.perm_ext_iff_of_nodup (nodup before) (nodup after)]
  intro item
  simp only [List.mem_filter, decide_eq_true_eq]
  refine and_congr_left fun other => ?_
  rw [before.mem_iff, after.mem_iff, sameNames other]
  refine and_congr_right fun there => ?_
  rw [sameGroup other there.1]

end Arranged

/-- **What is read of any annotations**: exactly the readable ones hold a configuration; it consists
of one entry for each group, which is made of the keys of that group, by their orders and then by
the names of the groups; and where only keys of one group differ, the entries of all others are the
same, in the same order. -/
theorem configuration_arranged (a : TextMap) :
    ((∃ entries, configuration a = .ok entries) ↔ Readable a) ∧
    (∀ entries, configuration a = .ok entries →
      ∃ items, Arranged a items ∧ entries = items.map fun item => item.2.entry) ∧
    (∀ b changed items items', Arranged a items → Arranged b items' →
      (∀ name field, name ≠ changed → Text.Dotless name →
        a.get? (groupKey name field) = b.get? (groupKey name field)) →
      (items.filter fun item => item.1 ≠ changed) =
        items'.filter fun item => item.1 ≠ changed) :=
  ⟨exists_configuration_iff, fun _ read => exists_arranged read,
    fun _ _ _ _ before after same => before.filter_eq after same⟩

/-- The keys of a group are written for the entry of that group. -/
theorem get?_annotationsOf_congr {entries entries' : List AnnotatedEntry} {field : String}
    (written : AnnotatedConfiguration entries) (written' : AnnotatedConfiguration entries')
    (dotless : Text.Dotless name)
    (same : ∀ e : AnnotatedEntry, e.group = name → (e ∈ entries ↔ e ∈ entries')) :
    (annotationsOf entries).get? (groupKey name field) =
      (annotationsOf entries').get? (groupKey name field) := by
  refine Option.ext fun v => ?_
  rw [get?_annotationsOf written, get?_annotationsOf written']
  constructor
  · rintro ⟨e, here, p, mem, key⟩
    have named := (groupKey_inj dotless (written.wellNamed e here).group key).1
    exact ⟨e, (same e named.symm).mp here, p, mem, key⟩
  · rintro ⟨e, here, p, mem, key⟩
    have named := (groupKey_inj dotless (written'.wellNamed e here).group key).1
    exact ⟨e, (same e named.symm).mpr here, p, mem, key⟩

/-- Two entries of the same place. -/
def sampleEntries : List AnnotatedEntry :=
  [⟨"base", 5, .bare .literal, [], []⟩, ⟨"tokens", 5, .bare .web, [], []⟩]

/-- An entry that can be placed before them or after them. -/
def zonesAt (place : Int) : AnnotatedEntry := ⟨"zones", place, .bare .configMap, [], []⟩

/-- One entry is moved from the first place to the last one, and the others stay in their order. -/
theorem zonesAt_arranged : ¬Readable ∅ ∧ ∃ items items',
    Arranged (annotationsOf (zonesAt (-1) :: sampleEntries)) items ∧
    Arranged (annotationsOf (sampleEntries ++ [zonesAt 9])) items' ∧
    items.map (·.2.entry.kind) = [.configMap, .literal, .web] ∧
    items'.map (·.2.entry.kind) = [.literal, .web, .configMap] ∧
    (items.filter fun item => item.1 ≠ "zones") = items'.filter fun item => item.1 ≠ "zones" := by
  have unreadable : ¬Readable ∅ := by
    intro readable
    obtain ⟨entries, read⟩ := (configuration_arranged ∅).1.mpr readable
    have refused : configuration ∅ = .error (.validation .noEntries) := by decide
    rw [refused] at read
    cases read
  have first : AnnotatedConfiguration (zonesAt (-1) :: sampleEntries) := by decide +kernel
  have last : AnnotatedConfiguration (sampleEntries ++ [zonesAt 9]) := by decide +kernel
  obtain ⟨items, arranged, same⟩ :=
    (configuration_arranged _).2.1 _ first.configuration_annotationsOf
  obtain ⟨items', arranged', same'⟩ :=
    (configuration_arranged _).2.1 _ last.configuration_annotationsOf
  refine ⟨unreadable, items, items', arranged, arranged', ?_, ?_, ?_⟩
  · have kinds := congrArg (List.map ConfigurationEntry.kind) same
    rw [List.map_map, List.map_map] at kinds
    exact kinds.symm
  · have kinds := congrArg (List.map ConfigurationEntry.kind) same'
    rw [List.map_map, List.map_map] at kinds
    exact kinds.symm
  · refine (configuration_arranged _).2.2 _ "zones" items items' arranged arranged' ?_
    intro name field other dotless
    refine get?_annotationsOf_congr first last dotless fun e named => ?_
    have notZones (place : Int) : e ≠ zonesAt place := by
      rintro rfl
      exact other named.symm
    rw [List.mem_cons, List.mem_append, List.mem_singleton]
    simp only [notZones, false_or, or_false]

end Annotations

end GatewayOperator
