import GatewayOperator.Gateway.EntryJson
import GatewayOperator.Proofs.Json.Reading
import GatewayOperator.Proofs.Json.RoundTrip

/-!
# Records carried by JSON

A record is written field by field, and read field by field.  It is read as it was written if each
field is.

## Main Definitions

* `Json.Carries` — what is written for a value is read as it.
* `Json.Survives` — a value is read back from what is written for it, and from the text of that.

## Main Statements

* `Json.members?_record` — the fields of a record are those that were written.
* `Json.Carries.list`, `Json.Carries.optional`, `Json.Carries.present` — lists and fields that need
  not be set.
* `Json.Carries.survives` — what carries a value also does so as a text.
-/

namespace GatewayOperator.Json

variable {α : Type} {write : α → Json} {read : Read α} {room : Nat}

/-- What is written for a value is read as it, is not null, and has room in a text. -/
structure Carries (write : α → Json) (read : Read α) (room : Nat) (value : α) : Prop where
  /-- It fits into some nested containers. -/
  fits : Fits room (write value)
  /-- It is not taken for a value that is missing. -/
  notNull : write value ≠ .null
  /-- It is read as the value. -/
  back : read (write value) = some value

/-- A value is read back from what is written for it, and from the text of that. -/
def Survives (write : α → Json) (read : Read α) (value : α) : Prop :=
  read (write value) = some value ∧
    (Json.read (write value).write).toOption.bind read = some value

/-- An integer of 32 bits. -/
def IsInt32 (n : Int) : Prop := -(twoTo 31 : Int) ≤ n ∧ n ≤ twoTo 31 - 1

/-- An integer of 64 bits. -/
def IsInt64 (n : Int) : Prop := -(twoTo 63 : Int) ≤ n ∧ n ≤ twoTo 63 - 1

/-! ### Values -/

theorem Fits.mono {more : Nat} {value : Json} (fits : Fits room value) (le : room ≤ more) :
    Fits more value := by
  induction fits generalizing more with
  | null => exact .null
  | bool value => exact .bool value
  | string value => exact .string value
  | int least most => exact .int least most
  | array each ih =>
    obtain ⟨more, rfl⟩ := Nat.exists_eq_add_of_le' (Nat.le_of_add_left_le le)
    exact .array fun item mem => ih item mem (Nat.le_of_succ_le_succ le)
  | object each ih =>
    obtain ⟨more, rfl⟩ := Nat.exists_eq_add_of_le' (Nat.le_of_add_left_le le)
    exact .object fun field mem => ih field mem (Nat.le_of_succ_le_succ le)

theorem Carries.text (value : String) : Carries .string readText room value :=
  ⟨.string value, by simp, rfl⟩

attribute [simp] Fits.null Fits.bool Fits.string

@[simp] theorem readText_string (value : String) : readText (.string value) = some value := rfl

@[simp] theorem readBool_bool (value : Bool) : readBool (.bool value) = some value := rfl

@[simp] theorem required_some (v : Json) : required read (some v) = read v := rfl

@[simp] theorem defaulting_some (default : α) (v : Json) :
    defaulting default read (some v) = read v :=
  rfl

theorem readIntBetween_int {low high n : Int} (least : low ≤ n) (most : n ≤ high) :
    readIntBetween low high (.int n) = some n := by
  simp [readIntBetween, int, int?, least, most]

theorem Carries.int64 {n : Int} (h : IsInt64 n) : Carries .int readInt64 room n := by
  refine ⟨.int h.1 ?_, by simp [int], readIntBetween_int h.1 h.2⟩
  have := h.2
  have : twoTo 64 = twoTo 63 * 2 := twoTo_succ 63
  omega

theorem Carries.int32 {n : Int} (h : IsInt32 n) : Carries .int readInt32 room n := by
  have wider : IsInt64 n := by
    obtain ⟨least, most⟩ := h
    have : twoTo 31 ≤ twoTo 63 := by decide
    exact ⟨by omega, by omega⟩
  exact ⟨(Carries.int64 wider).fits, by simp [int], readIntBetween_int h.1 h.2⟩

/-- A list is carried if its items are. -/
theorem Carries.list {values : List α} (each : ∀ value ∈ values, Carries write read room value) :
    Carries (ofList write) (readList read) (room + 1) values := by
  refine ⟨.array ?_, by simp [ofList], mapM_map_of_forall fun value mem => (each value mem).back⟩
  simp only [List.forall_mem_map]
  exact fun value mem => (each value mem).fits

/-! ### Fields -/

/-- A field that is null if it is not set. -/
theorem Carries.optional {value : Option α} (each : ∀ a ∈ value, Carries write read room a) :
    Json.optional read (some (ofOption write value)) = some value := by
  cases value with
  | none => rfl
  | some a =>
    have carried := each a rfl
    show Json.optional read (some (write a)) = _
    unfold Json.optional
    split
    · next impossible => cases impossible
    · next null => exact absurd (Option.some.inj null) carried.notNull
    · next same => rw [← Option.some.inj same, carried.back, Option.map_some]

@[simp] theorem optional_ofOption_text (value : Option String) :
    Json.optional readText (some (ofOption .string value)) = some value := by
  have each : ∀ text ∈ value, Carries .string readText 0 text := fun text _ => .text text
  exact Carries.optional each

theorem fits_ofOption {value : Option α} (each : ∀ a ∈ value, Carries write read room a) :
    Fits room (ofOption write value) := by
  cases value with
  | none => exact .null
  | some a => exact (each a rfl).fits

/-- A field that is missing if it is not set. -/
theorem Carries.present {value : Option α} (each : ∀ a ∈ value, Carries write read room a) :
    Json.optional read (value.map write) = some value := by
  cases value with
  | none => rfl
  | some a => exact Carries.optional each

@[simp] theorem optional_map_text (value : Option String) :
    Json.optional readText (value.map .string) = some value := by
  have each : ∀ text ∈ value, Carries .string readText 0 text := fun text _ => .text text
  exact Carries.present each

theorem fits_map {value : Option α} (each : ∀ a ∈ value, Carries write read room a) :
    ∀ v ∈ value.map write, Fits room v := by
  intro v mem
  obtain ⟨a, set, rfl⟩ := Option.map_eq_some_iff.mp mem
  exact (each a set).fits

/-- A field that may be null may as well be missing. -/
theorem optional_filter (read : Read α) (field : Option Json) :
    Json.optional read (field.filter (!·.isNull)) = Json.optional read field := by
  cases field with
  | none => rfl
  | some v => cases v <;> rfl

/-- A list that is missing if it is empty. -/
theorem Carries.written {values : List α} (each : ∀ value ∈ values, Carries write read room value) :
    defaulting [] (readList read) (ConfigurationEntry.writtenList write values) = some values := by
  cases values with
  | nil => rfl
  | cons value rest => exact (Carries.list each).back

theorem fits_writtenList {values : List α}
    (each : ∀ value ∈ values, Carries write read room value) :
    ∀ v ∈ ConfigurationEntry.writtenList write values, Fits (room + 1) v := by
  intro v mem
  unfold ConfigurationEntry.writtenList at mem
  split at mem
  · cases mem
  · cases mem
    exact (Carries.list each).fits

/-! ### Records -/

/-- The fields of a record are those that were written. -/
theorem members?_object {names : List String} {fields : List (String × Json)}
    (distinct : (fields.map (·.1)).Nodup) (known : ∀ name ∈ fields.map (·.1), name ∈ names) :
    (Json.object fields).members? names = some fields := by
  have all : fields.filter (fun field => names.contains field.1) = fields := by
    refine List.filter_eq_self.mpr fun field mem => ?_
    simpa using known field.1 (List.mem_map_of_mem mem)
  unfold members?
  simp only [all, if_pos distinct]

/-- A record is read from the fields that the object has under its names. -/
theorem lookup_members? {names : List String} {fields known : List (String × Json)}
    (members : (Json.object fields).members? names = some known) {name : String}
    (mem : name ∈ names) : Assoc.lookup name known = (Json.object fields).get? name := by
  simp only [members?, Option.ite_none_right_eq_some, Option.some.injEq] at members
  obtain ⟨distinct, rfl⟩ := members
  rw [get?_object, ← Assoc.lookup_reverse distinct, ← List.filter_reverse,
    Assoc.lookup_filter (fun name => names.contains name), if_pos (by simpa using mem)]

/-- An object whose names are distinct is a record, whatever else is in it. -/
theorem exists_members? (names : List String) {fields : List (String × Json)}
    (distinct : (fields.map (·.1)).Nodup) :
    ∃ known, (Json.object fields).members? names = some known ∧
      ∀ name ∈ names, Assoc.lookup name known = Assoc.lookup name fields := by
  have single := (List.filter_sublist (p := fun field : String × Json => names.contains field.1)
    (l := fields)).map (·.1)
  have members : (Json.object fields).members? names = some _ := if_pos (single.nodup distinct)
  exact ⟨_, members, fun name mem =>
    (lookup_members? members mem).trans (Assoc.lookup_reverse distinct name)⟩

/-- The fields of a record that are set. -/
def presentFields (fields : List (String × Option Json)) : List (String × Json) :=
  fields.filterMap fun field => field.2.map (field.1, ·)

theorem names_presentFields (fields : List (String × Option Json)) :
    ((presentFields fields).map (·.1)).Sublist (fields.map (·.1)) := by
  induction fields with
  | nil => exact .slnil
  | cons field rest ih =>
    obtain ⟨name, value⟩ := field
    cases value with
    | none => exact ih.cons name
    | some value => exact ih.cons_cons name

theorem members?_record {names : List String} {fields : List (String × Option Json)}
    (distinct : (fields.map (·.1)).Nodup) (known : ∀ name ∈ fields.map (·.1), name ∈ names) :
    (Json.record fields).members? names = some (presentFields fields) :=
  members?_object ((names_presentFields fields).nodup distinct)
    fun name mem => known name ((names_presentFields fields).subset mem)

/-- A field of a record is what was written for it, if anything was. -/
theorem lookup_presentFields {fields : List (String × Option Json)}
    (distinct : (fields.map (·.1)).Nodup) (name : String) :
    Assoc.lookup name (presentFields fields) = (Assoc.lookup name fields).join := by
  induction fields with
  | nil => rfl
  | cons field rest ih =>
    obtain ⟨key, value⟩ := field
    rw [List.map_cons, List.nodup_cons] at distinct
    rw [Assoc.lookup_cons]
    cases value with
    | some value =>
      show Assoc.lookup name ((key, value) :: presentFields rest) = _
      rw [Assoc.lookup_cons, ih distinct.2]
      split <;> rfl
    | none =>
      show Assoc.lookup name (presentFields rest) = _
      rw [ih distinct.2]
      split
      · next same =>
        have missing : Assoc.lookup name rest = none := by
          refine Assoc.lookup_eq_none_iff.mpr fun entry mem other => distinct.1 ?_
          rw [same, ← other]
          exact List.mem_map.mpr ⟨entry, mem, rfl⟩
        rw [missing]
        rfl
      · rfl

theorem fits_record {fields : List (String × Option Json)}
    (each : ∀ field ∈ fields, ∀ v ∈ field.2, Fits room v) : Fits (room + 1) (record fields) := by
  refine .object fun field mem => ?_
  simp only [List.mem_filterMap, Option.map_eq_some_iff] at mem
  obtain ⟨written, mem, v, set, rfl⟩ := mem
  exact each written mem v set

/-! ### Texts -/

/-- **Carried values survive**: a value is read back, also from a text, if the containers of what is
written for it are not nested too deeply. -/
theorem Carries.survives {value : α} (c : Carries write read room value)
    (le : room ≤ Builder.depthLimit) : Survives write read value := by
  refine ⟨c.back, ?_⟩
  rw [read_write (c.fits.mono le)]
  exact c.back

end GatewayOperator.Json
