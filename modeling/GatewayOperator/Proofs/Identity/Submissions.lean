import GatewayOperator.Identity.Client
import GatewayOperator.Proofs.Identity.Scopes
import GatewayOperator.Proofs.Json.Carrying
import GatewayOperator.Proofs.Text.Forms
import GatewayOperator.Source

/-!
# What a registration submits

The fields of a registration are sent to the provider as one object, in which no name stands twice.
Of the fields of one name the last one is sent, whereas the scopes of a token request are those of
the first one.

## Main Definitions

* `FieldValue.ofJson?` — the value of a field, as a provider reads it.
* `Registration.submitted?` — what a provider is told under a name.
* `Registration.asked?` — what a token is asked for with, under a name.
* `Registration.IsFirst`, `Registration.IsLast` — the first and the last field of a name.

## Main Statements

* `Registration.submitted?_eq` — a provider is told the value of the last field of a name.
* `Registration.asked?_scope` — in the form of a token request stand the scopes of the first field.
* `Registration.tokenScopes_agree_iff` — the two requests agree on the scopes exactly if the first
  and the last field do.
* `Registration.repeated_scopes_disagree` — entries that are accepted need not agree.
-/

namespace GatewayOperator

open Json

/-- Reads the value of a field. -/
def FieldValue.ofJson? : Json.Read FieldValue
  | .string value => some (.single value)
  | .array items => (items.mapM readText).map .multiple
  | _ => none

theorem FieldValue.ofJson?_toJson (value : FieldValue) : ofJson? value.toJson = some value := by
  cases value with
  | single value => rfl
  | multiple values =>
    have texts : (values.map Json.string).mapM readText = some values :=
      mapM_map_of_forall fun value _ => rfl
    exact congrArg (Option.map FieldValue.multiple) texts

theorem FieldValue.fits (value : FieldValue) : Fits 1 value.toJson := by
  cases value with
  | single value => exact .string value
  | multiple values => exact .array (by simp)

namespace Registration

variable {r : Registration}

/-- What a provider is told under a name. -/
def submitted? (r : Registration) (name : String) : Option FieldValue :=
  (((Json.read r.body.write).toOption).bind (·.get? name)).bind FieldValue.ofJson?

/-- The value of the last field of a name. -/
def lastValue? (r : Registration) (name : String) : Option FieldValue :=
  (r.postData.reverse.find? fun field => field.name = name).map (·.value)

theorem lookup_fields (name : String) (fields : List RegistrationField) :
    Assoc.lookup name (fields.map fun field => (field.name, field.value.toJson)) =
      (fields.find? fun field => field.name = name).map (·.value.toJson) := by
  induction fields with
  | nil => rfl
  | cons field rest ih =>
    rw [List.map_cons, Assoc.lookup_cons, ih, List.find?_cons]
    by_cases here : field.name = name <;> simp [here]

/-- In the object stands the value of the last field of a name. -/
theorem get?_body (r : Registration) (name : String) :
    r.body.get? name = (r.lastValue? name).map FieldValue.toJson := by
  unfold body lastValue?
  rw [get?_object, Assoc.lookup_reverse (Assoc.nodup_of_ascending (Assoc.ascending_ofList _)),
    Assoc.ofList, Assoc.lookup_insertAll, Assoc.lookup_nil, Option.or_none, ← List.map_reverse,
    lookup_fields, Option.map_map]
  rfl

theorem fits_body (r : Registration) : Fits 2 r.body := by
  refine .object fun field mem => ?_
  have ascending := Assoc.ascending_ofList
    (r.postData.map fun field => (field.name, field.value.toJson))
  have found : r.body.get? field.1 = some field.2 := by
    unfold body
    rw [get?_object, Assoc.lookup_reverse (Assoc.nodup_of_ascending ascending)]
    exact Dict.mem_entries_iff (d := ⟨_, ascending⟩).mp mem
  rw [get?_body] at found
  obtain ⟨value, -, same⟩ := Option.map_eq_some_iff.mp found
  rw [← same]
  exact value.fits

/-- A provider is told the value of the last field of a name. -/
theorem submitted?_eq (r : Registration) (name : String) :
    r.submitted? name = r.lastValue? name := by
  have read := read_write (r.fits_body.mono (show 2 ≤ Builder.depthLimit by decide))
  unfold submitted?
  rw [read]
  show (r.body.get? name).bind FieldValue.ofJson? = _
  rw [get?_body]
  cases r.lastValue? name with
  | none => rfl
  | some value => exact value.ofJson?_toJson

/-- Every field has a last one of its name. -/
theorem exists_lastValue? {field : RegistrationField} (mem : field ∈ r.postData) :
    ∃ other ∈ r.postData, other.name = field.name ∧ r.lastValue? field.name = some other.value := by
  have found : (r.postData.reverse.find? fun other => other.name = field.name).isSome = true :=
    List.find?_isSome.mpr ⟨field, List.mem_reverse.mpr mem, by simp⟩
  obtain ⟨other, found⟩ := Option.isSome_iff_exists.mp found
  refine ⟨other, List.mem_reverse.mp (List.mem_of_find?_eq_some found), ?_, ?_⟩
  · simpa using List.find?_some found
  · unfold lastValue?
    rw [found, Option.map_some]

/-! ### The first and the last field -/

/-- Of the fields with its name a field is the first. -/
def IsFirst (r : Registration) (field : RegistrationField) : Prop :=
  ∃ before after, r.postData = before ++ field :: after ∧
    ∀ other ∈ before, other.name ≠ field.name

/-- Of the fields with its name a field is the last. -/
def IsLast (r : Registration) (field : RegistrationField) : Prop :=
  ∃ before after, r.postData = before ++ field :: after ∧
    ∀ other ∈ after, other.name ≠ field.name

/-- A field is looked for by its name from the front. -/
theorem find?_name_iff {fields : List RegistrationField} {name : String}
    {field : RegistrationField} :
    (fields.find? fun other => other.name = name) = some field ↔
      field.name = name ∧ ∃ before after, fields = before ++ field :: after ∧
        ∀ other ∈ before, other.name ≠ field.name := by
  rw [List.find?_eq_some_iff_append]
  simp only [decide_eq_true_eq, Bool.not_eq_true', decide_eq_false_iff_not]
  refine and_congr_right fun named => ?_
  rw [named]

theorem scopes?_eq_some_iff {value : FieldValue} :
    r.scopes? = some value ↔
      ∃ field, r.IsFirst field ∧ field.name = scopesField ∧ field.value = value := by
  unfold scopes?
  rw [Option.map_eq_some_iff]
  refine exists_congr fun field => ?_
  rw [find?_name_iff, and_comm (a := field.name = _), and_assoc]
  rfl

theorem lastValue?_eq_some_iff {name : String} {value : FieldValue} :
    r.lastValue? name = some value ↔
      ∃ field, r.IsLast field ∧ field.name = name ∧ field.value = value := by
  unfold lastValue?
  rw [Option.map_eq_some_iff]
  refine exists_congr fun field => ?_
  rw [find?_name_iff, and_comm (a := field.name = _), and_assoc]
  refine and_congr_left fun _ => ?_
  -- What stands before a field in the reversed list stands behind it in the list.
  constructor
  · rintro ⟨before, after, split, others⟩
    refine ⟨after.reverse, before.reverse, ?_, fun other mem =>
      others other (List.mem_reverse.mp mem)⟩
    rw [← List.reverse_reverse r.postData, split]
    simp
  · rintro ⟨before, after, split, others⟩
    refine ⟨after.reverse, before.reverse, ?_, fun other mem =>
      others other (List.mem_reverse.mp mem)⟩
    rw [split]
    simp

/-- There is a first field that holds scopes exactly if there is a last one. -/
theorem isSome_scopes? (r : Registration) :
    r.scopes?.isSome = (r.lastValue? scopesField).isSome := by
  unfold scopes? lastValue?
  rw [Option.isSome_map, Option.isSome_map, Bool.eq_iff_iff, List.find?_isSome, List.find?_isSome]
  simp

/-! ### The two requests -/

/-- What a token is asked for with, under a name. -/
def asked? (r : Registration) (client : String × String) (name : String) : Option String :=
  (Form.decode (r.tokenForm client)).bind (Assoc.lookup name)

/-- In the form of a token request stand the scopes of the first field, if it has any. -/
theorem asked?_scope (r : Registration) (client : String × String) :
    r.asked? client "scope" = r.tokenScopes := by
  unfold asked? tokenForm
  rw [Form.decode_encode (by simp), Option.bind_some]
  cases r.tokenScopes <;> rfl

/-- **Agreement on scopes**: a provider is told each name of a field with the value of one of these
fields, and what stands in the form of a token request are the scopes of the registration.  They are
the scopes that the provider is told exactly if the first and the last of the fields that hold
scopes ask for the same. -/
theorem tokenScopes_agree_iff (r : Registration) :
    (∀ field ∈ r.postData, ∃ other ∈ r.postData, other.name = field.name ∧
        r.submitted? field.name = some other.value) ∧
      (∀ client, r.asked? client "scope" = r.tokenScopes) ∧
      (r.tokenScopes = (r.submitted? scopesField).bind scopesOf ↔
        ∀ first last, r.IsFirst first → first.name = scopesField → r.IsLast last →
          last.name = scopesField → scopesOf first.value = scopesOf last.value) := by
  refine ⟨fun field mem => ?_, r.asked?_scope, ?_⟩
  · obtain ⟨other, among, same, last⟩ := exists_lastValue? mem
    exact ⟨other, among, same, (r.submitted?_eq _).trans last⟩
  · rw [tokenScopes_eq, submitted?_eq]
    constructor
    · intro agree first last isFirst named isLast named'
      rw [scopes?_eq_some_iff.mpr ⟨first, isFirst, named, rfl⟩,
        lastValue?_eq_some_iff.mpr ⟨last, isLast, named', rfl⟩] at agree
      exact agree
    · intro agree
      have together := r.isSome_scopes?
      cases front : r.scopes? with
      | none =>
        rw [front, Option.isSome_none, eq_comm, Option.isSome_eq_false_iff,
          Option.isNone_iff_eq_none] at together
        rw [together]
      | some value =>
        rw [front, Option.isSome_some, eq_comm] at together
        obtain ⟨value', back⟩ := Option.isSome_iff_exists.mp together
        obtain ⟨first, isFirst, named, rfl⟩ := scopes?_eq_some_iff.mp front
        obtain ⟨last, isLast, named', rfl⟩ := lastValue?_eq_some_iff.mp back
        rw [back]
        exact agree first last isFirst named isLast named'

/-- Scopes that are given twice agree if both fields ask for the same. -/
theorem repeated_scopes_agree :
    let r : Registration := ⟨"https://idp.example.com", "edge-oidc",
      [⟨scopesField, .single "openid"⟩, ⟨"client_name", .single "edge"⟩,
        ⟨scopesField, .multiple [" \"openid\"", ""]⟩]⟩
    (∃ other ∈ r.postData, other.name = "client_name" ∧
        r.submitted? "client_name" = some other.value) ∧
      r.asked? ("who", "password") "scope" = some "\"openid\"" ∧
      (r.submitted? scopesField).bind scopesOf = some "\"openid\"" := by
  intro r
  obtain ⟨told, asked, agree⟩ := tokenScopes_agree_iff r
  have scopes : r.tokenScopes = some "\"openid\"" := by decide +kernel
  have same := agree.mpr fun first last isFirst named isLast named' => by
    have front : some first.value = some (.single "openid") :=
      (scopes?_eq_some_iff.mpr ⟨first, isFirst, named, rfl⟩).symm.trans (by decide +kernel)
    have back : some last.value = some (.multiple [" \"openid\"", ""]) :=
      (lastValue?_eq_some_iff.mpr ⟨last, isLast, named', rfl⟩).symm.trans (by decide +kernel)
    rw [Option.some.inj front, Option.some.inj back]
    decide +kernel
  exact ⟨told ⟨"client_name", .single "edge"⟩ (by simp [r]), (asked _).trans scopes,
    same.symm.trans scopes⟩

/-- The entry of a registration whose scopes are given twice. -/
def repeatedScopes : ConfigurationEntry :=
  { ConfigurationEntry.bare .oidcRegistration with
    discoveryEndpoint := some "https://idp.example.com"
    secret := some "edge-oidc"
    postData := [⟨scopesField, some "openid", none⟩, ⟨scopesField, some "profile", none⟩] }

/-- Entries are accepted whose token request asks for other scopes than the provider is told. -/
theorem repeated_scopes_disagree : ∃ r, Source.ofEntries [repeatedScopes] = .ok [.registration r] ∧
    r.tokenScopes = some "\"openid\"" ∧
    (∀ client, r.asked? client "scope" = some "\"openid\"") ∧
    (r.submitted? scopesField).bind scopesOf = some "\"profile\"" := by
  let r : Registration := ⟨"https://idp.example.com", "edge-oidc",
    [⟨scopesField, .single "openid"⟩, ⟨scopesField, .single "profile"⟩]⟩
  have scopes : r.tokenScopes = some "\"openid\"" := by decide +kernel
  refine ⟨r, by decide +kernel, scopes, fun client => (r.asked?_scope client).trans scopes, ?_⟩
  rw [submitted?_eq]
  decide +kernel

end Registration

end GatewayOperator
