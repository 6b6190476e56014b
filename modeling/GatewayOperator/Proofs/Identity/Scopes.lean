import GatewayOperator.Proofs.Text.Trimming
import GatewayOperator.Registration
import Mathlib.Data.List.Forall2

/-!
# The scopes of a token request

The scopes that a registration asks for are written into one of its fields, between commas, with or
without quotes and blanks.  The token request has them in one form.

## Main Definitions

* `Registration.scopes?` — the value of the field that is read for scopes.
* `Registration.quoteAll` — some scopes as they are asked for.
* `Registration.IsScopeOf` — what an item of a value asks for.

## Main Statements

* `Registration.scopesOf_quoteAll` — scopes in that form are asked for as they stand.
* `Registration.tokenScopes_normalForm` — a token request asks for the scopes of the items that are
  not blank, in that form.
* `Registration.lone_quote_not_bare` — one of these scopes may be empty.

## Design Notes

Blanks are cut off before quotes are.  So an item of quotes asks for an empty scope, although it is
not blank, and the blanks between the quotes of an item belong to its scope.
-/

namespace GatewayOperator.Registration

open Text

/-- The value of the first field that holds scopes. -/
def scopes? (r : Registration) : Option FieldValue :=
  (r.postData.find? fun field => field.name = scopesField).map (·.value)

/-- A scope between quotes. -/
def quoted (scope : String) : String := "\"" ++ scope ++ "\""

/-- Scopes between quotes, joined by commas. -/
def quoteAll (scopes : List String) : String := ",".intercalate (scopes.map quoted)

/-- An item asks for a scope: around the scope there are quotes, and around these there are
blanks. -/
structure IsScopeOf (item scope : String) : Prop where
  /-- At an end of the scope is a blank only where the item has a quote. -/
  parts : ∃ left opening closing right : List Char,
    item.toList = left ++ (opening ++ scope.toList ++ closing) ++ right ∧
      (∀ c ∈ left ++ right, isBlank c = true) ∧ (∀ c ∈ opening ++ closing, c = '"') ∧
      (opening = [] → ∀ c ∈ scope.toList.head?, isBlank c = false) ∧
      (closing = [] → ∀ c ∈ scope.toList.getLast?, isBlank c = false)
  /-- There are no quotes at the ends of the scope. -/
  unquoted : Bare (· = '"') scope.toList
  /-- There is no comma in the scope. -/
  single : ',' ∉ scope.toList
  /-- The scope is empty only if there is nothing but quotes and blanks in the item. -/
  nonempty : scope = "" → ∀ c ∈ item.toList, isBlank c = true ∨ c = '"'

theorem tokenScopes_eq (r : Registration) : r.tokenScopes = r.scopes?.bind scopesOf := by
  unfold tokenScopes scopes?
  cases r.postData.find? fun field => field.name = scopesField <;> rfl

/-! ### Items -/

/-- The scope that an item asks for. -/
def scopeOf (item : String) : String := trimBy (· = '"') (trim item)

theorem isScopeOf_scopeOf {item : String} (single : ',' ∉ item.toList) :
    IsScopeOf item (scopeOf item) := by
  obtain ⟨left, right, outer, blank⟩ := exists_blanks item
  obtain ⟨opening, closing, inner, quote⟩ := exists_ends (· = '"') (trim item).toList
  have bare : Bare isBlank (trim item).toList := by
    unfold trim trimBy
    rw [String.toList_ofList]
    exact bare_dropEnds isBlank item.toList
  have scope : (scopeOf item).toList = dropEnds (· = '"') (trim item).toList :=
    String.toList_ofList
  rw [← scope] at inner
  rw [inner] at outer bare
  have quote : ∀ c ∈ opening ++ closing, c = '"' := by simpa using quote
  refine ⟨⟨left, opening, closing, right, outer, blank, quote, ?_, ?_⟩, ?_, ?_, ?_⟩
  · rintro rfl c first
    exact bare.first c (by simp [Option.mem_def.mp first])
  · rintro rfl c last
    exact bare.last c (by simp [Option.mem_def.mp last])
  · rw [scope]
    exact bare_dropEnds _ _
  · intro comma
    exact single (by simp [outer, comma])
  · intro empty c mem
    have around : c ∈ left ++ right ∨ c ∈ opening ++ closing := by
      simp only [outer, empty, String.toList_empty, List.append_nil, List.mem_append] at mem ⊢
      rcases mem with (h | h | h) | h <;> simp [h]
    exact around.imp (blank c) (quote c)

/-- The scopes of a value are those of its items that are not blank. -/
theorem scopesOf_eq (value : FieldValue) :
    scopesOf value = match (value.items.filter fun item => !isBlankText item).map scopeOf with
      | [] => none
      | scopes => some (quoteAll scopes) := by
  have filtered : (value.items.map trim).filter (fun scope => !scope.isEmpty) =
      (value.items.filter fun item => !isBlankText item).map trim := by
    rw [List.filter_map]
    congr 1
    exact List.filter_congr fun item _ => by rw [Function.comp_apply, isEmpty_trim]
  unfold scopesOf
  rw [filtered]
  cases value.items.filter fun item => !isBlankText item with
  | nil => rfl
  | cons item rest =>
    show some (",".intercalate (((item :: rest).map trim).map quoteScope)) =
      some (",".intercalate (((item :: rest).map scopeOf).map quoted))
    rw [List.map_map, List.map_map]
    rfl

/-! ### Scopes in the one form -/

/-- A scope between quotes asks for the scope. -/
theorem scopeOf_quoted {scope : String} (unquoted : Bare (· = '"') scope.toList) :
    scopeOf (quoted scope) = scope := by
  have whole : (quoted scope).toList = ['"'] ++ scope.toList ++ ['"'] := by
    simp [quoted]
  have trimmed : trim (quoted scope) = quoted scope := by
    unfold trim trimBy
    have bare : Bare isBlank (quoted scope).toList := by
      rw [whole]
      refine ⟨by simp [isBlank], fun c last => ?_⟩
      rw [List.getLast?_concat] at last
      cases last
      rfl
    rw [dropEnds_of_bare bare, String.ofList_toList]
  unfold scopeOf trimBy
  rw [trimmed, whole, dropEnds_eq (by simp) unquoted, String.ofList_toList]

/-- Scopes in the one form are asked for as they stand. -/
theorem scopesOf_quoteAll {scopes : List String} (nonempty : scopes ≠ [])
    (each : ∀ scope ∈ scopes, Bare (· = '"') scope.toList ∧ ',' ∉ scope.toList) :
    scopesOf (.single (quoteAll scopes)) = some (quoteAll scopes) := by
  have items : (FieldValue.single (quoteAll scopes)).items = scopes.map quoted := by
    have apart : ∀ item ∈ scopes.map quoted, ',' ∉ item.toList := by
      simpa [quoted] using fun scope mem => (each scope mem).2
    exact splitOnChar_intercalate (by simpa using nonempty) apart
  have unblank : (scopes.map quoted).filter (fun item => !isBlankText item) = scopes.map quoted := by
    refine List.filter_eq_self.mpr ?_
    simp [quoted, isBlankText, isBlank]
  have scope : (scopes.map quoted).map scopeOf = scopes := by
    rw [List.map_map]
    exact (List.map_congr_left fun scope mem => scopeOf_quoted (each scope mem).1).trans
      (List.map_id scopes)
  rw [scopesOf_eq, items, unblank, scope]
  cases scopes with
  | nil => exact absurd rfl nonempty
  | cons scope rest => rfl

/-! ### The scopes of a registration -/

/-- No item of a value holds a comma. -/
theorem not_mem_of_mem_items {value : FieldValue} {item : String} (mem : item ∈ value.items) :
    ',' ∉ item.toList := by
  cases value with
  | single text => exact not_mem_of_mem_splitOnChar mem
  | multiple texts =>
    obtain ⟨text, _, mem⟩ := List.mem_flatMap.mp mem
    exact not_mem_of_mem_splitOnChar mem

/-- **The scopes of a token request**: it asks for none exactly if all items are blank, and else for
the scopes of the other items, in their order.  Asked for in this form they stay as they are. -/
theorem tokenScopes_normalForm (r : Registration) :
    (r.tokenScopes = none ∧
        ∀ value ∈ r.scopes?, ∀ item ∈ value.items, isBlankText item = true) ∨
      ∃ value scopes, r.scopes? = some value ∧ scopes ≠ [] ∧
        r.tokenScopes = some (quoteAll scopes) ∧
        List.Forall₂ IsScopeOf (value.items.filter fun item => !isBlankText item) scopes ∧
        ∀ r' : Registration, r'.scopes? = some (.single (quoteAll scopes)) →
          r'.tokenScopes = some (quoteAll scopes) := by
  rw [tokenScopes_eq]
  cases r.scopes? with
  | none => exact .inl ⟨rfl, by simp⟩
  | some value =>
    rw [Option.bind_some, scopesOf_eq]
    cases remain : value.items.filter fun item => !isBlankText item with
    | nil =>
      refine .inl ⟨rfl, fun value' same item mem => ?_⟩
      cases same
      simpa using List.filter_eq_nil_iff.mp remain item mem
    | cons first rest =>
      have among : ∀ item ∈ first :: rest, IsScopeOf item (scopeOf item) := by
        intro item mem
        rw [← remain] at mem
        exact isScopeOf_scopeOf (not_mem_of_mem_items (List.mem_of_mem_filter mem))
      refine .inr ⟨value, (first :: rest).map scopeOf, rfl, List.cons_ne_nil _ _, rfl, ?_, ?_⟩
      · rw [remain, List.forall₂_map_right_iff, List.forall₂_same]
        exact among
      · intro r' same
        rw [tokenScopes_eq, same]
        refine scopesOf_quoteAll (List.cons_ne_nil _ _) fun scope mem => ?_
        obtain ⟨item, remains, rfl⟩ := List.mem_map.mp mem
        exact ⟨(among item remains).unquoted, (among item remains).single⟩

/-- A registration with some scopes. -/
def asking (scopes : FieldValue) : Registration :=
  ⟨"https://idp.example.com", "edge-oidc", [⟨scopesField, scopes⟩]⟩

/-- Scopes with and without quotes and blanks, asked for once more as they were. -/
theorem mixed_scopes_asked_for_again :
    (asking (.multiple [" openid,, \"profile\" ", "\t"])).tokenScopes =
        some "\"openid\",\"profile\"" ∧
      (asking (.single "\"openid\",\"profile\"")).tokenScopes =
        some "\"openid\",\"profile\"" := by
  have first : (asking (.multiple [" openid,, \"profile\" ", "\t"])).tokenScopes =
      some "\"openid\",\"profile\"" := by decide +kernel
  rcases tokenScopes_normalForm (asking (.multiple [" openid,, \"profile\" ", "\t"])) with
    ⟨none_, -⟩ | ⟨value, scopes, -, -, asked, -, again⟩
  · rw [first] at none_
    cases none_
  · rw [first] at asked
    rw [← Option.some.inj asked] at again
    exact ⟨first, again _ rfl⟩

/-- An item that is a quote asks for an empty scope. -/
theorem lone_quote_not_bare :
    ¬((asking (.single "\"")).tokenScopes = none ∨
      ∃ scopes, (asking (.single "\"")).tokenScopes = some (quoteAll scopes) ∧
        ∀ scope ∈ scopes, scope ≠ "" ∧ Bare isBlank scope.toList ∧
          Bare (· = '"') scope.toList) := by
  have asked : (asking (.single "\"")).tokenScopes = some "\"\"" := by decide +kernel
  rw [asked]
  rintro (none_ | ⟨scopes, same, each⟩)
  · cases none_
  · have size := congrArg (fun s => s.toList.length) (Option.some.inj same)
    cases scopes with
    | nil => simp [quoteAll] at size
    | cons scope rest =>
      cases rest with
      | nil =>
        have empty : scope = "" := by simpa [quoteAll, quoted] using size
        exact (each scope List.mem_cons_self).1 empty
      | cons second rest =>
        simp [quoteAll, quoted, String.intercalate_cons_cons] at size
        omega

end GatewayOperator.Registration
