import GatewayOperator.Json.Basic

/-!
# Places in objects

A place in a value is named by the keys on the way to it.  Its written form puts a separator in
front of each key.

## Main Definitions

* `Pointer` — a place.
* `Pointer.text`, `Pointer.read?` — its written form, and how that is read.
* `Json.at?` — the value at a place.

## Main Statements

* `Pointer.read?_text` — reading what was written gives back the place.
-/

namespace GatewayOperator

/-- A place in an object: the keys on the way to it. -/
abbrev Pointer := List String

namespace Pointer

/-- A character of a key: the separator and the escape character are escaped. -/
def escapeChar (c : Char) : List Char :=
  if c = '~' then ['~', '0'] else if c = '/' then ['~', '1'] else [c]

/-- A key with its separator. -/
def keyText (key : String) : String :=
  String.ofList ('/' :: key.toList.flatMap escapeChar)

/-- The written form of a place. -/
def text (p : Pointer) : String := String.join (p.map keyText)

/-- A key without its escapes. -/
def unescape : List Char → List Char
  | '~' :: '0' :: rest => '~' :: unescape rest
  | '~' :: '1' :: rest => '/' :: unescape rest
  | c :: rest => c :: unescape rest
  | [] => []

/-- The characters up to the next separator, and those behind it, if there is one. -/
def splitKey : List Char → List Char × Option (List Char)
  | [] => ([], none)
  | c :: rest =>
    if c = '/' then ([], some rest)
    else
      let (key, others) := splitKey rest
      (c :: key, others)

theorem splitKey_length (cs : List Char) :
    ∀ rest ∈ (splitKey cs).2, rest.length < cs.length := by
  induction cs with
  | nil => simp [splitKey]
  | cons c cs ih =>
    unfold splitKey
    split
    · simp
    · intro rest h
      exact Nat.lt_succ_of_lt (ih rest h)

/-- The keys of a written place behind its first separator. -/
def readKeys (cs : List Char) : Pointer :=
  match h : splitKey cs with
  | (key, none) => [String.ofList (unescape key)]
  | (key, some rest) =>
    have : rest.length < cs.length := splitKey_length cs rest (by simp [h])
    String.ofList (unescape key) :: readKeys rest
termination_by cs.length

/-- The place of a written form; it is empty or begins with a separator. -/
def read? (s : String) : Option Pointer :=
  match s.toList with
  | [] => some []
  | '/' :: cs => some (readKeys cs)
  | _ => none

theorem unescape_escapeChar (c : Char) (rest : List Char) :
    unescape (escapeChar c ++ rest) = c :: unescape rest := by
  unfold escapeChar
  split
  · next h => subst h; simp [unescape]
  · split
    · next h => subst h; simp [unescape]
    · next h _ => simp [unescape, h]

theorem unescape_escape (cs : List Char) : unescape (cs.flatMap escapeChar) = cs := by
  induction cs with
  | nil => rfl
  | cons c cs ih => rw [List.flatMap_cons, unescape_escapeChar, ih]

theorem slash_notMem_escape (cs : List Char) : '/' ∉ cs.flatMap escapeChar := by
  intro h
  obtain ⟨c, _, hc⟩ := List.mem_flatMap.1 h
  unfold escapeChar at hc
  split at hc
  · revert hc; decide
  · split at hc
    · revert hc; decide
    · next h => exact h (List.mem_singleton.1 hc).symm

theorem splitKey_of_notMem (cs : List Char) (h : '/' ∉ cs) : splitKey cs = (cs, none) := by
  induction cs with
  | nil => rfl
  | cons c cs ih =>
    have hc : c ≠ '/' := fun e => h (by simp [e])
    simp [splitKey, hc, ih fun m => h (List.mem_cons_of_mem _ m)]

theorem splitKey_append (cs rest : List Char) (h : '/' ∉ cs) :
    splitKey (cs ++ '/' :: rest) = (cs, some rest) := by
  induction cs with
  | nil => simp [splitKey]
  | cons c cs ih =>
    have hc : c ≠ '/' := fun e => h (by simp [e])
    simp [splitKey, hc, ih fun m => h (List.mem_cons_of_mem _ m)]

/-- The characters of a written place. -/
theorem toList_text (p : Pointer) :
    p.text.toList = p.flatMap fun key => '/' :: key.toList.flatMap escapeChar := by
  simp [text, String.toList_join, List.flatMap_map, keyText]

theorem readKeys_flatMap (key : String) (p : Pointer) :
    readKeys (key.toList.flatMap escapeChar ++
      p.flatMap fun key => '/' :: key.toList.flatMap escapeChar) = key :: p := by
  induction p generalizing key with
  | nil =>
    unfold readKeys
    have := splitKey_of_notMem _ (slash_notMem_escape key.toList)
    split
    · next h =>
      simp only [List.flatMap_nil, List.append_nil, this, Prod.mk.injEq] at h
      simp [← h.1, unescape_escape]
    · next h => simp [this] at h
  | cons next p ih =>
    unfold readKeys
    have := splitKey_append _ (next.toList.flatMap escapeChar ++
      p.flatMap fun key => '/' :: key.toList.flatMap escapeChar)
      (slash_notMem_escape key.toList)
    split
    · next h => simp [this] at h
    · next h =>
      simp only [List.flatMap_cons, List.cons_append, this, Prod.mk.injEq,
        Option.some.injEq] at h
      simp [← h.1, ← h.2, unescape_escape, ih]

/-- Reading what was written gives back the place. -/
theorem read?_text (p : Pointer) : read? p.text = some p := by
  unfold read?
  rw [toList_text]
  cases p with
  | nil => rfl
  | cons key p => simp [readKeys_flatMap]

end Pointer

namespace Json

/-- The position in a list that a key names: digits, without a leading zero. -/
def indexOfKey? (key : String) : Option Nat :=
  match key.toList with
  | [] => none
  | '0' :: _ :: _ => none
  | cs =>
    if cs.all Char.isDigit then some (cs.foldl (fun n c => 10 * n + (c.toNat - 48)) 0) else none

/-- The value under a key: a field of an object, or an item of an array. -/
def child? : Json → String → Option Json
  | .object fields, key => (Json.object fields).get? key
  | .array items, key => (indexOfKey? key).bind fun n => items[n]?
  | _, _ => none

/-- The value at a place. -/
def at? (value : Json) : Pointer → Option Json
  | [] => some value
  | key :: rest => (value.child? key).bind fun child => child.at? rest

@[simp] theorem at?_nil (value : Json) : value.at? [] = some value := rfl

@[simp] theorem at?_cons (value : Json) (key : String) (rest : Pointer) :
    value.at? (key :: rest) = (value.child? key).bind fun child => child.at? rest := rfl

theorem at?_append (value : Json) (p q : Pointer) :
    value.at? (p ++ q) = (value.at? p).bind fun child => child.at? q := by
  induction p generalizing value with
  | nil => rfl
  | cons key rest ih =>
    rw [List.cons_append, at?_cons, at?_cons]
    cases value.child? key with
    | none => rfl
    | some child => exact ih child

end Json

end GatewayOperator
