import GatewayOperator.Json.Token
import GatewayOperator.Proofs.Json.Edits
import Mathlib.Data.List.Forall2

/-!
# The tokens of written values

A value is written as a compact text.  This module says of which tokens that text consists.

## Main Definitions

* `Json.Fits` — a value without fractions, whose integers have 64 bits and whose containers are not
  nested too deeply.
* `Json.toTokens` — the tokens of a value.
* `Json.Lexer.Settled` — nothing is being read that another token could not end.
* `Json.Lexes` — a text consists of some tokens.

## Main Statements

* `Json.lexes_quote`, `Json.lexes_integer` — a string is one token, and so is an integer.
* `Json.lexes_write` — the text of a value that fits consists of the tokens of the value.

## Design Notes

A number ends with the character after it.  So a text consists of some tokens if it leads to a
state in which any mark ends the last of them, be it that this token is complete or not.
-/

namespace GatewayOperator.Json

/-- A value whose numbers are integers of 64 bits, with `room` for nested containers. -/
inductive Fits : Nat → Json → Prop
  /-- Null fits. -/
  | null {room : Nat} : Fits room .null
  /-- A truth value fits. -/
  | bool {room : Nat} (value : Bool) : Fits room (.bool value)
  /-- A string fits. -/
  | string {room : Nat} (value : String) : Fits room (.string value)
  /-- An integer has 64 bits, be it with sign or without. -/
  | int {room : Nat} {n : Int} (least : -(twoTo 63 : Int) ≤ n) (most : n < (twoTo 64 : Int)) :
      Fits room (.int n)
  /-- The items of an array fit into it. -/
  | array {room : Nat} {items : List Json} (each : ∀ item ∈ items, Fits room item) :
      Fits (room + 1) (.array items)
  /-- The values of an object fit into it. -/
  | object {room : Nat} {fields : List (String × Json)} (each : ∀ field ∈ fields, Fits room field.2) :
      Fits (room + 1) (.object fields)

mutual

/-- The tokens of a value. -/
def toTokens : Json → List Token
  | .string value => [.text (some value)]
  | .array items => .openArray :: ([.comma].intercalate (itemTokens items) ++ [.closeArray])
  | .object fields => .openObject :: ([.comma].intercalate (fieldTokens fields) ++ [.closeObject])
  | other => [.atom other]

/-- The tokens of each item of an array. -/
def itemTokens : List Json → List (List Token)
  | [] => []
  | item :: rest => toTokens item :: itemTokens rest

/-- The tokens of each field of an object. -/
def fieldTokens : List (String × Json) → List (List Token)
  | [] => []
  | (name, value) :: rest => (.text (some name) :: .colon :: toTokens value) :: fieldTokens rest

end

/-- A machine that reads its input step by step stands where the steps lead. -/
theorem run_eq_of_foldlM {σ ι ε α : Type} {step : σ → ι → Except ε σ} {run : σ → Nat → List ι → α}
    (unfolds : ∀ {s s' : σ} {i : ι}, step s i = .ok s' →
      ∀ position rest, run s position (i :: rest) = run s' (position + 1) rest)
    {s s' : σ} {input : List ι} (stepped : input.foldlM step s = .ok s') (position : Nat) :
    run s position input = run s' (position + input.length) [] := by
  induction input generalizing s position with
  | nil =>
    cases stepped
    rfl
  | cons i rest ih =>
    rw [List.foldlM_cons] at stepped
    cases first : step s i with
    | error problem =>
      rw [first] at stepped
      cases stepped
    | ok next =>
      rw [first] at stepped
      rw [unfolds first, ih stepped, List.length_cons, Nat.add_assoc, Nat.add_comm 1]

namespace Lexer

/-! ### Marks -/

/-- The marks that may stand behind a value or a name, and their tokens. -/
def closingMarks : List (Char × Token) :=
  [(',', .comma), (':', .colon), (']', .closeArray), ('\x7d', .closeObject)]

/-- Some tokens have been read: the text may end here, and any of these marks is the next token. -/
structure Settled (s : State) (done : List Token) : Prop where
  /-- A mark is the next token. -/
  next : ∀ mark ∈ closingMarks, step s mark.1 = .ok ⟨.between, mark.2 :: done⟩
  /-- The text may end here. -/
  last : ∀ position, run s position [] = .ok done.reverse

theorem start_mark {mark : Char × Token} (mem : mark ∈ closingMarks) (done : List Token) :
    start done mark.1 = .ok ⟨.between, mark.2 :: done⟩ := by
  simp only [closingMarks, List.mem_cons, List.not_mem_nil, or_false] at mem
  rcases mem with rfl | rfl | rfl | rfl <;> rfl

theorem settled_between (done : List Token) : Settled ⟨.between, done⟩ done :=
  ⟨fun _ mem => start_mark mem done, fun _ => rfl⟩

/-- A mark ends words and numbers. -/
theorem mark_ends {mark : Char × Token} (mem : mark ∈ closingMarks) :
    ¬('a' ≤ mark.1 ∧ mark.1 ≤ 'z') ∧ isNumberChar mark.1 = false := by
  have all : ∀ mark ∈ closingMarks,
      ¬('a' ≤ mark.1 ∧ mark.1 ≤ 'z') ∧ isNumberChar mark.1 = false := by decide
  exact all mark mem

theorem settled_inWord {letters : List Char} {token : Token}
    (found : finishWord letters = .ok token) (done : List Token) :
    Settled ⟨.inWord letters, done⟩ (token :: done) := by
  refine ⟨fun mark mem => ?_, fun position => by simp only [run, found]⟩
  simp only [step, if_neg (mark_ends mem).1, found, bind, Except.bind]
  exact start_mark mem (token :: done)

theorem settled_inNumber {read : List Char} {token : Token}
    (found : finishNumber read = .ok token) (done : List Token) :
    Settled ⟨.inNumber read, done⟩ (token :: done) := by
  refine ⟨fun mark mem => ?_, fun position => by simp only [run, found]⟩
  simp only [step, (mark_ends mem).2, found, bind, Except.bind]
  exact start_mark mem (token :: done)

end Lexer

open Lexer

/-- A text consists of some tokens. -/
def Lexes (s : String) (tokens : List Token) : Prop :=
  ∀ done, ∃ state, s.toList.foldlM step ⟨.between, done⟩ = .ok state ∧
    Settled state (tokens.reverse ++ done)

/-! ### Words and integers -/

/-- The words of values. -/
theorem lexes_word {s : String} {value : Json}
    (word : (s, value) ∈ [("null", Json.null), ("true", .bool true), ("false", .bool false)]) :
    Lexes s [.atom value] := by
  intro done
  simp only [List.mem_cons, List.not_mem_nil, or_false, Prod.mk.injEq] at word
  rcases word with ⟨rfl, rfl⟩ | ⟨rfl, rfl⟩ | ⟨rfl, rfl⟩ <;>
    exact ⟨_, rfl, settled_inWord rfl done⟩

/-- Digits are read as what they are. -/
theorem takeDigits_eq {cs : List Char} (all : ∀ c ∈ cs, c.isDigit = true) :
    takeDigits cs = (cs.map fun c => c.toNat - 48, []) := by
  induction cs with
  | nil => rfl
  | cons c rest ih =>
    obtain ⟨first, others⟩ := List.forall_mem_cons.mp all
    unfold takeDigits
    simp only [Text.digit?_eq_some_iff.mpr ⟨first, rfl⟩, ih others, List.map_cons]

/-- Digits are gathered to the number that they stand for, if that has 64 bits. -/
theorem gather_eq {acc : Nat} {cs : List Char} (within : Text.digitsValue acc cs < twoTo 64) :
    gather acc (cs.map fun c => c.toNat - 48) = (Text.digitsValue acc cs, []) := by
  induction cs generalizing acc with
  | nil => rfl
  | cons c rest ih =>
    have next : Text.digitsValue acc (c :: rest) =
        Text.digitsValue (acc * 10 + (c.toNat - 48)) rest := by
      unfold Text.digitsValue
      rw [List.foldl_cons, Nat.mul_comm]
    rw [next] at within ⊢
    have := Text.le_digitsValue (acc * 10 + (c.toNat - 48)) rest
    rw [List.map_cons, gather, if_neg (by omega), ih within]

/-- The digits of a number begin with zero only if there is no other one. -/
theorem exists_digits (n : Nat) : ∃ d ds, (toString n).toList.map (fun c => c.toNat - 48) = d :: ds ∧
    (d = 0 → ds = []) := by
  rw [Text.toList_toString]
  rcases Nat.eq_zero_or_pos n with rfl | positive
  · exact ⟨0, [], rfl, fun _ => rfl⟩
  · obtain ⟨c, cs, shape, nonzero⟩ := toDigits_no_zero positive
    refine ⟨_, _, by rw [shape, List.map_cons], fun zero => absurd ?_ nonzero⟩
    have digit : c.isDigit = true := by
      refine Text.isDigit_of_mem_toString (n := n) ?_
      rw [Text.toList_toString, shape]
      exact List.mem_cons_self
    have low : 48 ≤ c.toNat := by
      unfold Char.isDigit at digit
      simp only [Bool.and_eq_true, decide_eq_true_eq] at digit
      exact digit.1
    have value : c.toNat = '0'.toNat := by
      show c.toNat = 48
      omega
    exact Char.toNat_inj.mp value

/-- The parts of an integer are its sign and its digits. -/
theorem readNumeral?_digits (n : Nat) :
    readNumeral? (toString n).toList =
        some ⟨false, (toString n).toList.map fun c => c.toNat - 48, none, none⟩ ∧
      readNumeral? ('-' :: (toString n).toList) =
        some ⟨true, (toString n).toList.map fun c => c.toNat - 48, none, none⟩ := by
  have all : ∀ c ∈ (toString n).toList, c.isDigit = true :=
    fun c mem => Text.isDigit_of_mem_toString mem
  have taken := takeDigits_eq all
  obtain ⟨d, ds, shape, single⟩ := exists_digits n
  rw [shape] at taken ⊢
  have unsigned : ∀ rest, (toString n).toList ≠ '-' :: rest := by
    intro rest same
    have digit := all '-' (same ▸ List.mem_cons_self)
    cases digit
  constructor
  · unfold readNumeral?
    split
    next negative cs sign =>
    split at sign
    · next rest same => exact absurd same (unsigned rest)
    · cases sign
      rw [taken]
      cases d with
      | zero =>
        cases single rfl
        rfl
      | succ d => rfl
  · unfold readNumeral?
    simp only [taken]
    cases d with
    | zero =>
      cases single rfl
      rfl
    | succ d => rfl

/-- The digits of a number of 64 bits are gathered to the number. -/
theorem gather_digits {n : Nat} (within : n < twoTo 64) :
    gather 0 ((toString n).toList.map fun c => c.toNat - 48) = (n, []) := by
  have value := Text.digitsValue_toString n
  rw [gather_eq (value.symm ▸ within), value]

/-- What has been read of an integer of 64 bits is the integer. -/
theorem finishNumber_integer {n : Int} (least : -(twoTo 63 : Int) ≤ n) (most : n < (twoTo 64 : Int)) :
    finishNumber (toString n).toList.reverse = .ok (.atom (.int n)) := by
  unfold finishNumber
  rw [List.reverse_reverse]
  cases n with
  | ofNat n =>
    have gathered := gather_digits (Int.ofNat_lt.mp most)
    rw [show toString (Int.ofNat n) = toString n from rfl, (readNumeral?_digits n).1]
    simp only [Numeral.value, gathered]
    rfl
  | negSucc n =>
    have bound : n + 1 ≤ twoTo 63 := by omega
    have gathered := gather_digits (n := n + 1) (by rw [twoTo_succ]; omega)
    rw [Text.toList_negSucc, (readNumeral?_digits (n + 1)).2]
    simp only [Numeral.value, gathered]
    rw [if_pos ⟨rfl, rfl, rfl, Or.inr ⟨by omega, bound⟩⟩]
    rfl

theorem isNumberChar_of_isDigit {c : Char} (digit : c.isDigit = true) : isNumberChar c = true := by
  simp [isNumberChar, Text.digit?_eq_some_iff.mpr ⟨digit, rfl⟩]

theorem start_digit {c : Char} (digit : c.isDigit = true) (done : List Token) :
    start done c = .ok ⟨.inNumber [c], done⟩ := by
  have known := Text.digit?_eq_some_iff.mpr ⟨digit, rfl⟩
  have other {d : Char} (none : Text.digit? d = none) : ¬c = d := by
    rintro rfl
    simp [known] at none
  unfold start
  simp [known, other (d := ' ') rfl, other (d := '\n') rfl, other (d := '\t') rfl,
    other (d := '\r') rfl, other (d := '[') rfl, other (d := ']') rfl, other (d := '\x7b') rfl,
    other (d := '\x7d') rfl, other (d := ':') rfl, other (d := ',') rfl, other (d := '"') rfl]

/-- The characters of a number are taken one after another. -/
theorem foldlM_inNumber {cs : List Char} (all : ∀ c ∈ cs, isNumberChar c = true)
    (read : List Char) (done : List Token) :
    cs.foldlM step ⟨.inNumber read, done⟩ = .ok ⟨.inNumber (cs.reverse ++ read), done⟩ := by
  induction cs generalizing read with
  | nil => rfl
  | cons c rest ih =>
    obtain ⟨first, others⟩ := List.forall_mem_cons.mp all
    have stepped : step ⟨.inNumber read, done⟩ c = .ok ⟨.inNumber (c :: read), done⟩ := by
      simp only [step, first, if_true]
    rw [List.foldlM_cons, stepped, List.reverse_cons, List.append_assoc]
    exact ih others (c :: read)

/-- The written form of an integer begins as a number does, and its other characters go on so. -/
theorem exists_written (n : Int) : ∃ c rest, (toString n).toList = c :: rest ∧
    (∀ done, start done c = .ok ⟨.inNumber [c], done⟩) ∧ ∀ d ∈ rest, isNumberChar d = true := by
  have all {m : Nat} {d : Char} (mem : d ∈ (toString m).toList) : isNumberChar d = true :=
    isNumberChar_of_isDigit (Text.isDigit_of_mem_toString mem)
  cases n with
  | ofNat m =>
    obtain ⟨c, rest, shape⟩ := List.exists_cons_of_ne_nil (Text.toString_ne_nil m)
    refine ⟨c, rest, shape, fun done => ?_, fun d mem => all (shape ▸ List.mem_cons_of_mem c mem)⟩
    exact start_digit (Text.isDigit_of_mem_toString (shape ▸ List.mem_cons_self)) done
  | negSucc m =>
    exact ⟨'-', _, Text.toList_negSucc m, fun done => rfl, fun d mem => all mem⟩

/-- An integer of 64 bits is one token. -/
theorem lexes_integer {n : Int} (least : -(twoTo 63 : Int) ≤ n) (most : n < (twoTo 64 : Int)) :
    Lexes (toString n) [.atom (.int n)] := by
  intro done
  refine ⟨_, ?_, settled_inNumber (finishNumber_integer least most) done⟩
  obtain ⟨c, rest, shape, first, others⟩ := exists_written n
  rw [shape, List.foldlM_cons, step, first, List.reverse_cons]
  exact foldlM_inNumber others [c] done

/-! ### Strings -/

theorem hexValue?_hexDigit {n : Nat} (bound : n < 16) : hexValue? (hexDigit n) = some n := by
  have all : ∀ n : Fin 16, hexValue? (hexDigit n) = some n.val := by decide
  exact all ⟨n, bound⟩

/-- A numeric escape stands for the control character of its number. -/
theorem foldlM_unicode {c : Char} (control : c.toNat < 32) (read : List Char) (done : List Token) :
    ['\\', 'u', '0', '0', hexDigit (c.toNat / 16), hexDigit (c.toNat % 16)].foldlM step
        ⟨.inString ⟨read, none, true⟩, done⟩ =
      .ok ⟨.inString ⟨c :: read, none, true⟩, done⟩ := by
  have opened : ['\\', 'u', '0', '0'].foldlM step ⟨.inString ⟨read, none, true⟩, done⟩ =
      .ok ⟨.unicode ⟨read, none, true⟩ 2 0, done⟩ := rfl
  have upper : step ⟨.unicode ⟨read, none, true⟩ 2 0, done⟩ (hexDigit (c.toNat / 16)) =
      .ok ⟨.unicode ⟨read, none, true⟩ 1 (c.toNat / 16), done⟩ := by
    simp [step, hexValue?_hexDigit (show c.toNat / 16 < 16 by omega)]
  have lower : step ⟨.unicode ⟨read, none, true⟩ 1 (c.toNat / 16), done⟩ (hexDigit (c.toNat % 16)) =
      .ok ⟨.inString ⟨c :: read, none, true⟩, done⟩ := by
    have whole : c.toNat / 16 * 16 + c.toNat % 16 = c.toNat := by omega
    simp only [step, hexValue?_hexDigit (show c.toNat % 16 < 16 by omega), Partial.pushUnit, whole]
    rw [if_pos (by omega), if_neg (by omega), if_neg (by omega), Char.ofNat_toNat]
  show (['\\', 'u', '0', '0'] ++ _).foldlM step _ = _
  rw [List.foldlM_append, opened]
  simp only [bind, Except.bind, List.foldlM_cons, upper, lower, List.foldlM_nil, pure, Except.pure]

/-- Each character of a string is read as itself, escaped or not. -/
theorem foldlM_escapeChar (c : Char) (read : List Char) (done : List Token) :
    (escapeChar c).foldlM step ⟨.inString ⟨read, none, true⟩, done⟩ =
      .ok ⟨.inString ⟨c :: read, none, true⟩, done⟩ := by
  -- The characters that have escapes of their own are read by evaluation.
  have named {d : Char} (same : c.toNat = d.toNat)
      (escaped : (escapeChar d).foldlM step ⟨.inString ⟨read, none, true⟩, done⟩ =
        .ok ⟨.inString ⟨d :: read, none, true⟩, done⟩) :
      (escapeChar c).foldlM step ⟨.inString ⟨read, none, true⟩, done⟩ =
        .ok ⟨.inString ⟨c :: read, none, true⟩, done⟩ := by
    cases Char.toNat_inj.mp same
    exact escaped
  by_cases special : c.toNat ∈ [34, 92, 8, 9, 10, 12, 13]
  · simp only [List.mem_cons, List.not_mem_nil, or_false] at special
    rcases special with h | h | h | h | h | h | h
    · exact named (d := '"') h rfl
    · exact named (d := '\\') h rfl
    · exact named (d := Char.ofNat 8) h rfl
    · exact named (d := '\t') h rfl
    · exact named (d := '\n') h rfl
    · exact named (d := Char.ofNat 12) h rfl
    · exact named (d := '\r') h rfl
  · simp only [List.mem_cons, List.not_mem_nil, or_false, not_or] at special
    have mark : ¬c = '"' := fun same => special.1 (same ▸ rfl)
    have slash : ¬c = '\\' := fun same => special.2.1 (same ▸ rfl)
    simp only [escapeChar, mark, slash, special, if_false]
    by_cases control : c.toNat < 32
    · rw [if_pos control]
      exact foldlM_unicode control read done
    · rw [if_neg control, List.foldlM_cons, step]
      simp only [mark, slash, control, if_false]
      rfl

/-- The characters of a string are read one after another. -/
theorem foldlM_escapes (cs read : List Char) (done : List Token) :
    (cs.flatMap escapeChar).foldlM step ⟨.inString ⟨read, none, true⟩, done⟩ =
      .ok ⟨.inString ⟨cs.reverse ++ read, none, true⟩, done⟩ := by
  induction cs generalizing read with
  | nil => rfl
  | cons c rest ih =>
    rw [List.flatMap_cons, List.foldlM_append, foldlM_escapeChar, List.reverse_cons,
      List.append_assoc]
    exact ih (c :: read)

/-- A quoted string is one token, which ends with it. -/
theorem foldlM_quote (s : String) (done : List Token) :
    (quote s).toList.foldlM step ⟨.between, done⟩ = .ok ⟨.between, .text (some s) :: done⟩ := by
  have opened : step ⟨.between, done⟩ '"' = .ok ⟨.inString .start, done⟩ := rfl
  rw [quote, String.toList_ofList, List.cons_append, List.foldlM_cons, opened]
  show (s.toList.flatMap escapeChar ++ ['"']).foldlM step ⟨.inString .start, done⟩ = _
  rw [List.foldlM_append, Partial.start, foldlM_escapes, List.append_nil]
  show Except.ok (State.mk .between
    (.text (some (String.ofList s.toList.reverse.reverse)) :: done)) = _
  rw [List.reverse_reverse, String.ofList_toList]

theorem lexes_quote (s : String) : Lexes (quote s) [.text (some s)] :=
  fun done => ⟨_, foldlM_quote s done, settled_between _⟩

/-! ### Containers -/

/-- Two texts with a mark between them. -/
theorem Lexes.mark {s t : String} {tokens others : List Token} (first : Lexes s tokens)
    (mark : Char × Token) (mem : mark ∈ closingMarks) (second : Lexes t others) :
    Lexes (s ++ String.singleton mark.1 ++ t) (tokens ++ mark.2 :: others) := by
  intro done
  obtain ⟨middle, read, settled⟩ := first done
  obtain ⟨state, more, end_⟩ := second (mark.2 :: (tokens.reverse ++ done))
  refine ⟨state, ?_, by simpa using end_⟩
  rw [String.toList_append, String.toList_append, List.foldlM_append, List.foldlM_append, read]
  simp only [String.toList_singleton, List.foldlM_cons, List.foldlM_nil, bind, Except.bind,
    settled.next mark mem, pure, Except.pure]
  exact more

/-- Texts with commas between them. -/
theorem lexes_intercalate {texts : List String} {parts : List (List Token)} (nonempty : texts ≠ [])
    (each : List.Forall₂ Lexes texts parts) :
    Lexes (",".intercalate texts) ([.comma].intercalate parts) := by
  induction each with
  | nil => exact absurd rfl nonempty
  | @cons text part rest others first tail ih =>
    cases tail with
    | nil =>
      rw [String.intercalate_singleton, List.intercalate_singleton]
      exact first
    | cons second tail =>
      rw [String.intercalate_cons_cons, List.intercalate_cons_cons, List.append_assoc]
      exact first.mark (',', .comma) (by simp [closingMarks]) (ih (List.cons_ne_nil _ _))

/-- A container: its opening mark, what it holds with commas between, and its closing mark. -/
theorem lexes_container {texts : List String} {parts : List (List Token)}
    (each : List.Forall₂ Lexes texts parts) (opening closing : Char × Token)
    (opens : ∀ done, start done opening.1 = .ok ⟨.between, opening.2 :: done⟩)
    (closes : closing ∈ closingMarks) :
    Lexes (String.singleton opening.1 ++ ",".intercalate texts ++ String.singleton closing.1)
      (opening.2 :: ([.comma].intercalate parts ++ [closing.2])) := by
  intro done
  refine ⟨⟨.between, closing.2 :: (([.comma].intercalate parts).reverse ++ opening.2 :: done)⟩,
    ?_, by simpa using settled_between _⟩
  have inner : ∃ state, (",".intercalate texts).toList.foldlM step ⟨.between, opening.2 :: done⟩ =
      .ok state ∧ Settled state (([.comma].intercalate parts).reverse ++ opening.2 :: done) := by
    by_cases empty : texts = []
    · subst empty
      cases each
      exact ⟨_, rfl, settled_between _⟩
    · exact lexes_intercalate empty each (opening.2 :: done)
  obtain ⟨state, read, settled⟩ := inner
  have opened : step ⟨.between, done⟩ opening.1 = .ok ⟨.between, opening.2 :: done⟩ := opens done
  rw [String.toList_append, String.toList_append, List.foldlM_append, List.foldlM_append]
  simp only [String.toList_singleton, List.foldlM_cons, List.foldlM_nil, opened, bind, Except.bind,
    pure, Except.pure, read, settled.next closing closes]

theorem writeItems_eq (items : List Json) : writeItems items = items.map write := by
  induction items with
  | nil => rfl
  | cons item rest ih => rw [writeItems, ih, List.map_cons]

theorem itemTokens_eq (items : List Json) : itemTokens items = items.map toTokens := by
  induction items with
  | nil => rfl
  | cons item rest ih => rw [itemTokens, ih, List.map_cons]

theorem writeFields_eq (fields : List (String × Json)) :
    writeFields fields = fields.map fun field => quote field.1 ++ ":" ++ write field.2 := by
  induction fields with
  | nil => rfl
  | cons field rest ih => rw [writeFields, ih, List.map_cons]

theorem fieldTokens_eq (fields : List (String × Json)) :
    fieldTokens fields =
      fields.map fun field => .text (some field.1) :: .colon :: toTokens field.2 := by
  induction fields with
  | nil => rfl
  | cons field rest ih => rw [fieldTokens, ih, List.map_cons]

/-- **Written values are lexed**: the text of a value that fits consists of its tokens. -/
theorem lexes_write {room : Nat} {value : Json} (fits : Fits room value) :
    Lexes value.write (toTokens value) := by
  induction fits with
  | null => exact lexes_word (by simp [write])
  | bool value => cases value <;> exact lexes_word (by simp [write])
  | string value => exact lexes_quote value
  | int least most => exact lexes_integer least most
  | @array room items each ih =>
    have : List.Forall₂ Lexes (writeItems items) (itemTokens items) := by
      rw [writeItems_eq, itemTokens_eq, List.forall₂_map_left_iff, List.forall₂_map_right_iff,
        List.forall₂_same]
      exact ih
    exact lexes_container this ('[', .openArray) (']', .closeArray)
      (fun done => rfl) (by simp [closingMarks])
  | @object room fields each ih =>
    have : List.Forall₂ Lexes (writeFields fields) (fieldTokens fields) := by
      rw [writeFields_eq, fieldTokens_eq, List.forall₂_map_left_iff, List.forall₂_map_right_iff,
        List.forall₂_same]
      exact fun field mem => (lexes_quote field.1).mark (':', .colon)
        (by simp [closingMarks]) (ih field mem)
    exact lexes_container this ('\x7b', .openObject) ('\x7d', .closeObject)
      (fun done => rfl) (by simp [closingMarks])

/-- The tokens of a written value are the value's. -/
theorem tokens_write {room : Nat} {value : Json} (fits : Fits room value) :
    tokens value.write = .ok (toTokens value) := by
  obtain ⟨state, read, settled⟩ := lexes_write fits []
  have unfolds {s s' : State} {c : Char} (stepped : step s c = .ok s') (position : Nat)
      (rest : List Char) : run s position (c :: rest) = run s' (position + 1) rest := by
    rw [run, stepped]
  rw [tokens, run_eq_of_foldlM unfolds read, settled.last, List.append_nil, List.reverse_reverse]

end GatewayOperator.Json
