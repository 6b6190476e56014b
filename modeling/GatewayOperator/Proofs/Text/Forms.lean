import GatewayOperator.Http.Form
import GatewayOperator.Json.Token
import GatewayOperator.Proofs.Text.Keys
import GatewayOperator.Proofs.Text.Trimming

/-!
# Forms and the pairs in them

The body of a form is taken apart at its ampersands, each piece at its first equals sign, and plus
signs and percent signs are undone.  What was written into a form is found again.

## Main Definitions

* `Form.decode` — the pairs of names and values in the body of a form.

## Main Statements

* `Form.decodeText_encodeText` — a text is read as it was written.
* `Form.decode_encode` — the pairs that were written are found, in their order.

## Design Notes

No byte is written with a character at which the body is taken apart, so the pieces are the written
pairs; and within a piece a byte is either one plain character or starts with a sign that is not
plain, so bytes are read one after another.
-/

namespace GatewayOperator.Form

open Json.Lexer

/-- The bytes that some characters stand for. -/
def decodeChars : List Char → Option Bytes
  | [] => some []
  | '+' :: rest => (decodeChars rest).map (32 :: ·)
  | '%' :: high :: low :: rest => do
    let high ← hexValue? high
    let low ← hexValue? low
    return UInt8.ofNat (high * 16 + low) :: (← decodeChars rest)
  | '%' :: _ => none
  | c :: rest => (decodeChars rest).map (UInt8.ofNat c.toNat :: ·)

/-- The text that a text in a form stands for. -/
def decodeText (s : String) : Option String := (decodeChars s.toList).bind Bytes.text?

/-- The name and the value in a piece of a form. -/
def decodePair (piece : String) : Option (String × String) := do
  let (name, value) ← Text.splitOnce? '=' piece
  return (← decodeText name, ← decodeText value)

/-- The pairs of names and values in the body of a form. -/
def decode (body : String) : Option (List (String × String)) :=
  (Text.splitOnChar '&' body).mapM decodePair

/-! ### Bytes -/

theorem hexValue?_hexDigit {n : Nat} (bound : n < 16) : hexValue? (hexDigit n) = some n := by
  have all : ∀ n : Fin 16, hexValue? (hexDigit n) = some n.val := by decide
  exact all ⟨n, bound⟩

theorem hexDigit_apart {n : Nat} (bound : n < 16) : hexDigit n ≠ '&' ∧ hexDigit n ≠ '=' := by
  have all : ∀ n : Fin 16, hexDigit n ≠ '&' ∧ hexDigit n ≠ '=' := by decide
  exact all ⟨n, bound⟩

/-- A plain byte is the number of the character that it is written as. -/
theorem toNat_of_isPlain {b : UInt8} (plain : isPlain b = true) :
    (Char.ofNat b.toNat).toNat = b.toNat := by
  have small : b.toNat < 128 := by
    unfold isPlain at plain
    simp only [Bool.and_eq_true, decide_eq_true_eq] at plain
    exact plain.1
  have all : ∀ n : Fin 128, (Char.ofNat n).toNat = n.val := by decide +kernel
  exact all ⟨b.toNat, small⟩

/-- No plain byte is written as a character whose number is not plain. -/
theorem ne_of_isPlain {b : UInt8} (plain : isPlain b = true) {c : Char}
    (other : isPlain (UInt8.ofNat c.toNat) = false) : Char.ofNat b.toNat ≠ c := by
  rintro rfl
  rw [toNat_of_isPlain plain, UInt8.ofNat_toNat, plain] at other
  cases other

/-- A byte is read as it was written, and then what follows is. -/
theorem decodeChars_encodeByte (b : UInt8) (rest : List Char) :
    decodeChars (encodeByte b ++ rest) = (decodeChars rest).map (b :: ·) := by
  have bound := b.toNat_lt
  unfold encodeByte
  split
  · next space =>
    subst space
    exact decodeChars.eq_2 rest
  · split
    · next plain =>
      have percent : Char.ofNat b.toNat ≠ '%' := ne_of_isPlain plain (by decide)
      rw [List.cons_append, List.nil_append, decodeChars, toNat_of_isPlain plain,
        UInt8.ofNat_toNat]
      · exact ne_of_isPlain plain (by decide)
      · exact fun _ _ _ sign => absurd sign percent
      · exact percent
    · have digits : b.toNat / 16 * 16 + b.toNat % 16 = b.toNat := by omega
      rw [List.cons_append, List.cons_append, List.cons_append, List.nil_append, decodeChars,
        hexValue?_hexDigit (show b.toNat / 16 < 16 by omega),
        hexValue?_hexDigit (show b.toNat % 16 < 16 by omega)]
      simp only [Option.bind_eq_bind, Option.bind_some, digits, UInt8.ofNat_toNat]
      exact (Option.map_eq_bind ..).symm

/-- No byte is written with a character at which a body is taken apart. -/
theorem encodeByte_apart {b : UInt8} {c : Char} (mem : c ∈ encodeByte b) : c ≠ '&' ∧ c ≠ '=' := by
  have bound := b.toNat_lt
  unfold encodeByte at mem
  split at mem
  · cases List.mem_singleton.mp mem
    decide
  · split at mem
    · next plain =>
      cases List.mem_singleton.mp mem
      exact ⟨ne_of_isPlain plain (by decide), ne_of_isPlain plain (by decide)⟩
    · simp only [List.mem_cons, List.not_mem_nil, or_false] at mem
      rcases mem with rfl | rfl | rfl
      · decide
      · exact hexDigit_apart (by omega)
      · exact hexDigit_apart (by omega)

/-! ### Texts -/

theorem decodeChars_encodeBytes (bytes : Bytes) :
    decodeChars (bytes.flatMap encodeByte) = some bytes := by
  induction bytes with
  | nil => rfl
  | cons b rest ih => rw [List.flatMap_cons, decodeChars_encodeByte, ih, Option.map_some]

/-- A text is read as it was written. -/
theorem decodeText_encodeText (s : String) : decodeText (encodeText s) = some s := by
  unfold decodeText encodeText
  rw [String.toList_ofList, decodeChars_encodeBytes, Option.bind_some, Bytes.text?_ofText]

theorem encodeText_apart (s : String) :
    '&' ∉ (encodeText s).toList ∧ '=' ∉ (encodeText s).toList := by
  unfold encodeText
  rw [String.toList_ofList]
  constructor
  · intro mem
    obtain ⟨b, -, mem⟩ := List.mem_flatMap.mp mem
    exact (encodeByte_apart mem).1 rfl
  · intro mem
    obtain ⟨b, -, mem⟩ := List.mem_flatMap.mp mem
    exact (encodeByte_apart mem).2 rfl

/-! ### Pairs -/

/-- A pair in a form. -/
def encodePair (p : String × String) : String := encodeText p.1 ++ "=" ++ encodeText p.2

theorem encodePair_apart (p : String × String) : '&' ∉ (encodePair p).toList := by
  simp [encodePair, (encodeText_apart p.1).1, (encodeText_apart p.2).1]

theorem decodePair_encodePair (p : String × String) : decodePair (encodePair p) = some p := by
  have parted : Text.splitOnce? '=' (encodePair p) = some (encodeText p.1, encodeText p.2) :=
    Text.splitOnce?_eq_some_iff.mpr ⟨(encodeText_apart p.1).2, by simp [encodePair]⟩
  unfold decodePair
  simp [parted, decodeText_encodeText]

/-- The pairs that were written into a form are found in it, in their order. -/
theorem decode_encode {pairs : List (String × String)} (nonempty : pairs ≠ []) :
    decode (encode pairs) = some pairs := by
  have apart : ∀ piece ∈ pairs.map encodePair, '&' ∉ piece.toList := by
    intro piece mem
    obtain ⟨p, -, rfl⟩ := List.mem_map.mp mem
    exact encodePair_apart p
  have pieces : Text.splitOnChar '&' (encode pairs) = pairs.map encodePair :=
    Text.splitOnChar_intercalate (by simpa using nonempty) apart
  have each : decodePair ∘ encodePair = fun p => pure (id p) := funext decodePair_encodePair
  unfold decode
  rw [pieces, List.mapM_map, each, List.mapM_pure, List.map_id]
  rfl

end GatewayOperator.Form
