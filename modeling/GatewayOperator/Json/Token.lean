import GatewayOperator.Json.Basic
import GatewayOperator.Powers
import GatewayOperator.Text.Integer

/-!
# Tokens of JSON text

## Main Definitions

* `Json.Token` — the marks, words, numbers and strings of a text.
* `Json.Lexer.step` — what one character does to the token being read.
* `Json.tokens` — the tokens of a text, or the place where it stops being one.

## Design Notes

The lexer is a machine that takes one character at a time, so lexing is a fold over the text.  A
number ends with the character after it, which is then taken as the start of the next token.
-/

namespace GatewayOperator.Json

/-- Why a text is no JSON value, and how many characters had been read. -/
structure Fault where
  /-- What is wrong. -/
  problem : String
  /-- The number of characters read. -/
  position : Nat
  deriving DecidableEq, Repr, Inhabited

/-- A token. -/
inductive Token where
  /-- The mark `[`. -/
  | openArray
  /-- The mark `]`. -/
  | closeArray
  /-- An opening brace. -/
  | openObject
  /-- A closing brace. -/
  | closeObject
  /-- The mark `:`. -/
  | colon
  /-- The mark `,`. -/
  | comma
  /-- A string; none if its escapes leave a surrogate unpaired. -/
  | text (value : Option String)
  /-- A number, a truth value or null. -/
  | atom (value : Json)
  deriving Repr, Inhabited

namespace Lexer

/-- The string being read. -/
structure Partial where
  /-- The characters so far, the last one first. -/
  done : List Char
  /-- The leading surrogate of an escape whose second half has not come yet. -/
  leading : Option Nat
  /-- Whether all escapes so far are characters. -/
  sound : Bool

/-- No character yet. -/
def Partial.start : Partial := ⟨[], none, true⟩

/-- The string with a character at its end. -/
def Partial.push (p : Partial) (c : Char) : Partial :=
  ⟨c :: p.done, none, p.sound && p.leading.isNone⟩

/-- The string with an escaped code unit at its end. -/
def Partial.pushUnit (p : Partial) (unit : Nat) : Partial :=
  match p.leading with
  | some high =>
    if 0xDC00 ≤ unit ∧ unit ≤ 0xDFFF then
      ⟨Char.ofNat (0x10000 + (high - 0xD800) * 0x400 + (unit - 0xDC00)) :: p.done, none, p.sound⟩
    else ⟨p.done, none, false⟩
  | none =>
    if 0xD800 ≤ unit ∧ unit ≤ 0xDBFF then ⟨p.done, some unit, p.sound⟩
    else if 0xDC00 ≤ unit ∧ unit ≤ 0xDFFF then ⟨p.done, none, false⟩
    else ⟨Char.ofNat unit :: p.done, none, p.sound⟩

/-- The finished string. -/
def Partial.finish (p : Partial) : Option String :=
  if p.sound && p.leading.isNone then some (String.ofList p.done.reverse) else none

/-- What the lexer is in the middle of. -/
inductive Mode where
  /-- Between tokens. -/
  | between
  /-- Inside a string. -/
  | inString (p : Partial)
  /-- Behind a backslash. -/
  | escape (p : Partial)
  /-- Inside a numeric escape, with the digits still to come and the value so far. -/
  | unicode (p : Partial) (left value : Nat)
  /-- Inside a number, the last character first. -/
  | inNumber (done : List Char)
  /-- Inside a word, the last character first. -/
  | inWord (done : List Char)

/-- The value of a hexadecimal digit. -/
def hexValue? (c : Char) : Option Nat :=
  if '0' ≤ c ∧ c ≤ '9' then some (c.toNat - 48)
  else if 'a' ≤ c ∧ c ≤ 'f' then some (c.toNat - 87)
  else if 'A' ≤ c ∧ c ≤ 'F' then some (c.toNat - 55)
  else none

/-- Whether a character can stand in a number. -/
def isNumberChar (c : Char) : Bool :=
  (Text.digit? c).isSome || c = '-' || c = '+' || c = '.' || c = 'e' || c = 'E'

/-- The parts of a number's text. -/
structure Numeral where
  /-- Whether a minus sign stands in front. -/
  negative : Bool
  /-- The digits before the point. -/
  whole : List Nat
  /-- The digits behind the point, if there is one. -/
  fraction : Option (List Nat)
  /-- The exponent's sign and digits, if there is one. -/
  exponent : Option (Bool × List Nat)

/-- The leading digits of a list, and what follows them. -/
def takeDigits : List Char → List Nat × List Char
  | [] => ([], [])
  | c :: rest =>
    match Text.digit? c with
    | none => ([], c :: rest)
    | some d => let (ds, after) := takeDigits rest; (d :: ds, after)

/-- Reads the exponent part, which ends the number. -/
def readExponent? : List Char → Option (Option (Bool × List Nat))
  | [] => some none
  | e :: rest =>
    if e = 'e' ∨ e = 'E' then
      let (negative, digits) := match rest with
        | '-' :: after => (true, after)
        | '+' :: after => (false, after)
        | after => (false, after)
      match takeDigits digits with
      | ([], _) => none
      | (ds, []) => some (some (negative, ds))
      | _ => none
    else none

/-- The parts of a well-formed number. -/
def readNumeral? (cs : List Char) : Option Numeral :=
  let (negative, cs) := match cs with
    | '-' :: rest => (true, rest)
    | rest => (false, rest)
  match takeDigits cs with
  | ([], _) => none
  | (0 :: _ :: _, _) => none
  | (whole, '.' :: rest) =>
    match takeDigits rest with
    | ([], _) => none
    | (fraction, after) =>
      (readExponent? after).map fun exponent => ⟨negative, whole, some fraction, exponent⟩
  | (whole, after) => (readExponent? after).map fun exponent => ⟨negative, whole, none, exponent⟩

/-- Adds digits to a significand while it stays below `2 ^ 64`; answers the digits left over. -/
def gather : Nat → List Nat → Nat × List Nat
  | acc, [] => (acc, [])
  | acc, d :: rest =>
    if twoTo 64 ≤ acc * 10 + d then (acc, d :: rest) else gather (acc * 10 + d) rest

/-- A power of ten, rounded. -/
def powerOfTen (n : Nat) : Nat × Nat :=
  match Binary64.ofRatio false (tenTo n) 1 with
  | .finite _ significand exponent => Binary64.ratio significand exponent
  | _ => (1, 1)

/-- The value times a power of ten: the significand and the power are rounded first, and an
exponent below `-308` is taken in two steps. -/
def scale (negative : Bool) : Nat → Binary64 → Int → Json
  | 0, value, _ => .number (.float value)
  | fuel + 1, value, exponent =>
    match value with
    | .finite _ 0 e => .number (.float (.finite negative 0 e))
    | .finite _ significand e =>
      let ratio := Binary64.ratio significand e
      if exponent < -308 then
        scale negative fuel (Binary64.scaleBy negative ratio (powerOfTen 308) true) (exponent + 308)
      else if 308 < exponent then .illFormed
      else
        match Binary64.scaleBy negative ratio (powerOfTen exponent.natAbs) (exponent < 0) with
        | .finite n s e => .number (.float (.finite n s e))
        | _ => .illFormed
    | other => .number (.float other)

/-- The value of a number: an integer if it is written as one and fits 64 bits, else a fraction.
Digits beyond 64 bits of significand only scale. -/
def Numeral.value (n : Numeral) : Json :=
  let (significand, left) := gather 0 n.whole
  if left.isEmpty ∧ n.fraction.isNone ∧ n.exponent.isNone ∧
      (n.negative = false ∨ (significand ≠ 0 ∧ significand ≤ twoTo 63)) then
    .int (if n.negative then -(significand : Int) else significand)
  else
    let fraction := n.fraction.getD []
    let (significand, dropped) := gather significand fraction
    let shift : Int := (left.length : Int) - ((fraction.length - dropped.length : Nat) : Int)
    let (negativeExponent, digits) := n.exponent.getD (false, [])
    let magnitude : Nat := digits.foldl (fun acc d => min (acc * 10 + d) (twoTo 31)) 0
    let start := Binary64.ofRatio n.negative significand 1
    if magnitude = twoTo 31 then
      if significand = 0 ∨ negativeExponent then .number (.float (.finite n.negative 0 (-1074)))
      else .illFormed
    else
      let exponent := if negativeExponent then shift - magnitude else shift + magnitude
      scale n.negative 5 start exponent

/-- The value of a word. -/
def word? (cs : List Char) : Option Json :=
  if cs = "null".toList then some .null
  else if cs = "true".toList then some (.bool true)
  else if cs = "false".toList then some (.bool false)
  else none

/-- The lexer's mode and the tokens so far, the last one first. -/
structure State where
  /-- What is being read. -/
  mode : Mode
  /-- The tokens so far, the last one first. -/
  tokens : List Token

/-- The first character of a token. -/
def start (tokens : List Token) (c : Char) : Except String State :=
  if c = ' ' ∨ c = '\n' ∨ c = '\t' ∨ c = '\r' then .ok ⟨.between, tokens⟩
  else if c = '[' then .ok ⟨.between, .openArray :: tokens⟩
  else if c = ']' then .ok ⟨.between, .closeArray :: tokens⟩
  else if c = '\x7b' then .ok ⟨.between, .openObject :: tokens⟩
  else if c = '\x7d' then .ok ⟨.between, .closeObject :: tokens⟩
  else if c = ':' then .ok ⟨.between, .colon :: tokens⟩
  else if c = ',' then .ok ⟨.between, .comma :: tokens⟩
  else if c = '"' then .ok ⟨.inString .start, tokens⟩
  else if c = '-' ∨ (Text.digit? c).isSome then .ok ⟨.inNumber [c], tokens⟩
  else if 'a' ≤ c ∧ c ≤ 'z' then .ok ⟨.inWord [c], tokens⟩
  else .error "expected value"

/-- The token of a finished number. -/
def finishNumber (done : List Char) : Except String Token :=
  match readNumeral? done.reverse with
  | some numeral => .ok (.atom numeral.value)
  | none => .error "invalid number"

/-- The token of a finished word. -/
def finishWord (done : List Char) : Except String Token :=
  match word? done.reverse with
  | some value => .ok (.atom value)
  | none => .error "expected ident"

/-- The character that an escape stands for. -/
def unescape? (c : Char) : Option Char :=
  if c = '"' ∨ c = '\\' ∨ c = '/' then some c
  else if c = 'b' then some (Char.ofNat 8)
  else if c = 'f' then some (Char.ofNat 12)
  else if c = 'n' then some '\n'
  else if c = 'r' then some '\r'
  else if c = 't' then some '\t'
  else none

/-- What one character does. -/
def step (s : State) (c : Char) : Except String State :=
  match s.mode with
  | .between => start s.tokens c
  | .inString p =>
    if c = '"' then .ok ⟨.between, .text p.finish :: s.tokens⟩
    else if c = '\\' then .ok ⟨.escape p, s.tokens⟩
    else if c.toNat < 32 then
      .error "control character (\\u0000-\\u001F) found while parsing a string"
    else .ok ⟨.inString (p.push c), s.tokens⟩
  | .escape p =>
    if c = 'u' then .ok ⟨.unicode p 4 0, s.tokens⟩
    else match unescape? c with
      | some d => .ok ⟨.inString (p.push d), s.tokens⟩
      | none => .error "invalid escape"
  | .unicode p left value =>
    match hexValue? c with
    | none => .error "invalid escape"
    | some d =>
      let value := value * 16 + d
      if left ≤ 1 then .ok ⟨.inString (p.pushUnit value), s.tokens⟩
      else .ok ⟨.unicode p (left - 1) value, s.tokens⟩
  | .inNumber done =>
    if isNumberChar c then .ok ⟨.inNumber (c :: done), s.tokens⟩
    else do
      let token ← finishNumber done
      start (token :: s.tokens) c
  | .inWord done =>
    if 'a' ≤ c ∧ c ≤ 'z' then .ok ⟨.inWord (c :: done), s.tokens⟩
    else do
      let token ← finishWord done
      start (token :: s.tokens) c

/-- Lexes the characters that follow `position` others. -/
def run : State → Nat → List Char → Except Fault (List Token)
  | s, position, [] =>
    match s.mode with
    | .between => .ok s.tokens.reverse
    | .inNumber done =>
      match finishNumber done with
      | .ok token => .ok (token :: s.tokens).reverse
      | .error problem => .error ⟨problem, position⟩
    | .inWord done =>
      match finishWord done with
      | .ok token => .ok (token :: s.tokens).reverse
      | .error problem => .error ⟨problem, position⟩
    | _ => .error ⟨"EOF while parsing a string", position⟩
  | s, position, c :: rest =>
    match step s c with
    | .ok next => run next (position + 1) rest
    | .error problem => .error ⟨problem, position + 1⟩

end Lexer

/-- The tokens up to the first fault. -/
def Lexer.readable : State → List Char → List Token
  | s, [] => s.tokens.reverse
  | s, c :: rest =>
    match step s c with
    | .ok next => readable next rest
    | .error _ => s.tokens.reverse

/-- The tokens of a text up to its first fault. -/
def readableTokens (text : String) : List Token := Lexer.readable ⟨.between, []⟩ text.toList

/-- The tokens of a text. -/
def tokens (text : String) : Except Fault (List Token) :=
  Lexer.run ⟨.between, []⟩ 0 text.toList

end GatewayOperator.Json
