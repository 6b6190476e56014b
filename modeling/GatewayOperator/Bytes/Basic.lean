/-!
# Bytes

Confidential data entries are byte strings that need not be text.

## Main Definitions

* `Bytes` — a byte string.
* `Bytes.ofText`, `Bytes.text?` — texts as bytes, and bytes as text where they are one.
-/

namespace GatewayOperator

/-- A byte string. -/
abbrev Bytes := List UInt8

namespace Bytes

/-- The encoding of a text. -/
def ofText (s : String) : Bytes := s.toUTF8.data.toList

/-- The text that some bytes encode. -/
def text? (b : Bytes) : Option String := String.fromUTF8? ⟨b.toArray⟩

/-- The text of an encoding. -/
theorem text?_ofText (s : String) : text? (ofText s) = some s := by
  have h : text? (ofText s) = String.fromUTF8? s.toByteArray := by
    simp [text?, ofText, String.toUTF8]
  rw [h, String.fromUTF8?, dif_pos s.isValidUTF8]
  rfl

/-- Some bytes are the encoding of the text that they encode. -/
theorem ofText_of_text? {b : Bytes} {s : String} (h : text? b = some s) : ofText s = b := by
  unfold text? String.fromUTF8? at h
  split at h
  · cases h
    simp [ofText, String.toUTF8, String.fromUTF8]
  · cases h

end Bytes

end GatewayOperator
