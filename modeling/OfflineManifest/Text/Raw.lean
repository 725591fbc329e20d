/-! # Raw texts

A raw text is a list of bytes that is meant as a text but need not be one, such as the name of a
file or the path to it. A text is stored as its UTF-8 form (`RawText.ofText`). To be shown, a raw
text is read as far as it goes, and whatever is no character in it is replaced (`RawText.lossy`): by
one replacement character for each byte that no character starts with, and for each start of a
character that is broken off, as long as it is.
-/

namespace OfflineManifest

/-- **Bytes that are meant as a text.** -/
structure RawText where
  bytes : List UInt8
  deriving DecidableEq, Repr

namespace RawText

/-- A text as it is stored. -/
def ofText (text : String) : RawText := ⟨text.toUTF8.data.toList⟩

instance : Coe String RawText := ⟨ofText⟩

instance : Coe (List String) (List RawText) := ⟨List.map ofText⟩

instance : Append RawText := ⟨fun s t => ⟨s.bytes ++ t.bytes⟩⟩

/-- The number of bytes. -/
def size (t : RawText) : Nat := t.bytes.length

/-- The byte of a slash. -/
def slash : UInt8 := 0x2F

/-! ### Reading -/

/-- The character that bytes start with, if they start with one. -/
def decode? (bytes : List UInt8) : Option Char := bytes.toByteArray.utf8DecodeChar? 0

/-- The ranges in which the bytes behind the first one of a character lie. -/
def ranges (first : UInt8) : List (UInt8 × UInt8) :=
  if first < 0xC2 then []
  else if first < 0xE0 then [(0x80, 0xBF)]
  else if first = 0xE0 then [(0xA0, 0xBF), (0x80, 0xBF)]
  else if first = 0xED then [(0x80, 0x9F), (0x80, 0xBF)]
  else if first < 0xF0 then [(0x80, 0xBF), (0x80, 0xBF)]
  else if first = 0xF0 then [(0x90, 0xBF), (0x80, 0xBF), (0x80, 0xBF)]
  else if first < 0xF4 then [(0x80, 0xBF), (0x80, 0xBF), (0x80, 0xBF)]
  else if first = 0xF4 then [(0x80, 0x8F), (0x80, 0xBF), (0x80, 0xBF)]
  else []

/-- The number of bytes that lie in the ranges, up to the first one that does not. -/
def within : List (UInt8 × UInt8) → List UInt8 → Nat
  | (least, greatest) :: ranges, b :: rest =>
    if least ≤ b ∧ b ≤ greatest then within ranges rest + 1 else 0
  | _, _ => 0

/-- The characters of bytes behind some that were read already. -/
def lossyChars : Nat → List UInt8 → List Char
  | _, [] => []
  | skip + 1, _ :: rest => lossyChars skip rest
  | 0, b :: rest =>
    match decode? (b :: rest) with
    | some c => c :: lossyChars (c.utf8Size - 1) rest
    | none => '\uFFFD' :: lossyChars (within (ranges b) rest) rest

/-- **A raw text as it is shown.** -/
def lossy (t : RawText) : String := String.ofList (lossyChars 0 t.bytes)

/-- A byte that no text has, a character that is broken off, and one that follows it. -/
example : lossy ⟨[0x61, 0xFF, 0xE2, 0x82, 0x62, 0xC3, 0xA9]⟩ = "a\uFFFD\uFFFDbé" := by decide

end RawText

end OfflineManifest
