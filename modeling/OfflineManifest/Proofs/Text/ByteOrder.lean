import Mathlib.Data.Char
import Mathlib.Data.List.Lex
import Mathlib.Data.String.Basic

/-! # The order of bytes

Texts are ordered by their code points. A greater code point has the greater UTF-8 form, whatever
follows the two, so that this is also the order of the bytes of texts (`bytes_lt_bytes`). -/

namespace OfflineManifest.Text

/-- The UTF-8 form of a text. -/
def bytes (s : String) : List UInt8 := s.toUTF8.data.toList

theorem bytes_eq (s : String) : bytes s = s.toList.flatMap String.utf8EncodeChar := by
  unfold bytes
  rw [String.toUTF8_eq_toByteArray, ← String.utf8Encode_toList, List.utf8Encode,
    List.toList_data_toByteArray]

theorem utf8EncodeChar_append_lt {c d : Char} (h : c < d) (x y : List UInt8) :
    String.utf8EncodeChar c ++ x < String.utf8EncodeChar d ++ y := by
  have hcd : c.val.toNat < d.val.toNat := h
  have hd : d.val.toNat < 0x110000 := by
    have := d.valid
    simp only [UInt32.isValidChar, Nat.isValidChar] at this
    omega
  unfold String.utf8EncodeChar
  dsimp only
  split_ifs <;>
    simp (disch := omega) only [List.cons_append, List.nil_append, List.cons_lt_cons_iff,
      UInt8.lt_iff_toNat_lt, ← UInt8.toNat_inj, UInt8.toNat_ofNat', Nat.mod_eq_of_lt] <;> omega

theorem utf8EncodeChar_append_pos (c : Char) (x : List UInt8) :
    [] < String.utf8EncodeChar c ++ x := by
  unfold String.utf8EncodeChar
  dsimp only
  split_ifs <;> exact List.nil_lt_cons _ _

theorem flatMap_utf8EncodeChar_lt : ∀ {l k : List Char}, l < k →
    l.flatMap String.utf8EncodeChar < k.flatMap String.utf8EncodeChar
  | _, [], h => absurd h (List.not_lt_nil _)
  | [], c :: k, _ => utf8EncodeChar_append_pos c _
  | c :: l, d :: k, h => by
    rw [List.flatMap_cons, List.flatMap_cons]
    rcases List.cons_lt_cons_iff.mp h with hcd | ⟨rfl, hlk⟩
    · exact utf8EncodeChar_append_lt hcd _ _
    · exact List.append_left_lt (flatMap_utf8EncodeChar_lt hlk)

/-- **The order of texts is the order of their bytes.** -/
theorem bytes_lt_bytes {s t : String} : bytes s < bytes t ↔ s < t := by
  rw [bytes_eq, bytes_eq]
  constructor
  · intro h
    rcases lt_trichotomy s t with hlt | rfl | hgt
    · exact hlt
    · exact absurd h (List.lt_irrefl _)
    · exact absurd h (List.lt_asymm (flatMap_utf8EncodeChar_lt hgt))
  · exact fun h => flatMap_utf8EncodeChar_lt h

end OfflineManifest.Text
