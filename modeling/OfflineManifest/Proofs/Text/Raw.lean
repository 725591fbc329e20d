import Mathlib.Data.List.Basic
import OfflineManifest.Proofs.Text.ByteOrder
import OfflineManifest.Text.Raw

/-! # Texts among raw texts

A text is shown as it is (`RawText.lossy_ofText`), so two texts are the same if they are stored in
the same way (`RawText.ofText_inj`). Bytes are shown character by character
(`RawText.lossy_induction`): what is shown either stands in the bytes or is a replacement character.
So a raw text in which nothing was replaced is a text (`RawText.eq_ofText_of_lossy`), and a slash
that is shown is a slash (`RawText.slash_mem_of_lossy`). -/

namespace OfflineManifest.RawText

variable {t u : RawText} {text text' : String} {bytes : List UInt8} {c d : Char}

/-- The raw text is a text. -/
def IsText (t : RawText) : Prop := ∃ text : String, t = text

theorem eq_iff : t = u ↔ t.bytes = u.bytes := by
  obtain ⟨bytes⟩ := t
  obtain ⟨bytes'⟩ := u
  rw [mk.injEq]

@[simp] theorem bytes_append (t u : RawText) : (t ++ u).bytes = t.bytes ++ u.bytes := rfl

@[simp] theorem size_append (t u : RawText) : (t ++ u).size = t.size + u.size :=
  List.length_append

theorem append_assoc (t u v : RawText) : t ++ u ++ v = t ++ (u ++ v) :=
  eq_iff.mpr (List.append_assoc _ _ _)

@[simp] theorem append_empty (t : RawText) : t ++ ("" : RawText) = t :=
  eq_iff.mpr (List.append_nil _)

theorem eq_empty_iff : t = ("" : RawText) ↔ t.bytes = [] := eq_iff

/-! ### Bytes of texts -/

theorem bytes_ofText (text : String) :
    (text : RawText).bytes = text.toList.flatMap String.utf8EncodeChar :=
  Text.bytes_eq text

@[simp] theorem size_ofText (text : String) : (text : RawText).size = text.utf8ByteSize := by
  rw [← String.size_toByteArray, ← String.toUTF8_eq_toByteArray]
  rfl

/-- A byte of a character that is one byte long is in no longer character. -/
theorem byte_mem_utf8EncodeChar_iff (hd : d.toNat < 128) :
    d.toNat.toUInt8 ∈ String.utf8EncodeChar c ↔ c = d := by
  have hd' : d.val.toNat < 128 := hd
  have hc : c.val.toNat < 0x110000 := by
    have := c.valid
    simp only [UInt32.isValidChar, Nat.isValidChar] at this
    omega
  have heq : c = d ↔ c.val.toNat = d.val.toNat := by
    rw [UInt32.toNat_inj]
    exact Char.ext_iff
  rw [heq]
  unfold String.utf8EncodeChar
  dsimp only [Char.toNat]
  split_ifs <;>
    simp (disch := omega) only [List.mem_cons, List.not_mem_nil, or_false, ← UInt8.toNat_inj,
      Nat.toUInt8_eq, UInt8.toNat_ofNat', Nat.mod_eq_of_lt] <;> omega

theorem byte_mem_ofText_iff (hd : d.toNat < 128) :
    d.toNat.toUInt8 ∈ (text : RawText).bytes ↔ d ∈ text.toList := by
  rw [bytes_ofText, List.mem_flatMap]
  simp only [byte_mem_utf8EncodeChar_iff hd, exists_eq_right]

theorem slash_mem_ofText_iff : slash ∈ (text : RawText).bytes ↔ '/' ∈ text.toList :=
  byte_mem_ofText_iff (d := '/') (by decide)

/-! ### Showing -/

theorem lossyChars_eq (skip : ℕ) (bytes : List UInt8) :
    lossyChars skip bytes = lossyChars 0 (bytes.drop skip) := by
  induction bytes generalizing skip with
  | nil => rw [List.drop_nil, lossyChars, lossyChars]
  | cons b rest ih =>
    cases skip with
    | zero => rfl
    | succ skip => rw [lossyChars, List.drop_succ_cons, ih]

theorem lossyChars_of_decode? {b : UInt8} {rest : List UInt8} (h : decode? (b :: rest) = some c) :
    lossyChars 0 (b :: rest) = c :: lossyChars 0 ((b :: rest).drop c.utf8Size) := by
  obtain ⟨n, hn⟩ := Nat.exists_eq_succ_of_ne_zero c.utf8Size_pos.ne'
  rw [lossyChars, h]
  dsimp only
  rw [lossyChars_eq, hn, List.drop_succ_cons, Nat.succ_sub_one]

/-- **A character in front of bytes** is shown, and then they are. -/
theorem lossyChars_utf8EncodeChar_append (c : Char) (bytes : List UInt8) :
    lossyChars 0 (String.utf8EncodeChar c ++ bytes) = c :: lossyChars 0 bytes := by
  have hdecode : decode? (String.utf8EncodeChar c ++ bytes) = some c := by
    unfold decode?
    rw [List.toByteArray_append]
    exact ByteArray.utf8DecodeChar?_utf8EncodeChar_append
  obtain ⟨b, rest, hcons⟩ := List.exists_cons_of_ne_nil
    (List.ne_nil_of_length_pos (String.length_utf8EncodeChar c ▸ c.utf8Size_pos))
  have hdrop : (String.utf8EncodeChar c ++ bytes).drop c.utf8Size = bytes := by
    rw [← String.length_utf8EncodeChar, List.drop_left]
  rw [hcons, List.cons_append] at hdecode hdrop ⊢
  rw [lossyChars_of_decode? hdecode, hdrop]

/-- **A text is shown** as it is. -/
@[simp] theorem lossy_ofText (text : String) : (text : RawText).lossy = text := by
  have hchars : ∀ cs : List Char, lossyChars 0 (cs.flatMap String.utf8EncodeChar) = cs := by
    intro cs
    induction cs with
    | nil => rfl
    | cons c cs ih => rw [List.flatMap_cons, lossyChars_utf8EncodeChar_append, ih]
  rw [lossy, bytes_ofText, hchars, String.ofList_toList]

@[simp] theorem ofText_inj : (text : RawText) = (text' : RawText) ↔ text = text' :=
  ⟨fun h => by simpa using congrArg lossy h, congrArg ofText⟩

@[simp] theorem ofText_beq : ((text : RawText) == (text' : RawText)) = (text == text') := by
  rw [Bool.eq_iff_iff, beq_iff_eq, beq_iff_eq, ofText_inj]

theorem eq_append_of_decode? (h : decode? bytes = some c) :
    bytes = String.utf8EncodeChar c ++ bytes.drop c.utf8Size := by
  have hbytes (l : List UInt8) : l.toByteArray.data.toList = l := List.toList_data_toByteArray
  have heq := congrArg (fun b => b.data.toList) (ByteArray.eq_of_utf8DecodeChar?_eq_some h)
  simp only [ByteArray.data_append, Array.toList_append, hbytes] at heq
  rw [heq, ← String.length_utf8EncodeChar, List.drop_left]

/-- **Bytes are shown step by step**: a character that they start with, or a replacement
character. -/
theorem lossy_induction {P : List UInt8 → Prop} (nil : P [])
    (char : ∀ c rest, lossyChars 0 (String.utf8EncodeChar c ++ rest) = c :: lossyChars 0 rest →
      P rest → P (String.utf8EncodeChar c ++ rest))
    (broken : ∀ b rest skip, lossyChars 0 (b :: rest) = '\uFFFD' :: lossyChars 0 (rest.drop skip) →
      P (rest.drop skip) → P (b :: rest)) (bytes : List UInt8) : P bytes := by
  induction hn : bytes.length using Nat.strong_induction_on generalizing bytes with
  | h n ih =>
    cases bytes with
    | nil => exact nil
    | cons b rest =>
      rw [List.length_cons] at hn
      cases hdecode : decode? (b :: rest) with
      | some c =>
        have hsize := c.utf8Size_pos
        have hlength : ((b :: rest).drop c.utf8Size).length < n := by
          rw [List.length_drop, List.length_cons]
          omega
        rw [eq_append_of_decode? hdecode]
        exact char c _ (lossyChars_utf8EncodeChar_append c _) (ih _ hlength _ rfl)
      | none =>
        refine broken b rest (within (ranges b) rest) ?_ (ih _ ?_ _ rfl)
        · rw [lossyChars, hdecode]
          dsimp only
          rw [lossyChars_eq]
        · rw [List.length_drop]
          omega

/-- A character that is one byte long is shown where it stands. -/
theorem byte_mem_of_mem_lossyChars (hd : d.toNat < 128) (h : d ∈ lossyChars 0 bytes) :
    d.toNat.toUInt8 ∈ bytes := by
  have hbroken : d ≠ '\uFFFD' := by
    rintro rfl
    exact absurd hd (by decide)
  induction bytes using lossy_induction with
  | nil => cases h
  | char c rest heq ih =>
    rw [heq, List.mem_cons] at h
    rw [List.mem_append]
    exact h.imp (fun hc => (byte_mem_utf8EncodeChar_iff hd).mpr hc.symm) ih
  | broken b rest skip heq ih =>
    rw [heq, List.mem_cons] at h
    exact List.mem_cons_of_mem b (List.mem_of_mem_drop (ih (h.resolve_left hbroken)))

theorem slash_mem_of_lossy (h : '/' ∈ t.lossy.toList) : slash ∈ t.bytes := by
  rw [lossy, String.toList_ofList] at h
  exact byte_mem_of_mem_lossyChars (d := '/') (by decide) h

theorem flatMap_lossyChars (h : '\uFFFD' ∉ lossyChars 0 bytes) :
    (lossyChars 0 bytes).flatMap String.utf8EncodeChar = bytes := by
  induction bytes using lossy_induction with
  | nil => rfl
  | char c rest heq ih =>
    rw [heq, List.mem_cons, not_or] at h
    rw [heq, List.flatMap_cons, ih h.2]
  | broken b rest skip heq ih =>
    rw [heq] at h
    exact absurd List.mem_cons_self h

/-- **What is shown without a replacement** is a text. -/
theorem eq_ofText_of_lossy (h : t.lossy = text) (hbroken : '\uFFFD' ∉ text.toList) :
    t = (text : RawText) := by
  have hchars : lossyChars 0 t.bytes = text.toList := by
    rw [← h, lossy, String.toList_ofList]
  rw [← hchars] at hbroken
  rw [eq_iff, bytes_ofText, ← hchars, flatMap_lossyChars hbroken]

/-- **What is shown is stored** as the raw text itself if that is a text. -/
theorem ofText_lossy_iff : (t.lossy : RawText) = t ↔ t.IsText := by
  constructor
  · exact fun h => ⟨t.lossy, h.symm⟩
  · rintro ⟨text, rfl⟩
    rw [lossy_ofText]

end OfflineManifest.RawText
