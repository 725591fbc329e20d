import Mathlib.Data.List.Basic
import OfflineManifest.Digest.Basic

/-! # Digests of inputs in pieces

Stripes are absorbed as soon as a further byte follows them, so an input that is cut in two leads to
the same lanes as the whole of it (`Lanes.absorbAll_append`). A hasher therefore knows of the input
that has arrived what the digest of the whole input is made from: its length, its beginning, the
lanes and the last stripe (`Hasher.Knows`). A piece keeps this up (`Hasher.Knows.update`), and at
the end the digest is that of all pieces in a row (`ofPieces_eq_ofList`). -/

namespace OfflineManifest.Digest

/-! ### Stripes -/

/-- The last bytes of an input, which is shorter if it has not as many. -/
def ending (n : Nat) (bytes : List UInt8) : List UInt8 := bytes.drop (bytes.length - n)

theorem ending_append_of_le {n : Nat} {front back : List UInt8} (h : n ≤ back.length) :
    ending n (front ++ back) = ending n back := by
  unfold ending
  rw [List.length_append, show front.length + back.length - n =
    front.length + (back.length - n) by omega, List.drop_append]
  simp

/-- Bytes before the last ones do not matter. -/
theorem ending_ending_append (n : Nat) (front back : List UInt8) :
    ending n (ending n front ++ back) = ending n (front ++ back) := by
  by_cases h : n ≤ (ending n front ++ back).length
  · calc ending n (ending n front ++ back)
        = ending n (front.take (front.length - n) ++ (ending n front ++ back)) :=
          (ending_append_of_le h).symm
      _ = ending n (front ++ back) := by
          unfold ending
          rw [← List.append_assoc, List.take_append_drop]
  · have hall : ending n front = front := by
      unfold ending at h ⊢
      rw [List.length_append, List.length_drop] at h
      rw [show front.length - n = 0 by omega, List.drop_zero]
    rw [hall]

namespace Lanes

theorem absorbAll_of_isEmpty {lanes : Lanes} {bytes : List UInt8}
    (h : (bytes.drop stripeSize).isEmpty = true) : lanes.absorbAll bytes = (lanes, bytes) := by
  rw [absorbAll, dif_pos h]

theorem absorbAll_of_not_isEmpty {lanes : Lanes} {bytes : List UInt8}
    (h : ¬ (bytes.drop stripeSize).isEmpty = true) : lanes.absorbAll bytes =
      (lanes.absorb (bytes.take stripeSize)).absorbAll (bytes.drop stripeSize) := by
  rw [absorbAll, dif_neg h]

theorem stripeSize_lt_length {bytes : List UInt8}
    (h : ¬ (bytes.drop stripeSize).isEmpty = true) : stripeSize < bytes.length := by
  rwa [List.isEmpty_iff, List.drop_eq_nil_iff, Nat.not_le] at h

/-- **Bytes that arrive later** are absorbed behind those that were left. -/
theorem absorbAll_append (lanes : Lanes) (front back : List UInt8) :
    lanes.absorbAll (front ++ back) =
      (lanes.absorbAll front).1.absorbAll ((lanes.absorbAll front).2 ++ back) := by
  induction lanes, front using absorbAll.induct with
  | case1 lanes front h => rw [absorbAll_of_isEmpty h]
  | case2 lanes front h _ ih =>
    have hlength := stripeSize_lt_length h
    have hdrop : (front ++ back).drop stripeSize = front.drop stripeSize ++ back :=
      List.drop_append_of_le_length (Nat.le_of_lt hlength)
    have htake : (front ++ back).take stripeSize = front.take stripeSize :=
      List.take_append_of_le_length (Nat.le_of_lt hlength)
    have hmore : ¬ ((front ++ back).drop stripeSize).isEmpty = true := by
      rw [hdrop, List.isEmpty_iff, List.append_eq_nil_iff, ← List.isEmpty_iff]
      exact fun hboth => h hboth.1
    rw [absorbAll_of_not_isEmpty hmore, absorbAll_of_not_isEmpty h, htake, hdrop, ih]

/-- What is absorbed is nothing, or a stripe at least. -/
theorem exists_absorbed (lanes : Lanes) (bytes : List UInt8) :
    ∃ absorbed, bytes = absorbed ++ (lanes.absorbAll bytes).2 ∧
      (absorbed = [] ∨ stripeSize ≤ absorbed.length) := by
  induction lanes, bytes using absorbAll.induct with
  | case1 lanes bytes h => exact ⟨[], by rw [absorbAll_of_isEmpty h, List.nil_append], Or.inl rfl⟩
  | case2 lanes bytes h _ ih =>
    obtain ⟨absorbed, hsplit, -⟩ := ih
    have hlength := stripeSize_lt_length h
    refine ⟨bytes.take stripeSize ++ absorbed, ?_, Or.inr ?_⟩
    · rw [absorbAll_of_not_isEmpty h, List.append_assoc, ← hsplit, List.take_append_drop]
    · rw [List.length_append, List.length_take]
      omega

end Lanes

/-! ### Hashers -/

namespace Hasher

/-- **What a hasher knows of the input** that has arrived. -/
structure Knows (h : Hasher) (input : List UInt8) : Prop where
  length : h.length = input.length
  head : h.head = input.take shortLimit
  lanes : Lanes.start.absorbAll input = (h.lanes, h.pending)
  recent : ∃ absorbed, input = absorbed ++ h.pending ∧ h.recent = ending stripeSize absorbed

theorem knows_empty : empty.Knows [] where
  length := rfl
  head := rfl
  lanes := Lanes.absorbAll_of_isEmpty rfl
  recent := ⟨[], rfl, rfl⟩

theorem take_append_take (n : Nat) (front back : List UInt8) :
    front.take n ++ back.take (n - (front.take n).length) = (front ++ back).take n := by
  rw [List.take_append, List.length_take]
  congr 2
  omega

/-- **A piece more.** -/
theorem Knows.update {h : Hasher} {input : List UInt8} (hknows : h.Knows input)
    (piece : List UInt8) : (h.update piece).Knows (input ++ piece) := by
  obtain ⟨hlength, hhead, hlanes, absorbed, hinput, hrecent⟩ := hknows
  obtain ⟨more, hsplit, hmore⟩ := h.lanes.exists_absorbed (h.pending ++ piece)
  have htake : (h.pending ++ piece).take ((h.pending ++ piece).length -
      (h.lanes.absorbAll (h.pending ++ piece)).2.length) = more := by
    generalize h.pending ++ piece = bytes at hsplit ⊢
    generalize (h.lanes.absorbAll bytes).2 = pending at hsplit ⊢
    rw [hsplit, List.length_append, Nat.add_sub_cancel, List.take_left]
  constructor
  · simp only [Hasher.update, List.length_append, hlength]
  · simp only [Hasher.update, hhead]
    exact take_append_take _ _ _
  · simp only [Hasher.update]
    rw [Lanes.absorbAll_append, hlanes]
  · refine ⟨absorbed ++ more, ?_, ?_⟩
    · simp only [Hasher.update]
      rw [List.append_assoc, ← hsplit, hinput, List.append_assoc]
    · simp only [Hasher.update, htake]
      rcases hmore with rfl | hmore
      · rw [List.append_nil]
        exact hrecent
      · have hne : more.isEmpty = false := by
          rw [List.isEmpty_eq_false_iff]
          rintro rfl
          simp [stripeSize] at hmore
        rw [hne, ending_append_of_le hmore]
        rfl

theorem Knows.foldl_update {pieces : List (List UInt8)} {h : Hasher} {input : List UInt8}
    (hknows : h.Knows input) : (pieces.foldl Hasher.update h).Knows (input ++ pieces.flatten) := by
  induction pieces generalizing h input with
  | nil => rwa [List.flatten_nil, List.append_nil]
  | cons piece pieces ih =>
    rw [List.foldl_cons, List.flatten_cons, ← List.append_assoc]
    exact ih (hknows.update piece)

theorem Knows.digest_eq {h : Hasher} {input : List UInt8} (hknows : h.Knows input) :
    h.digest = ofList input := by
  obtain ⟨hlength, hhead, hlanes, absorbed, hinput, hrecent⟩ := hknows
  unfold digest ofList
  simp only [hlength, hlanes]
  by_cases hshort : input.length ≤ shortLimit
  · rw [if_pos hshort, if_pos hshort, hhead, List.take_of_length_le hshort]
  · have hlast : ending stripeSize (h.recent ++ h.pending) = ending stripeSize input := by
      rw [hrecent, ending_ending_append, ← hinput]
    rw [if_neg hshort, if_neg hshort]
    exact congrArg _ hlast

end Hasher

theorem ofPieces_eq_ofList (pieces : List (List UInt8)) : ofPieces pieces = ofList pieces.flatten :=
  Hasher.knows_empty.foldl_update.digest_eq

theorem flatten_inPieces {size : Nat} (hsize : 0 < size) (bytes : List UInt8) :
    (inPieces size bytes).flatten = bytes := by
  induction size, bytes using inPieces.induct with
  | case1 bytes => cases hsize
  | case2 size h => rw [inPieces]; rfl; exact h
  | case3 n b rest ih =>
    rw [inPieces, List.flatten_cons, ih hsize, List.cons_append, List.take_append_drop]

end OfflineManifest.Digest
