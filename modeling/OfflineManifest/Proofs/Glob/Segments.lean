import OfflineManifest.Proofs.Glob.Acceptance
import OfflineManifest.Proofs.Text.Split

/-! # Acceptance by the segments of a text

What a segment other than `**` accepts has no slash in it (`not_mem_of_segmentAccepts`), so that the
segments of the glob are found again among the segments of an accepted text: a last one is the last
segment of the text, one in front of a last `**` is followed by any segments, and what an inner `**`
stands for are whole segments, though not an empty one alone (`segmentsAccept_wild_cons_iff`). -/

namespace OfflineManifest.Glob

variable {q : QuestionMark} {s w : List Char} {rest : List (List Char)}

/-! ### Single segments -/

theorem not_mem_of_segmentAccepts : ∀ {s w : List Char}, '/' ∉ s → SegmentAccepts q s w → '/' ∉ w
  | [], w, _, h => by
    rw [segmentAccepts_nil.mp h]
    exact List.not_mem_nil
  | c :: s, w, hs, h => by
    rw [List.mem_cons, not_or] at hs
    have ih : ∀ {v}, SegmentAccepts q s v → '/' ∉ v := not_mem_of_segmentAccepts hs.2
    by_cases hstar : c = '*'
    · rw [hstar, segmentAccepts_star] at h
      obtain ⟨u, v, rfl, hu, hv⟩ := h
      exact fun hmem => (List.mem_append.mp hmem).elim hu (ih hv)
    by_cases hmark : c = '?' ∧ q = .wildcard
    · obtain ⟨rfl, rfl⟩ := hmark
      obtain ⟨a, v, rfl, ha, hv⟩ := segmentAccepts_mark.mp h
      exact fun hmem => (List.mem_cons.mp hmem).elim (fun he => ha he.symm) (ih hv)
    · obtain ⟨v, rfl, hv⟩ := (segmentAccepts_other hstar hmark).mp h
      exact fun hmem => (List.mem_cons.mp hmem).elim hs.1 (ih hv)

theorem segmentAccepts_single : SegmentAccepts q ['*'] w ↔ '/' ∉ w := by
  rw [segmentAccepts_star]
  constructor
  · rintro ⟨u, v, rfl, hu, hv⟩
    rwa [segmentAccepts_nil.mp hv, List.append_nil]
  · exact fun h => ⟨w, [], (List.append_nil w).symm, h, segmentAccepts_nil.mpr rfl⟩

/-- Characters that stand for themselves. -/
theorem segmentAccepts_append : ∀ {m w : List Char}, '*' ∉ m → '?' ∉ m →
    (SegmentAccepts q (m ++ s) w ↔ ∃ v, w = m ++ v ∧ SegmentAccepts q s v)
  | [], w, _, _ => by simp
  | c :: m, w, hstar, hmark => by
    rw [List.mem_cons, not_or] at hstar hmark
    rw [List.cons_append, segmentAccepts_other (Ne.symm hstar.1) fun h => hmark.1 h.1.symm]
    simp only [segmentAccepts_append hstar.2 hmark.2, List.cons_append]
    constructor
    · rintro ⟨_, rfl, v, rfl, hv⟩
      exact ⟨v, rfl, hv⟩
    · rintro ⟨v, rfl, hv⟩
      exact ⟨m ++ v, rfl, v, rfl, hv⟩

/-- **Characters between stars** stand somewhere in the segment. -/
theorem segmentAccepts_between {m : List Char} (hstar : '*' ∉ m) (hmark : '?' ∉ m)
    (hslash : '/' ∉ m) : SegmentAccepts q ('*' :: (m ++ ['*'])) w ↔ '/' ∉ w ∧ m <:+: w := by
  rw [segmentAccepts_star]
  simp only [segmentAccepts_append hstar hmark, segmentAccepts_single]
  constructor
  · rintro ⟨u, _, rfl, hu, v, rfl, hv⟩
    refine ⟨?_, u, v, List.append_assoc u m v⟩
    simp only [List.mem_append, not_or]
    exact ⟨hu, hslash, hv⟩
  · rintro ⟨hw, u, v, rfl⟩
    simp only [List.mem_append, not_or] at hw
    exact ⟨u, m ++ v, List.append_assoc u m v, hw.1.1, v, rfl, hw.2⟩

/-! ### Segments of the text -/

theorem segmentsAccept_singleton_iff (hs : s ≠ wild) (hslash : '/' ∉ s) :
    SegmentsAccept q [s] w ↔ ∃ x, w.splitOn '/' = [x] ∧ SegmentAccepts q s x := by
  rw [segmentsAccept_singleton hs]
  simp only [splitOn_eq_singleton_iff]
  constructor
  · exact fun h => ⟨w, ⟨rfl, not_mem_of_segmentAccepts hslash h⟩, h⟩
  · rintro ⟨x, ⟨rfl, -⟩, h⟩
    exact h

theorem segmentsAccept_cons_wild_iff (hs : s ≠ wild) (hslash : '/' ∉ s) (hline : '\n' ∉ w) :
    SegmentsAccept q [s, wild] w ↔
      ∃ x more, w.splitOn '/' = x :: more ∧ SegmentAccepts q s x := by
  rw [segmentsAccept_cons_wild hs]
  constructor
  · rintro (h | ⟨x, z, rfl, hx, -⟩)
    · exact ⟨w, [], List.splitOn_eq_singleton (not_mem_of_segmentAccepts hslash h), h⟩
    · have hx' : '/' ∉ x := not_mem_of_segmentAccepts hslash hx
      exact ⟨x, z.splitOn '/', List.splitOn_append_cons_self_of_not_mem hx' z, hx⟩
  · rintro ⟨x, more, hsplit, hx⟩
    by_cases hmore : more = []
    · rw [hmore, splitOn_eq_singleton_iff] at hsplit
      rw [hsplit.1]
      exact Or.inl hx
    · obtain ⟨z, -, ⟨h, -⟩ | ⟨t, ht, rfl⟩⟩ := exists_of_splitOn_eq_append (k := [x]) hsplit hmore
      · cases h
      · rw [eq_comm, splitOn_eq_singleton_iff] at ht
        rw [ht.1] at hline ⊢
        exact Or.inr ⟨x, z, rfl, hx, fun h =>
          hline (List.mem_append_right x (List.mem_cons_of_mem _ h))⟩

/-- **An inner `**`** stands for whole segments, though not for an empty one alone. -/
theorem segmentsAccept_wild_cons_iff (hrest : rest ≠ []) (hline : '\n' ∉ w) :
    SegmentsAccept q (wild :: rest) w ↔
      ∃ k p, w.splitOn '/' = k ++ p.splitOn '/' ∧ k ≠ [[]] ∧ '\n' ∉ p ∧
        SegmentsAccept q rest p := by
  rw [segmentsAccept_wild_cons hrest]
  constructor
  · rintro (h | ⟨t, p, rfl, ht, -, hp⟩)
    · exact ⟨[], w, rfl, (List.cons_ne_nil [] []).symm, hline, h⟩
    · refine ⟨t.splitOn '/', p, List.splitOn_append_cons_self t p, fun h => ?_, fun h => ?_, hp⟩
      · exact ht (splitOn_eq_singleton_iff.mp h).1
      · exact hline (List.mem_append_right t (List.mem_cons_of_mem _ h))
  · rintro ⟨k, p, hsplit, hk, hp, h⟩
    obtain ⟨p', hp', ⟨-, rfl⟩ | ⟨t, rfl, rfl⟩⟩ :=
      exists_of_splitOn_eq_append hsplit (List.splitOn_ne_nil '/' p)
    · rw [splitOn_inj.mp hp']
      exact Or.inl h
    · rw [splitOn_inj.mp hp'] at hline ⊢
      have ht : t ≠ [] := fun h => hk (by rw [h, List.splitOn_nil])
      exact Or.inr ⟨t, p, rfl, ht, fun h => hline (List.mem_append_left _ h), h⟩

/-- An empty first segment stands for the slash at the start. -/
theorem segmentsAccept_nil_cons (hrest : rest ≠ []) :
    SegmentsAccept q ([] :: rest) ('/' :: w) ↔ SegmentsAccept q rest w := by
  by_cases hwild : rest = [wild]
  · rw [hwild, segmentsAccept_cons_wild (by decide), segmentsAccept_wild]
    simp [segmentAccepts_nil]
  · rw [segmentsAccept_cons (by decide) hrest hwild]
    simp [segmentAccepts_nil]

end OfflineManifest.Glob
