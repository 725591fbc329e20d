import Mathlib.Data.List.Basic
import OfflineManifest.Glob.Basic

/-! # What globs accept

A glob accepts a text by its segments, from left to right and without regular expressions. In a
segment `*` is a run of characters other than a slash and `?` one such character, or itself; a
line break may be among them. The segment `**` stands for any text without line breaks if it is the
last one; in front of others it stands for nothing, or for a text without line breaks that is not
empty, and the slash behind it. Where `**` is the last segment, the slash before it may be missing
together with what it stands for.

Both are decided by trying every place at which a text can be cut (`exists_append_iff`). -/

namespace OfflineManifest.Glob

/-- **A segment accepts a text.** -/
def SegmentAccepts (q : QuestionMark) : List Char → List Char → Prop
  | [], w => w = []
  | c :: rest, w =>
    if c = '*' then ∃ u v, w = u ++ v ∧ '/' ∉ u ∧ SegmentAccepts q rest v
    else if c = '?' ∧ q = .wildcard then ∃ a v, w = a :: v ∧ a ≠ '/' ∧ SegmentAccepts q rest v
    else ∃ v, w = c :: v ∧ SegmentAccepts q rest v

/-- **The segments of a glob accept a text.** -/
def SegmentsAccept (q : QuestionMark) : List (List Char) → List Char → Prop
  | [], w => w = []
  | [s], w => if s = wild then '\n' ∉ w else SegmentAccepts q s w
  | s :: rest, w =>
    if s = wild then
      SegmentsAccept q rest w ∨
        ∃ t p, w = t ++ '/' :: p ∧ t ≠ [] ∧ '\n' ∉ t ∧ SegmentsAccept q rest p
    else if rest = [wild] then
      ∃ x, SegmentAccepts q s x ∧ (w = x ∨ ∃ z, w = x ++ '/' :: z ∧ '\n' ∉ z)
    else ∃ x p, w = x ++ '/' :: p ∧ SegmentAccepts q s x ∧ SegmentsAccept q rest p

/-- **A glob accepts a text.** -/
def Accepts (q : QuestionMark) (glob : List Char) (w : List Char) : Prop :=
  SegmentsAccept q (glob.splitOn '/') w

/-! ### The rules for a first character and a first segment -/

variable {q : QuestionMark} {c : Char} {s w : List Char} {rest : List (List Char)}

theorem segmentAccepts_nil : SegmentAccepts q [] w ↔ w = [] :=
  Iff.rfl

theorem segmentAccepts_star :
    SegmentAccepts q ('*' :: s) w ↔ ∃ u v, w = u ++ v ∧ '/' ∉ u ∧ SegmentAccepts q s v :=
  iff_of_eq (if_pos rfl)

theorem segmentAccepts_mark :
    SegmentAccepts .wildcard ('?' :: s) w ↔
      ∃ a v, w = a :: v ∧ a ≠ '/' ∧ SegmentAccepts .wildcard s v :=
  iff_of_eq ((if_neg (by decide)).trans (if_pos ⟨rfl, rfl⟩))

theorem segmentAccepts_other (hstar : c ≠ '*') (hmark : ¬ (c = '?' ∧ q = .wildcard)) :
    SegmentAccepts q (c :: s) w ↔ ∃ v, w = c :: v ∧ SegmentAccepts q s v :=
  iff_of_eq ((if_neg hstar).trans (if_neg hmark))

theorem segmentsAccept_nil : SegmentsAccept q [] w ↔ w = [] :=
  Iff.rfl

theorem segmentsAccept_wild : SegmentsAccept q [wild] w ↔ '\n' ∉ w :=
  iff_of_eq (if_pos rfl)

theorem segmentsAccept_singleton (hs : s ≠ wild) :
    SegmentsAccept q [s] w ↔ SegmentAccepts q s w :=
  iff_of_eq (if_neg hs)

theorem segmentsAccept_wild_cons (hrest : rest ≠ []) :
    SegmentsAccept q (wild :: rest) w ↔
      SegmentsAccept q rest w ∨
        ∃ t p, w = t ++ '/' :: p ∧ t ≠ [] ∧ '\n' ∉ t ∧ SegmentsAccept q rest p := by
  obtain ⟨r, rest, rfl⟩ := List.exists_cons_of_ne_nil hrest
  exact iff_of_eq (if_pos rfl)

theorem segmentsAccept_cons_wild (hs : s ≠ wild) :
    SegmentsAccept q [s, wild] w ↔
      SegmentAccepts q s w ∨ ∃ x z, w = x ++ '/' :: z ∧ SegmentAccepts q s x ∧ '\n' ∉ z := by
  refine (iff_of_eq ((if_neg hs).trans (if_pos rfl))).trans ⟨?_, ?_⟩
  · rintro ⟨x, hx, rfl | ⟨z, hw, hz⟩⟩
    · exact Or.inl hx
    · exact Or.inr ⟨x, z, hw, hx, hz⟩
  · rintro (h | ⟨x, z, hw, hx, hz⟩)
    · exact ⟨w, h, Or.inl rfl⟩
    · exact ⟨x, hx, Or.inr ⟨z, hw, hz⟩⟩

theorem segmentsAccept_cons (hs : s ≠ wild) (hne : rest ≠ []) (hrest : rest ≠ [wild]) :
    SegmentsAccept q (s :: rest) w ↔
      ∃ x p, w = x ++ '/' :: p ∧ SegmentAccepts q s x ∧ SegmentsAccept q rest p := by
  obtain ⟨r, rest, rfl⟩ := List.exists_cons_of_ne_nil hne
  exact iff_of_eq ((if_neg hs).trans (if_neg hrest))

/-! ### Deciding acceptance -/

theorem exists_append_iff {P : List Char → List Char → Prop} :
    (∃ u v, w = u ++ v ∧ P u v) ↔ ∃ i < w.length + 1, P (w.take i) (w.drop i) := by
  constructor
  · rintro ⟨u, v, rfl, h⟩
    refine ⟨u.length, ?_, ?_⟩
    · rw [List.length_append]
      omega
    · rwa [List.take_left, List.drop_left]
  · rintro ⟨i, -, h⟩
    exact ⟨w.take i, w.drop i, (List.take_append_drop i w).symm, h⟩

theorem exists_append_slash_iff {P : List Char → List Char → Prop} :
    (∃ u v, w = u ++ '/' :: v ∧ P u v) ↔
      ∃ i < w.length, w[i]? = some '/' ∧ P (w.take i) (w.drop (i + 1)) := by
  constructor
  · rintro ⟨u, v, rfl, h⟩
    refine ⟨u.length, by simp, by simp, ?_⟩
    simpa using h
  · rintro ⟨i, hi, hslash, h⟩
    refine ⟨w.take i, w.drop (i + 1), ?_, h⟩
    rw [List.getElem?_eq_getElem hi, Option.some.injEq] at hslash
    rw [← hslash, List.getElem_cons_drop, List.take_append_drop]

-- The first character of the text is taken by cases: a search over characters would try all of them.
instance decidableSegmentAccepts (q : QuestionMark) :
    ∀ s w : List Char, Decidable (SegmentAccepts q s w)
  | [], w => decidable_of_iff (w = []) segmentAccepts_nil.symm
  | c :: s, w =>
    have : ∀ v, Decidable (SegmentAccepts q s v) := decidableSegmentAccepts q s
    if hstar : c = '*' then
      decidable_of_iff (∃ i < w.length + 1, '/' ∉ w.take i ∧ SegmentAccepts q s (w.drop i)) (by
        rw [hstar, segmentAccepts_star, exists_append_iff])
    else
      match w with
      | [] => isFalse (by
          by_cases hmark : c = '?' ∧ q = .wildcard
          · obtain ⟨rfl, rfl⟩ := hmark
            simp [segmentAccepts_mark]
          · simp [segmentAccepts_other hstar hmark])
      | a :: v =>
        if hmark : c = '?' ∧ q = .wildcard then
          decidable_of_iff (a ≠ '/' ∧ SegmentAccepts q s v) (by
            obtain ⟨rfl, rfl⟩ := hmark
            simp [segmentAccepts_mark])
        else
          decidable_of_iff (a = c ∧ SegmentAccepts q s v) (by
            simp [segmentAccepts_other hstar hmark])

instance decidableSegmentsAccept (q : QuestionMark) :
    ∀ (segments : List (List Char)) (w : List Char), Decidable (SegmentsAccept q segments w)
  | [], w => decidable_of_iff (w = []) segmentsAccept_nil.symm
  | [s], w =>
    if hs : s = wild then decidable_of_iff ('\n' ∉ w) (by rw [hs, segmentsAccept_wild])
    else decidable_of_iff (SegmentAccepts q s w) (segmentsAccept_singleton hs).symm
  | s :: t :: rest, w =>
    have : ∀ v, Decidable (SegmentsAccept q (t :: rest) v) :=
      decidableSegmentsAccept q (t :: rest)
    if hs : s = wild then
      decidable_of_iff (SegmentsAccept q (t :: rest) w ∨ ∃ i < w.length, w[i]? = some '/' ∧
        w.take i ≠ [] ∧ '\n' ∉ w.take i ∧ SegmentsAccept q (t :: rest) (w.drop (i + 1))) (by
        rw [hs, segmentsAccept_wild_cons (List.cons_ne_nil t rest), exists_append_slash_iff])
    else if hrest : t :: rest = [wild] then
      decidable_of_iff (SegmentAccepts q s w ∨ ∃ i < w.length, w[i]? = some '/' ∧
        SegmentAccepts q s (w.take i) ∧ '\n' ∉ w.drop (i + 1)) (by
        rw [hrest, segmentsAccept_cons_wild hs, exists_append_slash_iff])
    else
      decidable_of_iff (∃ i < w.length, w[i]? = some '/' ∧ SegmentAccepts q s (w.take i) ∧
        SegmentsAccept q (t :: rest) (w.drop (i + 1))) (by
        rw [segmentsAccept_cons hs (List.cons_ne_nil t rest) hrest, exists_append_slash_iff])

instance (q : QuestionMark) (glob w : List Char) : Decidable (Accepts q glob w) :=
  inferInstanceAs (Decidable (SegmentsAccept q (glob.splitOn '/') w))

/-- An inner `**` may stand for nothing, but not for an empty segment alone. -/
example : Accepts .wildcard "a/**/c".toList "a/c".toList ∧
    ¬ Accepts .wildcard "a/**/c".toList "a//c".toList := by decide

end OfflineManifest.Glob
