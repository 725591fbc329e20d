import Mathlib.Data.List.Basic
import Mathlib.Data.Nat.Basic
import Mathlib.Logic.Function.Iterate
import Mathlib.Order.Basic
import Mathlib.Tactic.Common
import OfflineManifest.Regex.Basic

/-! # What the matcher finds

An expression *matches* a piece of a text that stands between two others (`Regex.Matches`); the
texts around it matter to the conditions on places alone. The matcher moves marks from place to
place. A transformation of marks *moves along* a relation between pieces if it marks the ends of all
pieces that start at a marked place and satisfy the relation (`Moves`). Moving along relations
is closed under what the matcher does: one move after another, either of two, and repetition, for
which the marks of a text of `n` characters grow at most `n + 1` times (`iterate_more_eq`).

* `moves_advance`: the matcher moves marks along the matches of an expression.
* `isMatch_iff`: it finds a match iff some piece of the text has one. -/

namespace OfflineManifest.Regex

/-- A relation between a piece of a text, what stands before it and what stands behind it. -/
abbrev Piece := List Char → List Char → List Char → Prop

namespace Piece

/-- A piece of the first kind, then one of the second. -/
def andThen (P Q : Piece) : Piece := fun pre w post =>
  ∃ u v, w = u ++ v ∧ P pre u (v ++ post) ∧ Q (pre ++ u) v post

/-- Pieces of one kind in a row. -/
def row (P : Piece) : ℕ → Piece
  | 0 => fun _ w _ => w = []
  | n + 1 => (row P n).andThen P

theorem andThen_assoc (P Q R : Piece) : (P.andThen Q).andThen R = P.andThen (Q.andThen R) := by
  funext pre w post
  refine propext ⟨?_, ?_⟩
  · rintro ⟨_, x, rfl, ⟨u, v, rfl, hu, hv⟩, hx⟩
    exact ⟨u, v ++ x, by simp, by simpa using hu, v, x, rfl, hv, by simpa using hx⟩
  · rintro ⟨u, _, rfl, hu, v, x, rfl, hv, hx⟩
    exact ⟨u ++ v, x, by simp, ⟨u, v, rfl, by simpa using hu, hv⟩, by simpa using hx⟩

theorem empty_andThen (P : Piece) : andThen (fun _ w _ => w = []) P = P := by
  funext pre w post
  refine propext ⟨?_, fun h => ⟨[], w, rfl, rfl, by simpa using h⟩⟩
  rintro ⟨_, v, rfl, rfl, hv⟩
  simpa using hv

theorem andThen_empty (P : Piece) : P.andThen (fun _ w _ => w = []) = P := by
  funext pre w post
  refine propext ⟨?_, fun h => ⟨w, [], by simp, by simpa using h, rfl⟩⟩
  rintro ⟨u, _, rfl, hu, rfl⟩
  simpa using hu

theorem row_add (P : Piece) (m n : ℕ) : P.row (m + n) = (P.row m).andThen (P.row n) := by
  induction n with
  | zero => exact (andThen_empty _).symm
  | succ n ih =>
    show (P.row (m + n)).andThen P = _
    rw [ih, andThen_assoc]
    rfl

end Piece

/-- **An expression matches a piece of a text.** -/
def Matches : Regex → Piece
  | empty => fun _ w _ => w = []
  | chars set => fun _ w _ => ∃ c, set c = true ∧ w = [c]
  | place test => fun pre w post => w = [] ∧ test pre.getLast? post.head? = true
  | seq r s => Piece.andThen (Matches r) (Matches s)
  | either r s => fun pre w post => Matches r pre w post ∨ Matches s pre w post
  | times r lo hi => fun pre w post =>
    ∃ n, lo ≤ n ∧ (∀ h ∈ hi, n ≤ max lo h) ∧ Piece.row (Matches r) n pre w post

theorem matches_seqAll_cons (r : Regex) (rs : List Regex) :
    (seqAll (r :: rs)).Matches = Piece.andThen r.Matches (seqAll rs).Matches := by
  cases rs with
  | nil => exact (Piece.andThen_empty _).symm
  | cons s rs => rfl

theorem matches_seqAll_append (rs ss : List Regex) :
    (seqAll (rs ++ ss)).Matches = Piece.andThen (seqAll rs).Matches (seqAll ss).Matches := by
  induction rs with
  | nil => exact (Piece.empty_andThen _).symm
  | cons r rs ih =>
    rw [List.cons_append, matches_seqAll_cons, ih, matches_seqAll_cons, Piece.andThen_assoc]

/-- A place of a text is marked. -/
def Marked (marks : List Bool) (place : List Char) : Prop := marks[place.length]? = some true

/-- **A transformation of marks moves along a relation** in a text. -/
def Moves (text : List Char) (P : Piece) (f : List Bool → List Bool) : Prop :=
  ∀ marks : List Bool, marks.length = text.length + 1 →
    (f marks).length = text.length + 1 ∧
      ∀ pre post, text = pre ++ post →
        (Marked (f marks) pre ↔ ∃ a w, pre = a ++ w ∧ Marked marks a ∧ P a w post)

variable {text : List Char} {P Q : Piece} {f g : List Bool → List Bool}

/-! ### Moves along simple relations -/

theorem Moves.congr (h : Moves text P f) (hPQ : ∀ a w post, P a w post ↔ Q a w post) :
    Moves text Q f := by
  have : P = Q := by
    funext a w post
    exact propext (hPQ a w post)
  exact this ▸ h

theorem moves_stay : Moves text (fun _ w _ => w = []) id := by
  refine fun marks hm => ⟨hm, fun pre post _ => ⟨fun h => ⟨pre, [], by simp, h, rfl⟩, ?_⟩⟩
  rintro ⟨a, w, rfl, h, rfl⟩
  simpa using h

theorem Moves.andThen (hf : Moves text P f) (hg : Moves text Q g) :
    Moves text (P.andThen Q) (g ∘ f) := by
  intro marks hm
  obtain ⟨hlf, hf⟩ := hf marks hm
  obtain ⟨hlg, hg⟩ := hg (f marks) hlf
  refine ⟨hlg, fun pre post ht => (hg pre post ht).trans ⟨?_, ?_⟩⟩
  · rintro ⟨b, v, rfl, hb, hq⟩
    obtain ⟨a, u, rfl, ha, hp⟩ := (hf b (v ++ post) (by rw [ht, List.append_assoc])).mp hb
    exact ⟨a, u ++ v, List.append_assoc .., ha, u, v, rfl, hp, hq⟩
  · rintro ⟨a, w, rfl, ha, u, v, rfl, hp, hq⟩
    refine ⟨a ++ u, v, (List.append_assoc ..).symm, ?_, hq⟩
    exact (hf (a ++ u) (v ++ post) (by rw [ht]; simp)).mpr ⟨a, u, rfl, ha, hp⟩

theorem length_joinMarks {x y : List Bool} (h : x.length = y.length) :
    (joinMarks x y).length = x.length := by
  unfold joinMarks
  simp [h]

theorem marked_joinMarks {x y : List Bool} (h : x.length = y.length) (place : List Char) :
    Marked (joinMarks x y) place ↔ Marked x place ∨ Marked y place := by
  unfold Marked joinMarks
  rw [List.getElem?_zipWith]
  by_cases hi : place.length < x.length
  · rw [List.getElem?_eq_getElem hi, List.getElem?_eq_getElem (h ▸ hi)]
    simp
  · rw [List.getElem?_eq_none (by omega), List.getElem?_eq_none (by omega)]
    simp

theorem Moves.join (hf : Moves text P f) (hg : Moves text Q g) :
    Moves text (fun a w post => P a w post ∨ Q a w post)
      (fun marks => joinMarks (f marks) (g marks)) := by
  intro marks hm
  obtain ⟨hlf, hf⟩ := hf marks hm
  obtain ⟨hlg, hg⟩ := hg marks hm
  have hl : (f marks).length = (g marks).length := by rw [hlf, hlg]
  refine ⟨by rw [length_joinMarks hl, hlf], fun pre post ht => ?_⟩
  rw [marked_joinMarks hl, hf pre post ht, hg pre post ht]
  constructor
  · rintro (⟨a, w, rfl, ha, h⟩ | ⟨a, w, rfl, ha, h⟩)
    · exact ⟨a, w, rfl, ha, Or.inl h⟩
    · exact ⟨a, w, rfl, ha, Or.inr h⟩
  · rintro ⟨a, w, rfl, ha, h | h⟩
    · exact Or.inl ⟨a, w, rfl, ha, h⟩
    · exact Or.inr ⟨a, w, rfl, ha, h⟩

theorem moves_chars (set : CharSet) :
    Moves text (fun _ w _ => ∃ c, set c = true ∧ w = [c])
      (fun marks => false :: List.zipWith (fun mark c => mark && set c) marks text) := by
  intro marks hm
  refine ⟨by simp [hm], fun pre post ht => ?_⟩
  rcases List.eq_nil_or_concat pre with rfl | ⟨a, c, rfl⟩
  · constructor
    · intro h
      simp [Marked] at h
    · rintro ⟨a, w, h, -, c, -, rfl⟩
      simp at h
  · rw [List.concat_eq_append] at ht ⊢
    have hc : text[a.length]? = some c := by rw [ht]; simp
    have hma : a.length < marks.length := by
      rw [hm, ht, List.length_append, List.length_append, List.length_singleton]
      omega
    simp only [Marked, List.length_append, List.length_singleton,
      List.getElem?_cons_succ, List.getElem?_zipWith, hc, List.getElem?_eq_getElem hma]
    constructor
    · intro h
      rw [Option.some.injEq, Bool.and_eq_true] at h
      exact ⟨a, [c], rfl, by rw [List.getElem?_eq_getElem hma, h.1], c, h.2, rfl⟩
    · rintro ⟨a', w, h, ha, c', hc', rfl⟩
      obtain ⟨rfl, h⟩ := List.append_inj' h rfl
      obtain rfl : c = c' := by simpa using h
      rw [List.getElem?_eq_getElem hma, Option.some.injEq] at ha
      rw [ha, hc']
      rfl

theorem length_placeMarks (test : PlaceTest) (before : Option Char) :
    (placeMarks test before text).length = text.length + 1 := by
  induction text generalizing before with
  | nil => rfl
  | cons c rest ih => simp [placeMarks, ih]

theorem getElem?_placeMarks (test : PlaceTest) (before : Option Char) (pre post : List Char) :
    (placeMarks test before (pre ++ post))[pre.length]? =
      some (test (pre.getLast?.or before) post.head?) := by
  induction pre generalizing before with
  | nil => cases post <;> simp [placeMarks]
  | cons c pre ih =>
    rw [List.cons_append, placeMarks, List.length_cons, List.getElem?_cons_succ, ih]
    cases pre <;> simp [List.getLast?_cons]

theorem moves_place (test : PlaceTest) :
    Moves text (fun pre w post => w = [] ∧ test pre.getLast? post.head? = true)
      (fun marks => List.zipWith (· && ·) marks (placeMarks test none text)) := by
  intro marks hm
  refine ⟨by simp [hm, length_placeMarks], fun pre post ht => ?_⟩
  have hma : pre.length < marks.length := by
    rw [hm, ht, List.length_append]
    omega
  unfold Marked
  rw [List.getElem?_zipWith, ht, getElem?_placeMarks, List.getElem?_eq_getElem hma]
  simp only [Option.or_none, Option.some.injEq, Bool.and_eq_true]
  constructor
  · rintro ⟨h, ht⟩
    exact ⟨pre, [], by simp, by rw [List.getElem?_eq_getElem hma, h], rfl, ht⟩
  · rintro ⟨a, w, h, ha, rfl, ht⟩
    obtain rfl : pre = a := by simpa using h
    rw [List.getElem?_eq_getElem hma, Option.some.injEq] at ha
    exact ⟨ha, ht⟩

/-! ### Repetition -/

theorem repeated_eq_iterate (f : List Bool → List Bool) (n : ℕ) (marks : List Bool) :
    repeated f n marks = f^[n] marks := by
  induction n generalizing marks with
  | zero => rfl
  | succ n ih =>
    rw [repeated, Function.iterate_succ_apply]
    split_ifs with h
    · rw [h, Function.iterate_fixed h]
    · exact ih (f marks)

theorem Moves.iterate (hf : Moves text P f) (n : ℕ) : Moves text (P.row n) f^[n] := by
  induction n with
  | zero => exact moves_stay
  | succ n ih =>
    rw [Function.iterate_succ']
    exact ih.andThen hf

/-- The marks and all places to which one move leads from them. -/
def more (f : List Bool → List Bool) (marks : List Bool) : List Bool := joinMarks marks (f marks)

theorem Moves.iterate_more (hf : Moves text P f) (k : ℕ) :
    Moves text (fun a w post => ∃ n, n ≤ k ∧ P.row n a w post) (more f)^[k] := by
  induction k with
  | zero => exact moves_stay.congr fun a w post => by simp [Piece.row]
  | succ k ih =>
    rw [Function.iterate_succ']
    refine (ih.andThen (moves_stay.join hf)).congr fun a w post => ?_
    constructor
    · rintro ⟨u, v, rfl, ⟨n, hn, hu⟩, rfl | hv⟩
      · exact ⟨n, by omega, by simpa using hu⟩
      · exact ⟨n + 1, by omega, u, v, rfl, hu, hv⟩
    · rintro ⟨n, hn, h⟩
      rcases Nat.lt_or_ge k n with hk | hk
      · obtain rfl : n = k + 1 := by omega
        obtain ⟨u, v, rfl, hu, hv⟩ := h
        exact ⟨u, v, rfl, ⟨k, le_rfl, hu⟩, Or.inr hv⟩
      · exact ⟨w, [], by simp, ⟨n, hk, by simpa using h⟩, Or.inl rfl⟩

theorem count_lt_count_joinMarks : ∀ {x y : List Bool}, x.length = y.length →
    joinMarks x y ≠ x → x.count true < (joinMarks x y).count true
  | [], [], _, h => absurd rfl h
  | a :: x, b :: y, hl, h => by
    have hl' : x.length = y.length := by simpa using hl
    have ih := count_lt_count_joinMarks hl'
    have hle : x.count true ≤ (joinMarks x y).count true := by
      by_cases he : joinMarks x y = x
      · exact (congrArg _ he).ge
      · exact (ih he).le
    simp only [joinMarks, List.zipWith_cons_cons, List.count_cons] at h ih hle ⊢
    cases a
    · cases b
      · have := ih fun he => h (by rw [he]; rfl)
        simpa using this
      · simp
        omega
    · have := ih fun he => h (by rw [he]; rfl)
      simpa using this

theorem Moves.length_more (hf : Moves text P f) {marks : List Bool}
    (hm : marks.length = text.length + 1) : (more f marks).length = text.length + 1 := by
  unfold more
  rw [length_joinMarks (by rw [hm, (hf marks hm).1]), hm]

/-- As long as marks are added, the number of moves is at most that of the marks. -/
theorem Moves.fixed_or_le_count (hf : Moves text P f) {marks : List Bool}
    (hm : marks.length = text.length + 1) (k : ℕ) :
    ((more f)^[k] marks).length = text.length + 1 ∧
      (more f ((more f)^[k] marks) = (more f)^[k] marks ∨
        k ≤ ((more f)^[k] marks).count true) := by
  induction k with
  | zero => exact ⟨hm, Or.inr (Nat.zero_le _)⟩
  | succ k ih =>
    obtain ⟨hl, h⟩ := ih
    rw [Function.iterate_succ_apply']
    refine ⟨hf.length_more hl, ?_⟩
    by_cases hfix : more f ((more f)^[k] marks) = (more f)^[k] marks
    · exact Or.inl (by rw [hfix, hfix])
    · have hlt := count_lt_count_joinMarks (by rw [hl, (hf _ hl).1]) hfix
      exact Or.inr (Nat.succ_le_of_lt ((h.resolve_left hfix).trans_lt hlt))

/-- **After one move for each place nothing is added any more.** -/
theorem Moves.iterate_more_eq (hf : Moves text P f) {marks : List Bool}
    (hm : marks.length = text.length + 1) {k : ℕ} (hk : text.length + 1 ≤ k) :
    (more f)^[k] marks = (more f)^[text.length + 1] marks := by
  set last := (more f)^[text.length + 1] marks with hlast
  have hfix : more f last = last := by
    obtain ⟨hl, h⟩ := hf.fixed_or_le_count hm (text.length + 1)
    rw [← hlast] at hl h
    by_contra hne
    have hc := h.resolve_left hne
    have hlt := count_lt_count_joinMarks (by rw [hl, (hf _ hl).1]) hne
    have hle := List.count_le_length (a := true) (l := more f last)
    rw [hf.length_more hl] at hle
    exact absurd (hc.trans_lt hlt) (not_lt.mpr hle)
  obtain ⟨j, rfl⟩ := Nat.exists_eq_add_of_le' hk
  rw [Function.iterate_add_apply, ← hlast, Function.iterate_fixed hfix]

theorem Piece.row_andThen_iff {lo k : ℕ} {a w post : List Char} :
    (P.row lo).andThen (fun a w post => ∃ n, n ≤ k ∧ P.row n a w post) a w post ↔
      ∃ n, lo ≤ n ∧ n ≤ lo + k ∧ P.row n a w post := by
  constructor
  · rintro ⟨u, v, rfl, hu, n, hn, hv⟩
    exact ⟨lo + n, by omega, by omega, by rw [P.row_add]; exact ⟨u, v, rfl, hu, hv⟩⟩
  · rintro ⟨n, hl, hn, h⟩
    obtain ⟨m, rfl⟩ := Nat.exists_eq_add_of_le hl
    rw [P.row_add] at h
    obtain ⟨u, v, rfl, hu, hv⟩ := h
    exact ⟨u, v, rfl, hu, m, by omega, hv⟩

/-- Some moves, and then at most some more. -/
theorem Moves.iterate_between (hf : Moves text P f) (lo k : ℕ) :
    Moves text (fun a w post => ∃ n, lo ≤ n ∧ n ≤ lo + k ∧ P.row n a w post)
      ((more f)^[k] ∘ f^[lo]) :=
  ((hf.iterate lo).andThen (hf.iterate_more k)).congr fun _ _ _ => Piece.row_andThen_iff

/-- Some moves, and then one more for each place, are as good as any number. -/
theorem Moves.iterate_from (hf : Moves text P f) (lo : ℕ) :
    Moves text (fun a w post => ∃ n, lo ≤ n ∧ P.row n a w post)
      ((more f)^[text.length + 1] ∘ f^[lo]) := by
  intro marks hm
  obtain ⟨hl, hall⟩ := hf.iterate_between lo (text.length + 1) marks hm
  refine ⟨hl, fun pre post ht => ?_⟩
  constructor
  · intro h
    obtain ⟨a, w, hpre, ha, n, hn, -, hw⟩ := (hall pre post ht).mp h
    exact ⟨a, w, hpre, ha, n, hn, hw⟩
  · rintro ⟨a, w, hpre, ha, n, hn, hw⟩
    -- as many moves as the row has pieces are enough, and more than one per place add nothing
    have hk : text.length + 1 ≤ text.length + 1 + n := Nat.le_add_right ..
    obtain ⟨-, hall'⟩ := hf.iterate_between lo (text.length + 1 + n) marks hm
    have hmarked := (hall' pre post ht).mpr ⟨a, w, hpre, ha, n, hn, by omega, hw⟩
    rw [Function.comp_apply, hf.iterate_more_eq (hf.iterate lo marks hm).1 hk] at hmarked
    exact hmarked

theorem Moves.times (hf : Moves text P f) (lo : ℕ) (hi : Option ℕ) :
    Moves text (fun a w post => ∃ n, lo ≤ n ∧ (∀ h ∈ hi, n ≤ max lo h) ∧ P.row n a w post)
      (fun marks =>
        match hi with
        | some h => repeated (more f) (h - lo) (repeated f lo marks)
        | none => repeated (more f) (text.length + 1) (repeated f lo marks)) := by
  simp only [repeated_eq_iterate]
  cases hi with
  | some h =>
    refine (hf.iterate_between lo (h - lo)).congr fun a w post => ?_
    refine exists_congr fun n => and_congr_right fun hn => and_congr_left fun _ => ?_
    simp
    omega
  | none =>
    refine (hf.iterate_from lo).congr fun a w post => ?_
    refine exists_congr fun n => and_congr_right fun hn => ?_
    simp

/-! ### The matcher -/

/-- **The matcher moves along the matches of an expression.** -/
theorem moves_advance (text : List Char) (r : Regex) :
    Moves text r.Matches (advance text r) := by
  induction r with
  | empty => exact moves_stay
  | chars set => exact moves_chars set
  | place test => exact moves_place test
  | seq r s hr hs => exact hr.andThen hs
  | either r s hr hs => exact hr.join hs
  | times r lo hi hr => exact hr.times lo hi

/-- **The matcher finds a match iff some piece of the text has one.** -/
theorem isMatch_iff {r : Regex} {text : List Char} :
    r.isMatch text = true ↔ ∃ pre w post, text = pre ++ w ++ post ∧ r.Matches pre w post := by
  have hall : ∀ place : List Char, place.length ≤ text.length →
      Marked (List.replicate (text.length + 1) true) place := by
    intro place h
    unfold Marked
    rw [List.getElem?_replicate, if_pos (by omega)]
  obtain ⟨hl, h⟩ := moves_advance text r (List.replicate (text.length + 1) true) (by simp)
  unfold isMatch
  rw [List.any_eq_true]
  constructor
  · rintro ⟨b, hb, rfl⟩
    obtain ⟨i, hi, hbi⟩ := List.getElem_of_mem hb
    have hpre : (text.take i).length = i := by rw [List.length_take]; omega
    obtain ⟨a, w, ha, -, hw⟩ := (h (text.take i) (text.drop i) (by simp)).mp
      (by unfold Marked; rw [hpre, List.getElem?_eq_getElem hi, hbi])
    exact ⟨a, w, text.drop i, by rw [← ha, List.take_append_drop], hw⟩
  · rintro ⟨pre, w, post, ht, hw⟩
    have hlen := congrArg List.length ht
    simp only [List.length_append] at hlen
    have hm := (h (pre ++ w) post ht).mpr ⟨pre, w, rfl, hall pre (by omega), hw⟩
    exact ⟨true, List.mem_of_getElem? hm, rfl⟩

/-- A mark at one place of a text, given the numbers of characters before and behind it. -/
def markAt (before behind : ℕ) : List Bool :=
  List.replicate before false ++ true :: List.replicate behind false

theorem marked_markAt {before behind : ℕ} {place : List Char} :
    Marked (markAt before behind) place ↔ place.length = before := by
  unfold Marked markAt
  rcases Nat.lt_trichotomy place.length before with h | h | h
  · simp [List.getElem?_append_left, h, h.ne]
  · simp [h]
  · obtain ⟨k, hk⟩ := Nat.exists_eq_add_of_lt h
    simp [List.getElem?_append_right, hk, Nat.add_assoc, List.getElem?_replicate]

/-- **The matcher decides on single pieces**: it takes a mark from the start of the piece to its end. -/
theorem marked_advance_iff (r : Regex) (pre w post : List Char) :
    Marked (advance (pre ++ w ++ post) r (markAt pre.length (w ++ post).length)) (pre ++ w) ↔
      r.Matches pre w post := by
  have hmarks : (markAt pre.length (w ++ post).length).length = (pre ++ w ++ post).length + 1 := by
    simp [markAt, Nat.add_assoc]
  rw [(moves_advance (pre ++ w ++ post) r _ hmarks).2 (pre ++ w) post rfl]
  constructor
  · rintro ⟨a, v, hsplit, ha, h⟩
    obtain ⟨rfl, rfl⟩ := List.append_inj hsplit (marked_markAt.mp ha).symm
    exact h
  · exact fun h => ⟨pre, w, rfl, marked_markAt.mpr rfl, h⟩

instance (r : Regex) (pre w post : List Char) : Decidable (r.Matches pre w post) :=
  decidable_of_iff _ (show _ = some true ↔ _ from marked_advance_iff r pre w post)

end OfflineManifest.Regex
