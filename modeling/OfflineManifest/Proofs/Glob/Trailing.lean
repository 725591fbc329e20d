import Mathlib.Algebra.Order.Kleene
import Mathlib.Order.CompletePartialOrder
import OfflineManifest.Proofs.Glob.Fragment

/-! # A double star behind a glob

Behind a glob, `/**` lets every accepted text be followed by a slash and any text without line
breaks. The accepted texts themselves stay accepted, since the slash is written into the optional
tail; except behind a segment that has such a tail already. There the first `**` becomes an inner
one, the slash before it is no longer optional, and `a/**/**` does not accept `a`
(`segmentsLanguage_concat_wild`, `isMatch_concat_wild`). -/

namespace OfflineManifest.Glob

open Computability Regex

/-- What a `**` stands for together with the slash before it. -/
def below : Language Char := slash * oneLine

/-- The last segment is `**` and the one before it is not, so that the slash between them is part of
an optional tail. -/
def HasTail (segments : List (List Char)) : Prop :=
  ∃ front s, segments = front ++ [s, wild] ∧ s ≠ wild

variable {q : QuestionMark} {s : List Char} {segments : List (List Char)} {L M : Language Char}

/-! ### Segments with a tail -/

theorem not_hasTail_singleton : ¬ HasTail [s] := by
  rintro ⟨front, t, h, -⟩
  have hlength := congrArg List.length h
  simp at hlength

theorem hasTail_pair (hs : s ≠ wild) : HasTail [s, wild] := ⟨[], s, rfl, hs⟩

theorem hasTail_cons (h : s = wild ∨ segments ≠ [wild]) :
    HasTail (s :: segments) ↔ HasTail segments := by
  constructor
  · rintro ⟨front, t, hfront, ht⟩
    cases front with
    | nil =>
      obtain ⟨rfl, rfl⟩ := List.cons.inj hfront
      exact absurd rfl (h.resolve_left ht)
    | cons a front => exact ⟨front, t, (List.cons.inj hfront).2, ht⟩
  · rintro ⟨front, t, rfl, ht⟩
    exact ⟨s :: front, t, rfl, ht⟩

/-! ### Texts without line breaks -/

theorem mul_le_oneLine (hL : L ≤ oneLine) (hM : M ≤ oneLine) : L * M ≤ oneLine := by
  intro w hw
  obtain ⟨u, hu, v, hv, rfl⟩ := Language.mem_mul.mp hw
  have hleft := mem_oneLine.mp (hL hu)
  have hright := mem_oneLine.mp (hM hv)
  exact mem_oneLine.mpr fun h => (List.mem_append.mp h).elim hleft hright

theorem one_le_oneLine : 1 ≤ oneLine := by
  intro w hw
  rw [(Language.mem_one w).mp hw]
  exact mem_oneLine.mpr List.not_mem_nil

theorem letters_le_oneLine {set : CharSet} (h : set '\n' = false) : letters set ≤ oneLine := by
  rintro w ⟨c, hc, rfl⟩
  refine mem_oneLine.mpr fun hn => ?_
  rw [← List.mem_singleton.mp hn, h] at hc
  cases hc

theorem below_le_oneLine : below ≤ oneLine := mul_le_oneLine (letters_le_oneLine rfl) le_rfl

/-- A text without line breaks may go on below. -/
theorem oneLine_mul_below_add_one : oneLine * (below + 1) = oneLine := by
  refine le_antisymm (mul_le_oneLine le_rfl (add_le below_le_oneLine one_le_oneLine)) ?_
  rw [mul_add, mul_one]
  exact le_add_self

/-- To go on below twice is to go on below once. -/
theorem below_add_one_mul_below : (below + 1) * below = below := by
  have hbelow : below * (below + 1) = below := by
    rw [below, mul_assoc]
    exact congrArg (slash * ·) oneLine_mul_below_add_one
  rw [add_mul, one_mul]
  rwa [mul_add, mul_one] at hbelow

theorem segmentsLanguage_wild_wild : segmentsLanguage q [wild, wild] = oneLine := by
  have hopen : letters (· != '\n') * oneLine * slash + 1 ≤ oneLine :=
    add_le (mul_le_oneLine (mul_le_oneLine (letters_le_oneLine rfl) le_rfl)
      (letters_le_oneLine rfl)) one_le_oneLine
  rw [segmentsLanguage_wild_cons (List.cons_ne_nil wild []), segmentsLanguage_wild]
  refine le_antisymm (mul_le_oneLine hopen le_rfl) ?_
  rw [add_mul, one_mul]
  exact le_add_self

/-! ### One segment more -/

/-- **A `**` behind segments.** -/
theorem segmentsLanguage_concat_wild : ∀ {segments : List (List Char)}, segments ≠ [] →
    (HasTail segments →
      segmentsLanguage q (segments ++ [wild]) = segmentsLanguage q segments * below) ∧
    (¬ HasTail segments →
      segmentsLanguage q (segments ++ [wild]) = segmentsLanguage q segments * (below + 1))
  | [s], _ => by
    refine ⟨fun h => absurd h not_hasTail_singleton, fun _ => ?_⟩
    rw [List.singleton_append]
    by_cases hs : s = wild
    · rw [hs, segmentsLanguage_wild_wild, segmentsLanguage_wild, oneLine_mul_below_add_one]
    · rw [segmentsLanguage_cons_wild hs, segmentsLanguage_singleton hs, below]
  | s :: t :: rest, _ => by
    obtain ⟨htail, hplain⟩ := segmentsLanguage_concat_wild (List.cons_ne_nil t rest)
    rw [List.cons_append]
    by_cases hs : s = wild
    · rw [hasTail_cons (Or.inl hs), hs, segmentsLanguage_wild_cons (by simp),
        segmentsLanguage_wild_cons (by simp), mul_assoc _ (segmentsLanguage q (t :: rest)),
        mul_assoc _ (segmentsLanguage q (t :: rest))]
      exact ⟨fun h => by rw [htail h], fun h => by rw [hplain h]⟩
    by_cases hlast : t :: rest = [wild]
    · -- the slash behind `s` leaves the optional tail
      rw [hlast, List.singleton_append]
      refine ⟨fun _ => ?_, fun h => absurd (hasTail_pair hs) h⟩
      rw [segmentsLanguage_cons hs (by simp) (by simp), segmentsLanguage_wild_wild,
        segmentsLanguage_cons_wild hs, mul_assoc, ← below, below_add_one_mul_below]
    · have hmore : t :: rest ++ [wild] ≠ [wild] := by simp
      rw [hasTail_cons (Or.inr hlast), segmentsLanguage_cons hs (by simp) hmore,
        segmentsLanguage_cons hs (by simp) hlast]
      constructor
      · intro h
        rw [htail h]
        simp only [mul_assoc]
      · intro h
        rw [hplain h]
        simp only [mul_assoc]

/-! ### Globs -/

theorem mem_mul_below {w : List Char} :
    w ∈ L * below ↔ ∃ x z, w = x ++ '/' :: z ∧ x ∈ L ∧ '\n' ∉ z := by
  rw [below, mem_mul_slash_mul]
  simp only [mem_oneLine]

theorem splitOn_concat_wild (glob : String) :
    (glob ++ "/**").toList.splitOn '/' = glob.toList.splitOn '/' ++ [wild] := by
  have htext : (glob ++ "/**").toList = glob.toList ++ '/' :: wild := by
    rw [String.toList_append]
    rfl
  rw [htext, List.splitOn_append_cons_self]
  rfl

/-- **What a glob with `/**` behind it accepts.** -/
theorem accepts_concat_wild {glob : String} {w : List Char} :
    Accepts q (glob ++ "/**").toList w ↔
      (∃ x z, w = x ++ '/' :: z ∧ Accepts q glob.toList x ∧ '\n' ∉ z) ∨
        ¬ HasTail (glob.toList.splitOn '/') ∧ Accepts q glob.toList w := by
  obtain ⟨htail, hplain⟩ :=
    segmentsLanguage_concat_wild (q := q) (List.splitOn_ne_nil '/' glob.toList)
  have hmem : Accepts q (glob ++ "/**").toList w ↔
      w ∈ segmentsLanguage q (glob.toList.splitOn '/' ++ [wild]) := by
    rw [← splitOn_concat_wild]
    rfl
  rw [hmem]
  by_cases h : HasTail (glob.toList.splitOn '/')
  · rw [htail h, mem_mul_below]
    simp only [h, not_true_eq_false, false_and, or_false]
    rfl
  · rw [hplain h, mul_add, mul_one, Language.mem_add, mem_mul_below]
    simp only [h, not_false_eq_true, true_and]
    rfl

/-- **The patterns of a glob and of the glob with `/**` behind it.** The second one matches the texts
that the first one matches, with a slash and a text without line breaks behind them; and these texts
themselves, unless the glob already ends in a segment other than `**` and a `**`. -/
theorem isMatch_concat_wild (q : QuestionMark) (glob : String) :
    ∃ r s : Regex, parse? (anchored (fragment q (escaped glob))) = .ok r ∧
      parse? (anchored (fragment q (escaped (glob ++ "/**")))) = .ok s ∧
      ∀ text : List Char, s.isMatch text = true ↔
        (∃ x z, text = x ++ '/' :: z ∧ r.isMatch x = true ∧ '\n' ∉ z) ∨
          ¬ HasTail (glob.toList.splitOn '/') ∧ r.isMatch text = true := by
  obtain ⟨r, hr, hmatch⟩ := parse?_anchored_fragment q glob
  obtain ⟨s, hs, hmatch'⟩ := parse?_anchored_fragment q (glob ++ "/**")
  refine ⟨r, s, hr, hs, fun text => ?_⟩
  rw [hmatch', accepts_concat_wild]
  simp only [hmatch]

/-- Behind a `**` that has the slash before it in its tail, a second one takes this slash: what
stands above is not accepted any more. -/
theorem not_isMatch_second_wild :
    ∃ r s : Regex, parse? (anchored (fragment .wildcard (escaped "a/**"))) = .ok r ∧
      parse? (anchored (fragment .wildcard (escaped ("a/**" ++ "/**")))) = .ok s ∧
      r.isMatch "a".toList = true ∧ ¬ s.isMatch "a".toList = true := by
  obtain ⟨r, hr, hmatch⟩ := parse?_anchored_fragment .wildcard "a/**"
  obtain ⟨s, hs, hmatch'⟩ := parse?_anchored_fragment .wildcard ("a/**" ++ "/**")
  refine ⟨r, s, hr, hs, ?_, ?_⟩
  · rw [hmatch]
    decide
  · rw [hmatch']
    decide

end OfflineManifest.Glob
