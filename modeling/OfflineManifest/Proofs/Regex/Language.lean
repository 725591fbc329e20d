import Mathlib.Computability.Language
import OfflineManifest.Proofs.Regex.Matching

/-! # The languages of expressions

An expression *denotes* a language if it matches the words of the language, whatever stands before
and behind them. Words of one character, concatenation, choice and repetition come from the
expressions that are built for them; what looks at the neighbours, such as an anchor, denotes no
language. Between an anchor for the start and one for the end an expression matches exactly
the texts of its language (`isMatch_anchored`). -/

namespace OfflineManifest.Regex

open Computability

/-- The words of one character of a set. -/
def letters (set : CharSet) : Language Char := {w | ∃ c, set c = true ∧ w = [c]}

/-- **An expression matches the words of a language**, wherever they stand. -/
def Denotes (r : Regex) (L : Language Char) : Prop := ∀ pre w post, r.Matches pre w post ↔ w ∈ L

variable {r s : Regex} {L M : Language Char} {set : CharSet}

/-! ### Words of letters -/

theorem mem_letters_mul {w : List Char} :
    w ∈ letters set * L ↔ ∃ c v, w = c :: v ∧ set c = true ∧ v ∈ L := by
  rw [Language.mem_mul]
  constructor
  · rintro ⟨_, ⟨c, hc, rfl⟩, v, hv, rfl⟩
    exact ⟨c, v, rfl, hc, hv⟩
  · rintro ⟨c, v, rfl, hc, hv⟩
    exact ⟨[c], ⟨c, hc, rfl⟩, v, hv, rfl⟩

theorem mem_letters_kstar {w : List Char} : w ∈ (letters set)∗ ↔ ∀ c ∈ w, set c = true := by
  constructor
  · rw [Language.mem_kstar]
    rintro ⟨words, rfl, h⟩ c hc
    obtain ⟨word, hword, hc⟩ := List.mem_flatten.mp hc
    obtain ⟨d, hd, rfl⟩ := h word hword
    rwa [List.mem_singleton.mp hc]
  · intro h
    refine Language.mem_kstar.mpr ⟨w.map fun c => [c], ?_, fun word hword => ?_⟩
    · induction w with
      | nil => rfl
      | cons c w ih => simp [← ih fun d hd => h d (List.mem_cons_of_mem _ hd)]
    · obtain ⟨c, hc, rfl⟩ := List.mem_map.mp hword
      exact ⟨c, h c hc, rfl⟩

/-! ### What expressions denote -/

theorem denotes_empty : empty.Denotes 1 := fun _ _ _ => (Language.mem_one _).symm

theorem denotes_chars (set : CharSet) : (chars set).Denotes (letters set) := fun _ _ _ => Iff.rfl

theorem andThen_iff_mem_mul {P Q : Piece} (hP : ∀ pre w post, P pre w post ↔ w ∈ L)
    (hQ : ∀ pre w post, Q pre w post ↔ w ∈ M) (pre w post : List Char) :
    P.andThen Q pre w post ↔ w ∈ L * M := by
  rw [Language.mem_mul]
  constructor
  · rintro ⟨u, v, rfl, hu, hv⟩
    exact ⟨u, (hP ..).mp hu, v, (hQ ..).mp hv, rfl⟩
  · rintro ⟨u, hu, v, hv, rfl⟩
    exact ⟨u, v, rfl, (hP ..).mpr hu, (hQ ..).mpr hv⟩

theorem Denotes.seq (hr : r.Denotes L) (hs : s.Denotes M) : (seq r s).Denotes (L * M) :=
  andThen_iff_mem_mul hr hs

theorem Denotes.row (hr : r.Denotes L) (n : ℕ) (pre w post : List Char) :
    Piece.row r.Matches n pre w post ↔ w ∈ L ^ n := by
  induction n generalizing pre w post with
  | zero => rw [pow_zero]; exact (Language.mem_one _).symm
  | succ n ih => rw [pow_succ]; exact andThen_iff_mem_mul ih hr pre w post

theorem Denotes.star (hr : r.Denotes L) : (times r 0 none).Denotes L∗ := by
  intro pre w post
  rw [Language.kstar_eq_iSup_pow, Language.mem_iSup]
  refine exists_congr fun n => ?_
  rw [← hr.row n pre w post]
  simp

theorem Denotes.plus (hr : r.Denotes L) : (times r 1 none).Denotes (L * L∗) := by
  intro pre w post
  rw [Language.kstar_eq_iSup_pow, Language.mul_iSup, Language.mem_iSup]
  constructor
  · rintro ⟨n, hn, -, h⟩
    obtain ⟨m, rfl⟩ := Nat.exists_eq_add_of_le' hn
    exact ⟨m, by rw [← pow_succ', ← hr.row _ pre w post]; exact h⟩
  · rintro ⟨m, h⟩
    rw [← pow_succ', ← hr.row _ pre w post] at h
    exact ⟨m + 1, by omega, by simp, h⟩

theorem Denotes.optional (hr : r.Denotes L) : (times r 0 (some 1)).Denotes (L + 1) := by
  intro pre w post
  rw [Language.mem_add]
  constructor
  · rintro ⟨n, -, hn, h⟩
    have hn : n ≤ 1 := by simpa using hn
    rw [hr.row] at h
    rcases Nat.le_one_iff_eq_zero_or_eq_one.mp hn with rfl | rfl
    · exact Or.inr (by simpa using h)
    · exact Or.inl (by simpa using h)
  · rintro (h | h)
    · exact ⟨1, by omega, by simp, (hr.row ..).mpr (by simpa using h)⟩
    · exact ⟨0, by omega, by simp, (hr.row ..).mpr (by simpa using h)⟩

theorem Denotes.seqAll_append {rs ss : List Regex} (hr : (seqAll rs).Denotes L)
    (hs : (seqAll ss).Denotes M) : (seqAll (rs ++ ss)).Denotes (L * M) := by
  intro pre w post
  rw [matches_seqAll_append]
  exact andThen_iff_mem_mul hr hs pre w post

/-! ### Whole texts -/

/-- **Between anchors an expression matches the texts of its language.** -/
theorem isMatch_anchored {rs : List Regex} {first last : PlaceTest} (hr : (seqAll rs).Denotes L)
    (hfirst : ∀ before after, first before after = before.isNone)
    (hlast : ∀ before after, last before after = after.isNone) (text : List Char) :
    (seqAll (place first :: (rs ++ [place last]))).isMatch text = true ↔ text ∈ L := by
  rw [isMatch_iff, matches_seqAll_cons, matches_seqAll_append]
  constructor
  · rintro ⟨pre, w, post, rfl, u, v, rfl, ⟨rfl, hpre⟩, x, y, rfl, hx, rfl, hpost⟩
    rw [hfirst, Option.isNone_iff_eq_none, List.getLast?_eq_none_iff] at hpre
    rw [hlast, Option.isNone_iff_eq_none, List.head?_eq_none_iff] at hpost
    subst hpre hpost
    simpa using (hr ..).mp hx
  · intro h
    refine ⟨[], text, [], by simp, [], text, rfl, ⟨rfl, ?_⟩, text, [], by simp, (hr ..).mpr h, rfl,
      ?_⟩
    · rw [hfirst]
      rfl
    · rw [hlast]
      rfl

end OfflineManifest.Regex
