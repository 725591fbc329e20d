import OfflineManifest.Url
import Mathlib.Data.List.Lex
import Mathlib.Data.String.Basic

/-! # Joining parts of URLs

A join has one slash between its parts, whether they have slashes there or not (`joinChars_eq`), so
that it does not matter in which order three parts are joined (`join_assoc`).

A path is rooted if it starts with a slash. Joined with a fixed base, rooted paths keep what follows
the slash, behind the same prefix. So the join is injective on them and keeps their order
(`join_inj`, `join_lt_join_iff`). A pattern is joined with a base unless it is rooted or has the
mark of a scheme (`isAbsolute_iff`). -/

namespace OfflineManifest.Url

/-! ### Three parts -/

section Parts

variable {b x y : List Char} {c : Char}

/-- A part without the slash in which it may end. -/
def dropStop (part : List Char) : List Char :=
  if part.getLast? = some '/' then part.dropLast else part

/-- A part without the slash with which it may start. -/
def dropStart : List Char → List Char
  | [] => []
  | c :: rest => if c = '/' then rest else c :: rest

theorem dropStop_cons (h : x ≠ []) : dropStop (c :: x) = c :: dropStop x := by
  unfold dropStop
  rw [List.getLast?_cons_of_ne_nil h, List.dropLast_cons_of_ne_nil h]
  split_ifs <;> rfl

theorem dropStop_append (h : y ≠ []) : dropStop (x ++ y) = x ++ dropStop y := by
  unfold dropStop
  rw [List.getLast?_append_of_ne_nil x h, List.dropLast_append_of_ne_nil h]
  split_ifs <;> rfl

theorem dropStart_append (h : x ≠ []) : dropStart (x ++ y) = dropStart x ++ y := by
  obtain ⟨c, x, rfl⟩ := List.exists_cons_of_ne_nil h
  rw [List.cons_append, dropStart, dropStart]
  split_ifs <;> rfl

/-- **A join** has one slash between its parts, whichever slashes these have there. -/
theorem joinChars_eq (a b : List Char) : joinChars a b = dropStop a ++ '/' :: dropStart b := by
  have hstart : b.head? = some '/' ∧ b = '/' :: dropStart b ∨
      b.head? ≠ some '/' ∧ dropStart b = b := by
    cases b with
    | nil => exact Or.inr ⟨by simp, rfl⟩
    | cons c b => by_cases hc : c = '/' <;> simp [dropStart, hc]
  have hstop : a.getLast? = some '/' ∧ a = dropStop a ++ ['/'] ∨
      a.getLast? ≠ some '/' ∧ dropStop a = a := by
    unfold dropStop
    by_cases ha : a.getLast? = some '/'
    · exact Or.inl ⟨ha, by rw [if_pos ha, List.dropLast_append_getLast? '/' ha]⟩
    · exact Or.inr ⟨ha, if_neg ha⟩
  unfold joinChars
  obtain ⟨ha, ha'⟩ | ⟨ha, ha'⟩ := hstop <;> obtain ⟨hb, hb'⟩ | ⟨hb, hb'⟩ := hstart
  · rw [ha, hb]
    conv_lhs => rw [ha', hb']
    simp
  · rw [ha, beq_eq_false_iff_ne.mpr hb, hb']
    conv_lhs => rw [ha']
    simp
  · rw [beq_eq_false_iff_ne.mpr ha, hb, ha']
    conv_lhs => rw [hb']
    simp
  · rw [beq_eq_false_iff_ne.mpr ha, beq_eq_false_iff_ne.mpr hb, ha', hb']

/-- A part that is no more than a slash is dropped from either side. -/
theorem dropStop_eq_nil (h : dropStart b = []) : dropStop b = [] := by
  cases b with
  | nil => rfl
  | cons c b =>
    rw [dropStart] at h
    split_ifs at h with hc
    rw [hc, h]
    rfl

/-- In any other part the two slashes are different ones. -/
theorem dropStop_dropStart (h : dropStart b ≠ []) :
    dropStop b ≠ [] ∧ dropStop (dropStart b) = dropStart (dropStop b) := by
  cases b with
  | nil => exact absurd rfl h
  | cons c b =>
    rw [dropStart] at h ⊢
    by_cases hc : c = '/'
    · rw [if_pos hc] at h ⊢
      rw [dropStop_cons h, dropStart, if_pos hc]
      exact ⟨List.cons_ne_nil _ _, rfl⟩
    · rw [if_neg hc]
      by_cases hb : b = []
      · have hstop : dropStop [c] = [c] := if_neg (by simpa using hc)
        rw [hb, hstop, dropStart, if_neg hc]
        exact ⟨List.cons_ne_nil _ _, rfl⟩
      · rw [dropStop_cons hb, dropStart, if_neg hc]
        exact ⟨List.cons_ne_nil _ _, rfl⟩

theorem joinChars_assoc (a b c : List Char) :
    joinChars (joinChars a b) c = joinChars a (joinChars b c) := by
  simp only [joinChars_eq]
  by_cases hb : dropStart b = []
  · rw [hb, dropStop_eq_nil hb, dropStop_append (List.cons_ne_nil _ _)]
    simp [dropStop, dropStart]
  · obtain ⟨hstop, hcomm⟩ := dropStop_dropStart hb
    rw [dropStop_append (List.cons_ne_nil _ _), dropStop_cons hb, hcomm, dropStart_append hstop,
      List.append_assoc, List.cons_append]

/-- **Joining is associative.** -/
theorem join_assoc (a b c : String) : join (join a b) c = join a (join b c) := by
  unfold join
  rw [String.toList_ofList, String.toList_ofList, joinChars_assoc]

end Parts

/-! ### Rooted paths -/

/-- A path that starts at the root. -/
def Rooted (path : String) : Prop := path.toList.head? = some '/'

instance (path : String) : Decidable (Rooted path) := inferInstanceAs (Decidable (_ = _))

/-- A base without the slash in which it may end. -/
def stem (base : String) : List Char :=
  if base.toList.getLast? = some '/' then base.toList.dropLast else base.toList

theorem toList_join {base path : String} (h : Rooted path) :
    (join base path).toList = stem base ++ path.toList := by
  obtain ⟨rest, hrest⟩ := List.head?_eq_some_iff.mp h
  rw [join, String.toList_ofList, joinChars_eq, hrest, dropStart, if_pos rfl]
  rfl

/-- **The join with a base** keeps the order of rooted paths. -/
theorem join_lt_join {base f g : String} (hf : Rooted f) (hg : Rooted g) (h : f < g) :
    join base f < join base g := by
  change (join base f).toList < (join base g).toList
  rw [toList_join hf, toList_join hg]
  exact List.append_left_lt h

theorem join_inj {base f g : String} (hf : Rooted f) (hg : Rooted g) :
    join base f = join base g ↔ f = g := by
  rw [← String.toList_inj, toList_join hf, toList_join hg, List.append_cancel_left_eq,
    String.toList_inj]

theorem join_lt_join_iff {base f g : String} (hf : Rooted f) (hg : Rooted g) :
    join base f < join base g ↔ f < g := by
  refine ⟨fun h => ?_, join_lt_join hf hg⟩
  rcases lt_trichotomy f g with hlt | rfl | hgt
  · exact hlt
  · exact absurd h (lt_irrefl _)
  · exact absurd h (join_lt_join hg hf hgt).asymm

/-! ### Patterns that stand for themselves -/

theorem hasSchemeMark_iff {pattern : List Char} :
    hasSchemeMark pattern = true ↔ "://".toList <:+: pattern := by
  induction pattern with
  | nil => simp [hasSchemeMark]
  | cons c rest ih =>
    rw [hasSchemeMark, Bool.or_eq_true, List.isPrefixOf_iff_prefix, ih, List.infix_cons_iff]

theorem isAbsolute_iff {pattern : String} :
    isAbsolute pattern.toList = true ↔ Rooted pattern ∨ "://".toList <:+: pattern.toList := by
  rw [isAbsolute, Bool.or_eq_true, beq_iff_eq, hasSchemeMark_iff]
  rfl

theorem resolve_of_rooted {pattern : String} (base : String) (h : Rooted pattern) :
    resolve base pattern = pattern := by
  rw [resolve, if_pos (isAbsolute_iff.mpr (Or.inl h))]

theorem resolve_of_relative {pattern : String} (base : String)
    (h : isAbsolute pattern.toList = false) : resolve base pattern = join base pattern := by
  rw [resolve, h]
  rfl

end OfflineManifest.Url
