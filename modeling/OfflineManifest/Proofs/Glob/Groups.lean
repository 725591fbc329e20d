import OfflineManifest.Glob.Basic
import OfflineManifest.Proofs.Regex.Captures
import OfflineManifest.Proofs.Text.Split

/-! # Groups in fragments

A fragment is made of the fragments of segments and of what is written for double stars and between
segments (`joints`); what holds of these and is kept when texts are put one behind the other holds
of the whole fragment (`segmentsFragment_induction`). So no group of a fragment sets flags or has a
name where `?` is a wildcard (`plainGroups_fragment`), and no group keeps what it matches if the glob
has no parenthesis (`captures_fragment`). -/

namespace OfflineManifest.Glob

open Regex
open Regex.Reader (PlainGroups)

variable {q : QuestionMark} {s t : List Char}

/-- What is written for double stars and between segments. -/
def joints : List (List Char) :=
  [".*".toList, "(?:.+\\/)?".toList, "(?:\\/.*)?".toList, "\\/".toList]

/-- **What holds of all pieces of a fragment** holds of the fragment. -/
theorem segmentsFragment_induction {P : List Char → Prop} (hnil : P [])
    (happend : ∀ {s t}, P s → P t → P (s ++ t)) (hjoints : ∀ j ∈ joints, P j) :
    ∀ {segments : List (List Char)}, (∀ s ∈ segments, P (segmentFragment q s)) →
      P (segmentsFragment q segments)
  | [], _ => hnil
  | [s], h => by
    rw [segmentsFragment]
    split_ifs
    · exact hjoints _ (by simp [joints])
    · exact h s List.mem_cons_self
  | s :: t :: rest, h => by
    obtain ⟨hs, hrest⟩ := List.forall_mem_cons.mp h
    have ih := segmentsFragment_induction hnil happend hjoints hrest
    rw [segmentsFragment]
    swap
    · simp
    split_ifs
    · exact happend (hjoints _ (by simp [joints])) ih
    · exact happend hs (hjoints _ (by simp [joints]))
    · exact happend (happend hs (hjoints _ (by simp [joints]))) ih

/-! ### Groups that keep what they match -/

theorem uncaptured_joints : ∀ j ∈ joints, Uncaptured j := by decide

theorem not_mem_segmentFragment (h : '(' ∉ s) : '(' ∉ segmentFragment q s := by
  rw [segmentFragment, List.mem_flatMap]
  rintro ⟨c, hc, hmem⟩
  unfold charFragment at hmem
  split at hmem
  · exact absurd hmem (by decide)
  · exact absurd hmem (by decide)
  · exact absurd hmem (by decide)
  · cases q <;> exact absurd hmem (by decide)
  · exact h (List.mem_singleton.mp hmem ▸ hc)

/-- **No group of a fragment keeps what it matches**, if the glob opens none itself. -/
theorem captures_fragment {glob : String} (q : QuestionMark) (h : '(' ∉ glob.toList) :
    captures (fragment q glob) = 0 := by
  refine Uncaptured.captures_eq_zero ?_
  rw [fragment, String.toList_ofList]
  refine segmentsFragment_induction (.of_not_mem List.not_mem_nil) Uncaptured.append
    uncaptured_joints fun s hs => .of_not_mem (not_mem_segmentFragment fun hmem => ?_)
  exact h (mem_of_mem_splitOn hs hmem)

/-! ### Groups with flags or names -/

/-- The groups of a text are plain, also if an opening parenthesis stands in front of it. -/
structure Enclosable (s : List Char) : Prop where
  plain : PlainGroups s
  head : s.head? ≠ some '?'

theorem enclosable_of_not_mem (h : '?' ∉ s) : Enclosable s where
  plain _ ht := absurd (ht.subset (List.mem_cons_of_mem _ List.mem_cons_self)) h
  head hs := h (List.mem_of_mem_head? hs)

theorem plainGroups_append (hs : PlainGroups s) (ht : Enclosable t) : PlainGroups (s ++ t) := by
  induction s with
  | nil => exact ht.plain
  | cons a s ih =>
    intro u hu
    rcases List.suffix_cons_iff.mp hu with heq | hu
    · obtain ⟨rfl, hrest⟩ := List.cons.inj heq
      rcases List.append_eq_cons_iff.mp hrest.symm with ⟨-, rfl⟩ | ⟨v, rfl, rfl⟩
      · exact absurd rfl ht.head
      · have hv := hs v List.suffix_rfl
        rw [List.head?_append, hv, Option.some_or]
    · exact ih (fun v hv => hs v (hv.trans (List.suffix_cons a s))) u hu

theorem Enclosable.append (hs : Enclosable s) (ht : Enclosable t) : Enclosable (s ++ t) where
  plain := plainGroups_append hs.plain ht
  head := by
    cases s with
    | nil => exact ht.head
    | cons a s => exact hs.head

theorem enclosable_joints : ∀ j ∈ joints, Enclosable j := by
  have hhead : ∀ j ∈ joints, j.head? ≠ some '?' := by decide
  exact fun j hj => ⟨(uncaptured_joints j hj).plainGroups, hhead j hj⟩

theorem not_mem_charFragment (c : Char) : '?' ∉ charFragment .wildcard c := by
  unfold charFragment
  split
  · decide
  · decide
  · decide
  · decide
  · next h => simpa using fun hc => h hc.symm

/-- **No group of a fragment sets flags or has a name**, where `?` is a wildcard. -/
theorem plainGroups_fragment (glob : String) : PlainGroups (fragment .wildcard glob).toList := by
  rw [fragment, String.toList_ofList]
  have hall : Enclosable (segmentsFragment .wildcard (glob.toList.splitOn '/')) :=
    segmentsFragment_induction (enclosable_of_not_mem List.not_mem_nil) Enclosable.append
      enclosable_joints fun s _ => enclosable_of_not_mem <| by
        simp [segmentFragment, not_mem_charFragment]
  exact hall.plain

end OfflineManifest.Glob
