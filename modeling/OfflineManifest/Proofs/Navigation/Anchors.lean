import OfflineManifest.Proofs.Glob.Groups
import OfflineManifest.Proofs.Navigation.Rules

/-! # What the anchors of navigation rules hold

The expression of a navigation rule is a fragment between anchors, and the fragment is made of a
pattern that may hold any syntax of expressions. Groups of the fragment come from the pattern, where
a question mark is written out as a wildcard, or from double stars; so no group sets flags or has a
name (`Glob.plainGroups_fragment`), and the anchors hold the outer alternatives of the fragment
(`NavigationRule.accepts_parts_of_alternatives`). A bar in a pattern therefore takes an anchor away
from the alternatives at both sides of it, unless it stands in a group or a bracket. -/

namespace OfflineManifest

open Glob PatternSet

namespace NavigationRule

/-- The regular expression of a pattern, without its anchors. -/
def fragment (base pattern : String) : String := Url.fragment base (signed pattern).2 .wildcard

/-- **An outer alternative of a fragment holds** of a part of a path: of one at the start of the
path if it is the first alternative, and of one at the end if it is the last. -/
def HoldsOfPart (base pattern path : String) : Prop :=
  ∃ alts, Regex.alternatives? (fragment base pattern) = .ok alts ∧
    Regex.Piece.Held (alts.map Regex.Matches) path.toList

/-- **A fragment matches a path** from its first to its last character. -/
def MatchesWhole (base pattern path : String) : Prop :=
  ∃ r, Regex.parse? (fragment base pattern) = .ok r ∧ r.Matches [] path.toList []

variable {base pattern path : String}

theorem regex_ofPattern (base pattern : String) :
    (ofPattern base pattern).regex =
      String.ofList ('^' :: ((fragment base pattern).toList ++ ['$'])) :=
  anchored_eq _

theorem means_holdsOfPart (hanchored : ∃ r, Regex.parse? (ofPattern base pattern).regex = .ok r)
    (hfragment : ∃ r, Regex.parse? (fragment base pattern) = .ok r) :
    (ofRule (ofPattern base pattern)).Means
      fun path => HoldsOfPart base pattern (String.ofList path) := by
  obtain ⟨r, hr⟩ := hanchored
  obtain ⟨y, hy⟩ := hfragment
  obtain ⟨first, rest, halts, -⟩ := Regex.alternatives?_of_parse? hy
  refine ⟨r, hr, fun text => ?_⟩
  rw [regex_ofPattern] at hr
  have hmatch := Regex.isMatch_anchored_iff (plainGroups_fragment _)
    (by rw [String.ofList_toList]; exact halts) hr text
  simp only [HoldsOfPart, halts, Except.ok.injEq, exists_eq_left', String.toList_ofList]
  exact hmatch

theorem holdsOfPart_iff {r : Regex} (h : Regex.alternatives? (fragment base pattern) = .ok [r])
    (hfragment : ∃ r, Regex.parse? (fragment base pattern) = .ok r) :
    HoldsOfPart base pattern path ↔ MatchesWhole base pattern path := by
  obtain ⟨x, hx⟩ := hfragment
  obtain ⟨first, rest, halts, rfl⟩ := Regex.alternatives?_of_parse? hx
  obtain ⟨rfl, rfl⟩ := List.cons.inj (Except.ok.inj (h.symm.trans halts))
  simp only [HoldsOfPart, MatchesWhole, h, hx, Except.ok.injEq, exists_eq_left', List.map_cons,
    List.map_nil, Regex.Piece.held_singleton]
  rfl

/-- No bar parts the fragment of a pattern, outside of groups and brackets. -/
def HasOneAlternative (base pattern : String) : Prop :=
  ∃ r, Regex.alternatives? (fragment base pattern) = .ok [r]

instance (base pattern : String) : Decidable (HasOneAlternative base pattern) :=
  decidable_of_iff
    ((Regex.alternatives? (fragment base pattern)).toOption.map List.length = some 1) <| by
    unfold HasOneAlternative
    rcases Regex.alternatives? (fragment base pattern) with e | alts
    · simp [Except.toOption]
    · simp [Except.toOption, List.length_eq_one_iff]

instance (base pattern path : String) : Decidable (MatchesWhole base pattern path) :=
  decidable_of_iff ((Regex.parse? (fragment base pattern)).toOption.any
    fun r => decide (r.Matches [] path.toList [])) <| by
    unfold MatchesWhole
    rcases Regex.parse? (fragment base pattern) with e | r
    · simp [Except.toOption]
    · simp [Except.toOption]

/-- **Anchors hold the outer alternatives.** If all rules of a list are well-formed, and the
fragments are so without their anchors, then the rules accept a path as parts of it are matched: by
the first alternative of a fragment at the start, by the last one at the end, and by those between
anywhere. If every fragment has one alternative only, these are whole paths. -/
theorem accepts_parts_of_alternatives (base : String) (patterns : List String)
    (hanchored : ∀ p ∈ patterns, ∃ r, Regex.parse? (ofPattern base p).regex = .ok r)
    (hfragment : ∀ p ∈ patterns, ∃ r, Regex.parse? (fragment base p) = .ok r) :
    ∃ set : PatternSet, ofRules (resolve base (some patterns)) = .ok set ∧
      (∀ path : String, set.accepts path = true ↔
        (∃ p ∈ patterns, (signed p).1 = true ∧ HoldsOfPart base p path) ∧
          ∀ p ∈ patterns, (signed p).1 = false → ¬ HoldsOfPart base p path) ∧
      ((∀ p ∈ patterns, HasOneAlternative base p) → ∀ path : String, set.accepts path = true ↔
        (∃ p ∈ patterns, (signed p).1 = true ∧ MatchesWhole base p path) ∧
          ∀ p ∈ patterns, (signed p).1 = false → ¬ MatchesWhole base p path) := by
  obtain ⟨set, hset, haccepts⟩ := ofRules_accepts fun p hp =>
    means_holdsOfPart (hanchored p hp) (hfragment p hp)
  simp only [String.ofList_toList] at haccepts
  refine ⟨set, hset, haccepts, fun hsingle path => (haccepts path).trans ?_⟩
  have hwhole : ∀ p ∈ patterns, HoldsOfPart base p path ↔ MatchesWhole base p path := by
    intro p hp
    obtain ⟨r, hr⟩ := hsingle p hp
    exact holdsOfPart_iff hr (hfragment p hp)
  refine and_congr (exists_congr fun p => and_congr_right fun hp => ?_)
    (forall₂_congr fun p hp => ?_)
  · rw [hwhole p hp]
    rfl
  · rw [hwhole p hp]
    rfl

theorem accepts_parts_of_alternatives_docs :
    (∀ p ∈ ["docs/(a|b)/**", "!docs/b/[0-9]{2,}"],
        (∃ r, Regex.parse? (ofPattern "/app/" p).regex = .ok r) ∧
          (∃ r, Regex.parse? (fragment "/app/" p) = .ok r) ∧ HasOneAlternative "/app/" p) ∧
      ∃ set : PatternSet,
        ofRules (resolve "/app/" (some ["docs/(a|b)/**", "!docs/b/[0-9]{2,}"])) = .ok set ∧
          set.accepts "/app/docs/b/7" = true ∧ ¬ set.accepts "/app/docs/b/77" = true := by
  have hformed : ∀ p ∈ ["docs/(a|b)/**", "!docs/b/[0-9]{2,}"],
      (∃ r, Regex.parse? (ofPattern "/app/" p).regex = .ok r) ∧
        (∃ r, Regex.parse? (fragment "/app/" p) = .ok r) ∧ HasOneAlternative "/app/" p := by
    decide +kernel
  obtain ⟨set, hset, -, haccepts⟩ := accepts_parts_of_alternatives "/app/" _
    (fun p hp => (hformed p hp).1) (fun p hp => (hformed p hp).2.1)
  refine ⟨hformed, set, hset, ?_, ?_⟩
  · rw [haccepts fun p hp => (hformed p hp).2.2]
    decide +kernel
  · rw [haccepts fun p hp => (hformed p hp).2.2]
    decide +kernel

/-- One of two alternatives is held at the start of the path alone, and the other one at its end. -/
theorem exists_part_accepted :
    (∀ p ∈ ["/a|/b"], (∃ r, Regex.parse? (ofPattern "/" p).regex = .ok r) ∧
        ∃ r, Regex.parse? (fragment "/" p) = .ok r) ∧
      ∃ set : PatternSet, ofRules (resolve "/" (some ["/a|/b"])) = .ok set ∧
        set.accepts "/x/b" = true ∧ ∀ p ∈ ["/a|/b"], ¬ MatchesWhole "/" p "/x/b" := by
  have hset : (ofRules (resolve "/" (some ["/a|/b"]))).toOption.map (·.accepts "/x/b") =
      some true := by
    decide +kernel
  rcases h : ofRules (resolve "/" (some ["/a|/b"])) with e | set
  · rw [h] at hset
    cases hset
  · rw [h] at hset
    exact ⟨by decide +kernel, set, rfl, Option.some.inj hset, by decide +kernel⟩

end NavigationRule

end OfflineManifest
