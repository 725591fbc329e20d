import OfflineManifest.Proofs.PatternSet
import OfflineManifest.Proofs.Url

/-! # What navigation rules accept

A URL glob is resolved against a base, and its fragment is taken as it is, with nothing protected.
If the resolved glob has no character that has a meaning in regular expressions alone, the fragment
matches what the glob accepts. The set of a list of such rules accepts the paths that some positive
one accepts and no negative one (`accepts_as_globs`); which texts the single rules match plays no part
in that (`ofRules_accepts`). -/

namespace OfflineManifest

/-! ### Sets of rules -/

namespace PatternSet

/-- The pattern that a rule becomes. -/
def ofRule (rule : NavigationRule) : Signed := (rule.regex, rule.positive, rule.regex)

/-- A pattern is well-formed and matches a text. -/
def Signed.Matches (p : Signed) (text : List Char) : Prop :=
  ∃ r : Regex, Regex.parse? p.2.2 = .ok r ∧ r.isMatch text = true

theorem Signed.Means.matches_iff {p : Signed} {A : List Char → Prop} (h : p.Means A)
    (text : List Char) : p.Matches text ↔ A text := by
  obtain ⟨r, hr, hA⟩ := h
  constructor
  · rintro ⟨r', hr', hmatch⟩
    cases hr.symm.trans hr'
    exact (hA text).mp hmatch
  · exact fun htext => ⟨r, hr, (hA text).mpr htext⟩

theorem Signed.Means.self {p : Signed} {A : List Char → Prop} (h : p.Means A) :
    p.Means p.Matches := by
  obtain ⟨r, hr, hA⟩ := h
  exact ⟨r, hr, fun text => (hA text).trans (Signed.Means.matches_iff ⟨r, hr, hA⟩ text).symm⟩

/-- **The set of a list of well-formed rules.** -/
theorem ofRules_accepts {α : Type} {rule : α → NavigationRule} {A : α → List Char → Prop}
    {l : List α} (h : ∀ a ∈ l, (ofRule (rule a)).Means (A a)) :
    ∃ set : PatternSet, ofRules (l.map rule) = .ok set ∧ ∀ path : String,
      (set.accepts path = true ↔
        (∃ a ∈ l, (rule a).positive = true ∧ A a path.toList) ∧
          ∀ a ∈ l, (rule a).positive = false → ¬ A a path.toList) := by
  have hmeans : ∀ p ∈ l.map fun a => ofRule (rule a), p.Means p.Matches :=
    List.forall_mem_map.mpr fun a ha => (h a ha).self
  obtain ⟨set, hset, haccepts⟩ := ofSigned_accepts navigationGroup hmeans
  refine ⟨set, ?_, fun path => ?_⟩
  · rw [ofRules, List.map_map]
    exact hset
  rw [haccepts]
  have hmatches : ∀ a ∈ l, (ofRule (rule a)).Matches path.toList ↔ A a path.toList :=
    fun a ha => (h a ha).matches_iff path.toList
  simp only [List.mem_map, exists_exists_and_eq_and, forall_exists_index, and_imp,
    forall_apply_eq_imp_iff₂]
  refine and_congr (exists_congr fun a => and_congr_right fun ha => ?_)
    (forall₂_congr fun a ha => ?_)
  · rw [hmatches a ha]
    rfl
  · rw [hmatches a ha]
    rfl

end PatternSet

/-! ### Rules of globs -/

namespace Glob

/-- No character of a glob has a meaning in regular expressions alone. -/
def NeedsNoEscape (glob : String) : Prop := ∀ c ∈ glob.toList, passesThrough c = false

instance (glob : String) : Decidable (NeedsNoEscape glob) :=
  List.decidableBAll _ glob.toList

theorem NeedsNoEscape.escaped_eq {glob : String} (h : NeedsNoEscape glob) : escaped glob = glob := by
  have hall : ∀ c ∈ glob.toList, (if passesThrough c then ['\\', c] else [c]) = [c] := by
    intro c hc
    rw [h c hc, if_neg Bool.false_ne_true]
  rw [escaped, List.flatMap_congr hall, List.flatMap_singleton', String.ofList_toList]

end Glob

open Glob PatternSet

/-- **The fragment of a resolved glob**, between anchors. -/
theorem Url.parse?_anchored_resolved {base glob : String} (q : QuestionMark)
    (h : NeedsNoEscape (Url.resolve base glob)) :
    ∃ r : Regex, Regex.parse? (anchored (Url.fragment base glob q)) = .ok r ∧
      ∀ text : List Char, r.isMatch text = true ↔ Accepts q (Url.resolve base glob).toList text := by
  have hparse := parse?_anchored_fragment q (Url.resolve base glob)
  rwa [h.escaped_eq] at hparse

namespace NavigationRule

variable {base : String} {patterns : List String}

theorem means_ofPattern {pattern : String}
    (h : NeedsNoEscape (Url.resolve base (signed pattern).2)) :
    (ofRule (ofPattern base pattern)).Means
      (Accepts .wildcard (Url.resolve base (signed pattern).2).toList) :=
  Url.parse?_anchored_resolved .wildcard h

theorem resolve_accepts (h : ∀ p ∈ patterns, NeedsNoEscape (Url.resolve base (signed p).2)) :
    ∃ set : PatternSet, ofRules (resolve base (some patterns)) = .ok set ∧ ∀ path : String,
      (set.accepts path = true ↔
        (∃ p ∈ patterns, p.toList.head? ≠ some '!' ∧
          Accepts .wildcard (Url.resolve base p).toList path.toList) ∧
        ∀ p ∈ patterns, ∀ body, p.toList = '!' :: body →
          ¬ Accepts .wildcard (Url.resolve base (String.ofList body)).toList path.toList) := by
  obtain ⟨set, hset, haccepts⟩ := ofRules_accepts fun p hp => means_ofPattern (h p hp)
  refine ⟨set, hset, fun path => (haccepts path).trans ?_⟩
  let A : String → Prop := fun glob => Accepts .wildcard (Url.resolve base glob).toList path.toList
  exact and_congr (exists_congr fun p => and_congr_right fun _ => and_of_signed_true (A := A))
    (forall₂_congr fun p _ => not_of_signed_false (A := A))

/-- **Rules mean what their globs say.** A resolved glob without characters that have a meaning in
regular expressions alone becomes a well-formed pattern, whatever `?` stands for, which matches the
texts that the glob accepts. The set of a list of such rules accepts the paths that some glob without
exclamation mark accepts and none of the globs behind one, each resolved by itself. -/
theorem accepts_as_globs (base : String) :
    (∀ pattern : String, Url.resolve base pattern =
      if Url.Rooted pattern ∨ "://".toList <:+: pattern.toList then pattern
      else Url.join base pattern) ∧
    (∀ (q : QuestionMark) (glob : String), NeedsNoEscape (Url.resolve base glob) →
      ∃ r : Regex, Regex.parse? (anchored (Url.fragment base glob q)) = .ok r ∧
        ∀ text : List Char, r.isMatch text = true ↔
          Accepts q (Url.resolve base glob).toList text) ∧
    ∀ patterns : List String,
      (∀ p ∈ patterns, NeedsNoEscape (Url.resolve base (signed p).2)) →
      ∃ set : PatternSet, ofRules (resolve base (some patterns)) = .ok set ∧ ∀ path : String,
        (set.accepts path = true ↔
          (∃ p ∈ patterns, p.toList.head? ≠ some '!' ∧
            Accepts .wildcard (Url.resolve base p).toList path.toList) ∧
          ∀ p ∈ patterns, ∀ body, p.toList = '!' :: body →
            ¬ Accepts .wildcard (Url.resolve base (String.ofList body)).toList path.toList) := by
  refine ⟨fun pattern => ?_, fun q glob h => Url.parse?_anchored_resolved q h,
    fun patterns h => resolve_accepts h⟩
  simp only [Url.resolve, Url.isAbsolute_iff]

theorem accepts_as_globs_docs :
    NeedsNoEscape (Url.resolve "/app" "docs/**/v?") ∧
      (∀ p ∈ ["docs/**", "!docs/**/v?"], NeedsNoEscape (Url.resolve "/app" (signed p).2)) ∧
      (∃ r : Regex, Regex.parse? (anchored (Url.fragment "/app" "docs/**/v?" .literal)) = .ok r ∧
        r.isMatch "/app/docs/a/b/v?".toList = true ∧
        ¬ r.isMatch "/app/docs/a/b/v1".toList = true) ∧
      ∃ set : PatternSet, ofRules (resolve "/app" (some ["docs/**", "!docs/**/v?"])) = .ok set ∧
        set.accepts "/app/docs" = true ∧ ¬ set.accepts "/app/docs/a/v1" = true := by
  have hglob : NeedsNoEscape (Url.resolve "/app" "docs/**/v?") := by decide
  have hpatterns : ∀ p ∈ ["docs/**", "!docs/**/v?"],
      NeedsNoEscape (Url.resolve "/app" (signed p).2) := by decide
  obtain ⟨-, hfragment, hrules⟩ := accepts_as_globs "/app"
  obtain ⟨r, hr, hmatch⟩ := hfragment .literal "docs/**/v?" hglob
  obtain ⟨set, hset, haccepts⟩ := hrules _ hpatterns
  refine ⟨hglob, hpatterns, ⟨r, hr, ?_, ?_⟩, set, hset, ?_, ?_⟩
  · rw [hmatch]
    decide
  · rw [hmatch]
    decide
  · rw [haccepts]
    refine ⟨⟨"docs/**", by simp, by decide, by decide⟩, fun p hp body hbody => ?_⟩
    rcases List.mem_pair.mp hp with rfl | rfl
    · have hhead : "docs/**".toList.head? = some '!' := by rw [hbody, List.head?_cons]
      exact absurd hhead (by decide)
    · rw [← (List.cons.inj hbody).2]
      decide
  · rw [haccepts]
    exact fun h => h.2 "!docs/**/v?" (by simp) "docs/**/v?".toList (by decide) (by decide)

end NavigationRule

end OfflineManifest
