import OfflineManifest.PatternSet
import OfflineManifest.Proofs.Glob.Fragment

/-! # What pattern sets accept

A pattern set is made from a list of signed patterns, one after the other. If every pattern is
well-formed, the set exists, and it accepts the texts that some positive pattern matches and no
negative one (`ofSigned_accepts`). For file globs every pattern is well-formed, since characters
with a meaning in regular expressions are protected (`means_ofGlob`). -/

namespace OfflineManifest.PatternSet

/-- A pattern as it is written, with its sign and its regular expression. -/
abbrev Signed := String × Bool × String

/-- A pattern is well-formed and matches the texts with a property. -/
def Signed.Means (p : Signed) (A : List Char → Prop) : Prop :=
  ∃ r : Regex, Regex.parse? p.2.2 = .ok r ∧ ∀ text : List Char, r.isMatch text = true ↔ A text

theorem any_insert (s : PatternSet) (positive : Bool) (r : Regex) (text : List Char) :
    ((s.insert positive r).positive.any (·.isMatch text) =
        (s.positive.any (·.isMatch text) || (positive && r.isMatch text))) ∧
      ((s.insert positive r).negative.any (·.isMatch text) =
        (s.negative.any (·.isMatch text) || (!positive && r.isMatch text))) := by
  cases positive <;> simp [insert]

theorem foldlM_insert (group : String) {A : Signed → List Char → Prop} :
    ∀ {patterns : List Signed} (s : PatternSet), (∀ p ∈ patterns, p.Means (A p)) →
      ∃ set : PatternSet,
        patterns.foldlM (fun s (pattern, positive, regex) => do
          let r ← compile group pattern regex
          return s.insert positive r) s = .ok set ∧
        ∀ text : List Char,
          (set.positive.any (·.isMatch text) = true ↔
            s.positive.any (·.isMatch text) = true ∨ ∃ p ∈ patterns, p.2.1 = true ∧ A p text) ∧
          (set.negative.any (·.isMatch text) = true ↔
            s.negative.any (·.isMatch text) = true ∨ ∃ p ∈ patterns, p.2.1 = false ∧ A p text)
  | [], s, _ => ⟨s, rfl, fun text => by simp⟩
  | (pattern, positive, regex) :: patterns, s, h => by
    obtain ⟨r, hr, hA⟩ := h _ List.mem_cons_self
    obtain ⟨set, hset, hall⟩ := foldlM_insert group (s.insert positive r)
      fun p hp => h p (List.mem_cons_of_mem _ hp)
    have hcompile : compile group pattern regex = .ok r := by
      unfold compile
      rw [hr]
    refine ⟨set, ?_, fun text => ?_⟩
    · simp only [List.foldlM_cons, hcompile]
      exact hset
    · obtain ⟨hpos, hneg⟩ := any_insert s positive r text
      obtain ⟨hp, hn⟩ := hall text
      rw [hpos] at hp
      rw [hneg] at hn
      constructor
      · rw [hp]
        simp [hA text, or_assoc]
      · rw [hn]
        simp [hA text, or_assoc]

/-- **A set of well-formed patterns** accepts what a positive one matches and no negative one. -/
theorem ofSigned_accepts (group : String) {A : Signed → List Char → Prop} {patterns : List Signed}
    (h : ∀ p ∈ patterns, p.Means (A p)) :
    ∃ set : PatternSet, ofSigned group patterns = .ok set ∧ ∀ path : String,
      (set.accepts path = true ↔
        (∃ p ∈ patterns, p.2.1 = true ∧ A p path.toList) ∧
          ∀ p ∈ patterns, p.2.1 = false → ¬ A p path.toList) := by
  obtain ⟨set, hset, hall⟩ := foldlM_insert group empty h
  refine ⟨set, hset, fun path => ?_⟩
  obtain ⟨hp, hn⟩ := hall path.toList
  have hn' := not_congr hn
  rw [accepts, Bool.and_eq_true, hp, Bool.not_eq_true', ← Bool.not_eq_true, hn']
  simp [empty]

/-! ### File globs -/

/-- The pattern that a file glob becomes. -/
def ofGlob (glob : String) : Signed := (glob, (Glob.signed glob).1, fileRegex (Glob.signed glob).2)

theorem means_ofGlob (glob : String) :
    (ofGlob glob).Means (Glob.Accepts .wildcard (Glob.signed glob).2.toList) :=
  Glob.parse?_anchored_fragment .wildcard (Glob.signed glob).2

theorem signed_cons {glob : String} {body : List Char} (h : glob.toList = '!' :: body) :
    Glob.signed glob = (false, String.ofList body) := by
  unfold Glob.signed
  rw [h]
  rfl

theorem signed_of_ne {glob : String} (h : glob.toList.head? ≠ some '!') :
    Glob.signed glob = (true, glob) := by
  unfold Glob.signed
  split
  · next body hbody => exact absurd (by rw [hbody]; rfl) h
  · rfl

theorem and_of_signed_true {A : String → Prop} {pattern : String} :
    ((Glob.signed pattern).1 = true ∧ A (Glob.signed pattern).2) ↔
      pattern.toList.head? ≠ some '!' ∧ A pattern := by
  by_cases h : pattern.toList.head? = some '!'
  · obtain ⟨body, hbody⟩ := List.head?_eq_some_iff.mp h
    simp [signed_cons hbody, h]
  · simp [signed_of_ne h, h]

theorem not_of_signed_false {A : String → Prop} {pattern : String} :
    ((Glob.signed pattern).1 = false → ¬ A (Glob.signed pattern).2) ↔
      ∀ body, pattern.toList = '!' :: body → ¬ A (String.ofList body) := by
  by_cases h : pattern.toList.head? = some '!'
  · obtain ⟨body, hbody⟩ := List.head?_eq_some_iff.mp h
    simp [signed_cons hbody, hbody]
  · have hne : ∀ body, pattern.toList ≠ '!' :: body := fun body hbody => h (by rw [hbody]; rfl)
    simp [signed_of_ne h, hne]

theorem accepts_of_signed_true {glob : String} {w : List Char} :
    ((Glob.signed glob).1 = true ∧ Glob.Accepts .wildcard (Glob.signed glob).2.toList w) ↔
      glob.toList.head? ≠ some '!' ∧ Glob.Accepts .wildcard glob.toList w :=
  and_of_signed_true (A := fun glob => Glob.Accepts .wildcard glob.toList w)

theorem not_accepts_of_signed_false {glob : String} {w : List Char} :
    ((Glob.signed glob).1 = false → ¬ Glob.Accepts .wildcard (Glob.signed glob).2.toList w) ↔
      ∀ body, glob.toList = '!' :: body → ¬ Glob.Accepts .wildcard body w := by
  rw [not_of_signed_false (A := fun glob => Glob.Accepts .wildcard glob.toList w)]
  simp only [String.toList_ofList]

theorem means_of_mem_map_ofGlob (globs : List String) :
    ∀ p ∈ globs.map ofGlob, p.Means (Glob.Accepts .wildcard (Glob.signed p.1).2.toList) :=
  List.forall_mem_map.mpr fun glob _ => means_ofGlob glob

theorem exists_ofGlobs (group : String) (globs : List String) :
    ∃ set : PatternSet, ofGlobs group globs = .ok set := by
  obtain ⟨set, hset, -⟩ := ofSigned_accepts group (means_of_mem_map_ofGlob globs)
  exact ⟨set, hset⟩

/-! ### Lists of file globs -/

/-- Some glob of a list without exclamation mark accepts a path. -/
def Includes (globs : List String) (path : String) : Prop :=
  ∃ glob ∈ globs, (Glob.signed glob).1 = true ∧
    Glob.Accepts .wildcard (Glob.signed glob).2.toList path.toList

/-- Some glob of a list behind an exclamation mark accepts a path. -/
def Excludes (globs : List String) (path : String) : Prop :=
  ∃ glob ∈ globs, (Glob.signed glob).1 = false ∧
    Glob.Accepts .wildcard (Glob.signed glob).2.toList path.toList

theorem includes_append {globs globs' : List String} {path : String} :
    Includes (globs ++ globs') path ↔ Includes globs path ∨ Includes globs' path := by
  simp only [Includes, List.mem_append, or_and_right, exists_or]

theorem excludes_append {globs globs' : List String} {path : String} :
    Excludes (globs ++ globs') path ↔ Excludes globs path ∨ Excludes globs' path := by
  simp only [Excludes, List.mem_append, or_and_right, exists_or]

theorem accepts_of_ofGlobs {group : String} {globs : List String} {set : PatternSet}
    (h : ofGlobs group globs = .ok set) (path : String) :
    set.accepts path = true ↔ Includes globs path ∧ ¬ Excludes globs path := by
  obtain ⟨set', hset', haccepts⟩ := ofSigned_accepts group (means_of_mem_map_ofGlob globs)
  cases h.symm.trans hset'
  rw [haccepts]
  simp only [List.mem_map, exists_exists_and_eq_and, forall_exists_index, and_imp,
    forall_apply_eq_imp_iff₂, ofGlob, Includes, Excludes, not_exists, not_and]

/-- **The set of a list of file globs** always exists. It accepts the paths that some glob without
exclamation mark accepts and no glob behind one. -/
theorem ofGlobs_accepts_iff (group : String) (globs : List String) :
    ∃ set : PatternSet, ofGlobs group globs = .ok set ∧ ∀ path : String,
      (set.accepts path = true ↔
        (∃ glob ∈ globs, glob.toList.head? ≠ some '!' ∧
          Glob.Accepts .wildcard glob.toList path.toList) ∧
        ∀ glob ∈ globs, ∀ body, glob.toList = '!' :: body →
          ¬ Glob.Accepts .wildcard body path.toList) := by
  obtain ⟨set, hset, h⟩ := ofSigned_accepts group (means_of_mem_map_ofGlob globs)
  refine ⟨set, hset, fun path => (h path).trans ?_⟩
  refine and_congr ?_ ?_
  · simp only [List.mem_map, exists_exists_and_eq_and]
    exact exists_congr fun glob => and_congr_right fun _ => accepts_of_signed_true
  · simp only [List.forall_mem_map]
    exact forall₂_congr fun glob _ => not_accepts_of_signed_false

end OfflineManifest.PatternSet
