import OfflineManifest.Proofs.Glob.Segments
import OfflineManifest.Proofs.Navigation.Rules

/-! # The default rules

Where no rules are written, every path is a navigation unless its last segment has a dot or some
segment has two underscores in a row. The globs that say so have an inner `**`, which does not stand
for an empty segment alone. So the segment right behind two slashes at the start of a path is passed
over (`regarded`), and the rules accept a path if the other segments ask for a page
(`defaults_accept_iff`). -/

namespace OfflineManifest.NavigationRule

open Glob PatternSet

/-- The segments of a path for a page: the last one has no file extension, and none has two
underscores in a row. -/
def AsksForPage (segments : List (List Char)) : Prop :=
  (∀ s ∈ segments.getLast?, '.' ∉ s) ∧ ∀ s ∈ segments, ¬ ['_', '_'] <:+: s

instance (segments : List (List Char)) : Decidable (AsksForPage segments) :=
  inferInstanceAs (Decidable (_ ∧ _))

/-- The segments that the default rules look at. Behind two slashes at the start the next segment is
passed over. -/
def regarded : List (List Char) → List (List Char)
  | [] :: [] :: _ :: rest => rest
  | segments => segments

theorem regarded_of_not {segments : List (List Char)}
    (h : ∀ x rest, segments ≠ [] :: [] :: x :: rest) : regarded segments = segments := by
  unfold regarded
  split
  · next x rest => exact absurd rfl (h x rest)
  · rfl

theorem regarded_suffix (segments : List (List Char)) : regarded segments <:+ segments := by
  unfold regarded
  split
  · next x rest => exact List.suffix_append [[], [], x] rest
  · exact List.suffix_rfl

theorem suffix_regarded_iff {segments more : List (List Char)} {x : List Char} (hx : x ≠ []) :
    x :: more <:+ regarded segments ↔ ∃ k, segments = k ++ x :: more ∧ k ≠ [[], []] := by
  by_cases h : ∃ y rest, segments = [] :: [] :: y :: rest
  · obtain ⟨y, rest, rfl⟩ := h
    constructor
    · rintro ⟨k, hk⟩
      have hrest : rest = k ++ x :: more := hk.symm
      exact ⟨[] :: [] :: y :: k, by rw [hrest]; rfl, by simp⟩
    · rintro ⟨k, hk, hne⟩
      -- what stands before `x` is longer than the two empty segments
      rcases k with _ | ⟨a, _ | ⟨b, _ | ⟨c, k⟩⟩⟩ <;>
        simp only [List.nil_append, List.cons_append, List.cons.injEq] at hk
      · exact absurd hk.1.symm hx
      · exact absurd hk.2.1.symm hx
      · exact absurd (by rw [← hk.1, ← hk.2.1]) hne
      · exact ⟨k, hk.2.2.2.symm⟩
  · rw [regarded_of_not fun y rest hy => h ⟨y, rest, hy⟩]
    constructor
    · rintro ⟨k, hk⟩
      refine ⟨k, hk.symm, ?_⟩
      rintro rfl
      exact h ⟨x, more, hk.symm⟩
    · rintro ⟨k, hk, -⟩
      exact ⟨k, hk.symm⟩

/-- A rooted glob with an inner `**` looks for its last segments among those that are regarded. -/
theorem segmentsAccept_inner_iff {q : QuestionMark} {rest : List (List Char)} {w : List Char}
    {P : List (List Char) → Prop} (hrest : rest ≠ []) (hline : '\n' ∉ w)
    (hP : ∀ p, '\n' ∉ p → (SegmentsAccept q rest p ↔ P (p.splitOn '/')))
    (hfirst : ∀ x more, P (x :: more) → x ≠ []) :
    SegmentsAccept q ([] :: wild :: rest) ('/' :: w) ↔
      ∃ x more, x :: more <:+ regarded (('/' :: w).splitOn '/') ∧ P (x :: more) := by
  have hsplit : ('/' :: w).splitOn '/' = [] :: w.splitOn '/' :=
    List.splitOn_append_cons_self_of_not_mem List.not_mem_nil w
  rw [segmentsAccept_nil_cons (List.cons_ne_nil wild rest),
    segmentsAccept_wild_cons_iff hrest hline, hsplit]
  constructor
  · rintro ⟨k, p, hk, hne, hp, h⟩
    rw [hP p hp] at h
    obtain ⟨x, more, hx⟩ := List.exists_cons_of_ne_nil (List.splitOn_ne_nil '/' p)
    rw [hx] at hk h
    refine ⟨x, more, (suffix_regarded_iff (hfirst x more h)).mpr ⟨[] :: k, ?_, ?_⟩, h⟩
    · rw [hk]
      rfl
    · exact fun he => hne (List.cons.inj he).2
  · rintro ⟨x, more, hsuffix, h⟩
    have hx := hfirst x more h
    obtain ⟨k, hk, hne⟩ := (suffix_regarded_iff hx).mp hsuffix
    cases k with
    | nil => exact absurd (List.cons.inj hk).1.symm hx
    | cons a k =>
      rw [List.cons_append, List.cons.injEq] at hk
      obtain ⟨rfl, hk⟩ := hk
      obtain ⟨p, hp, hw⟩ := exists_of_splitOn_eq_append hk (List.cons_ne_nil x more)
      have hpline : '\n' ∉ p := by
        rcases hw with ⟨-, rfl⟩ | ⟨t, -, rfl⟩
        · exact hline
        · exact fun h => hline (List.mem_append_right t (List.mem_cons_of_mem _ h))
      refine ⟨k, p, by rw [hk, hp], fun he => hne (by rw [he]), hpline, ?_⟩
      rw [hP p hpline, hp]
      exact h

/-- Characters that stand for themselves, at least one. -/
structure Marks (m : List Char) : Prop where
  ne_nil : m ≠ []
  slash : '/' ∉ m
  star : '*' ∉ m
  mark : '?' ∉ m

/-- A segment that contains marks. -/
def around (m : List Char) : List Char := '*' :: (m ++ ['*'])

section Marked

variable {q : QuestionMark} {m x w : List Char} {segments : List (List Char)}

theorem Marks.around_ne_wild (hm : Marks m) : around m ≠ wild := by
  intro h
  have hlength : (around m).length = 2 := by rw [h]; rfl
  have hpos : 0 < m.length := List.length_pos_of_ne_nil hm.ne_nil
  simp only [around, List.length_cons, List.length_append, List.length_nil] at hlength
  omega

theorem Marks.not_mem_around (hm : Marks m) : '/' ∉ around m := by
  simpa [around] using hm.slash

theorem Marks.accepts_iff (hm : Marks m) (hx : '/' ∉ x) :
    SegmentAccepts q (around m) x ↔ m <:+: x := by
  rw [around, segmentAccepts_between hm.star hm.mark hm.slash]
  exact and_iff_right hx

theorem Marks.ne_nil_of_accepts (hm : Marks m) (h : SegmentAccepts q (around m) x) : x ≠ [] := by
  rintro rfl
  rw [hm.accepts_iff List.not_mem_nil, List.infix_nil] at h
  exact hm.ne_nil h

theorem not_mem_of_mem_regarded (hx : x ∈ regarded (w.splitOn '/')) : '/' ∉ x :=
  not_mem_of_mem_splitOn ((regarded_suffix _).subset hx)

/-- The last segment has the marks. -/
theorem accepts_last_iff (hm : Marks m) (hline : '\n' ∉ w) :
    SegmentsAccept q [[], wild, around m] ('/' :: w) ↔
      ∃ x ∈ (regarded (('/' :: w).splitOn '/')).getLast?, m <:+: x := by
  rw [segmentsAccept_inner_iff (P := fun l => ∃ x, l = [x] ∧ SegmentAccepts q (around m) x)
    (List.cons_ne_nil _ _) hline
    (fun p _ => segmentsAccept_singleton_iff hm.around_ne_wild hm.not_mem_around)]
  swap
  · rintro x more ⟨y, hy, h⟩
    rw [(List.cons.inj hy).1]
    exact hm.ne_nil_of_accepts h
  constructor
  · rintro ⟨x, more, hsuffix, y, hy, h⟩
    obtain ⟨rfl, rfl⟩ := List.cons.inj hy
    have hmem := List.singleton_suffix_iff_getLast?_eq_some.mp hsuffix
    have hslash := not_mem_of_mem_regarded (List.mem_of_getLast? hmem)
    exact ⟨x, hmem, (hm.accepts_iff hslash).mp h⟩
  · rintro ⟨x, hx, h⟩
    have hslash := not_mem_of_mem_regarded (List.mem_of_getLast? hx)
    exact ⟨x, [], List.singleton_suffix_iff_getLast?_eq_some.mpr hx, x, rfl,
      (hm.accepts_iff hslash).mpr h⟩

/-- Some segment has the marks. -/
theorem accepts_some_iff (hm : Marks m) (hline : '\n' ∉ w) :
    SegmentsAccept q [[], wild, around m, wild] ('/' :: w) ↔
      ∃ x ∈ regarded (('/' :: w).splitOn '/'), m <:+: x := by
  rw [segmentsAccept_inner_iff
    (P := fun l => ∃ x more, l = x :: more ∧ SegmentAccepts q (around m) x)
    (List.cons_ne_nil _ _) hline
    (fun p => segmentsAccept_cons_wild_iff hm.around_ne_wild hm.not_mem_around)]
  swap
  · rintro x more ⟨y, rest, hy, h⟩
    rw [(List.cons.inj hy).1]
    exact hm.ne_nil_of_accepts h
  constructor
  · rintro ⟨x, more, hsuffix, y, rest, hy, h⟩
    obtain ⟨rfl, rfl⟩ := List.cons.inj hy
    have hmem := hsuffix.subset List.mem_cons_self
    exact ⟨x, hmem, (hm.accepts_iff (not_mem_of_mem_regarded hmem)).mp h⟩
  · rintro ⟨x, hx, h⟩
    obtain ⟨k, more, hk⟩ := List.append_of_mem hx
    exact ⟨x, more, ⟨k, hk.symm⟩, x, more, rfl,
      (hm.accepts_iff (not_mem_of_mem_regarded hx)).mpr h⟩

end Marked

theorem ofRules_defaults (base : String) :
    ∃ set : PatternSet, ofRules (resolve base none) = .ok set ∧ ∀ path : String,
      (set.accepts path = true ↔
        Accepts .wildcard "/**".toList path.toList ∧
          ¬ Accepts .wildcard "/**/*.*".toList path.toList ∧
          ¬ Accepts .wildcard "/**/*__*".toList path.toList ∧
          ¬ Accepts .wildcard "/**/*__*/**".toList path.toList) := by
  have hrooted : ∀ p ∈ defaults, Url.Rooted (signed p).2 := by decide
  have hescape : ∀ p ∈ defaults, NeedsNoEscape (signed p).2 := by decide
  have hmeans : ∀ p ∈ defaults,
      (ofRule (ofPattern base p)).Means (Accepts .wildcard (signed p).2.toList) := by
    intro p hp
    have hresolve := Url.resolve_of_rooted base (hrooted p hp)
    have hneeds : NeedsNoEscape (Url.resolve base (signed p).2) := by
      rw [hresolve]
      exact hescape p hp
    have hmeans := means_ofPattern hneeds
    rwa [hresolve] at hmeans
  obtain ⟨set, hset, haccepts⟩ := ofRules_accepts hmeans
  refine ⟨set, hset, fun path => (haccepts path).trans ?_⟩
  have hall : signed "/**" = (true, "/**") := by decide
  have hdot : signed "!/**/*.*" = (false, "/**/*.*") := by decide
  have hlast : signed "!/**/*__*" = (false, "/**/*__*") := by decide
  have hsome : signed "!/**/*__*/**" = (false, "/**/*__*/**") := by decide
  have hpositive : ∀ p, (ofPattern base p).positive = (signed p).1 := fun _ => rfl
  simp only [hpositive, defaults, List.mem_cons, List.not_mem_nil, or_false, exists_eq_or_imp,
    exists_eq_left, forall_eq_or_imp, forall_eq, hall, hdot, hlast, hsome]
  simp

/-- The default globs, on a rooted path. -/
theorem accepts_defaults_iff {w : List Char} (hline : '\n' ∉ w) :
    (Accepts .wildcard "/**".toList ('/' :: w) ∧
        ¬ Accepts .wildcard "/**/*.*".toList ('/' :: w) ∧
        ¬ Accepts .wildcard "/**/*__*".toList ('/' :: w) ∧
        ¬ Accepts .wildcard "/**/*__*/**".toList ('/' :: w)) ↔
      AsksForPage (regarded (('/' :: w).splitOn '/')) := by
  have hglobs : "/**".toList.splitOn '/' = [[], wild] ∧
      "/**/*.*".toList.splitOn '/' = [[], wild, around ['.']] ∧
      "/**/*__*".toList.splitOn '/' = [[], wild, around ['_', '_']] ∧
      "/**/*__*/**".toList.splitOn '/' = [[], wild, around ['_', '_'], wild] := by decide
  obtain ⟨hall, hdot, hlast, hsome⟩ := hglobs
  have hmark : Marks ['.'] := ⟨by decide, by decide, by decide, by decide⟩
  have hmarks : Marks ['_', '_'] := ⟨by decide, by decide, by decide, by decide⟩
  unfold Accepts AsksForPage
  rw [hall, hdot, hlast, hsome, segmentsAccept_nil_cons (List.cons_ne_nil wild []),
    segmentsAccept_wild, accepts_last_iff hmark hline, accepts_last_iff hmarks hline,
    accepts_some_iff hmarks hline]
  simp only [List.singleton_infix_iff, not_exists, not_and]
  constructor
  · rintro ⟨-, hdots, -, hunderscores⟩
    exact ⟨hdots, hunderscores⟩
  · rintro ⟨hdots, hunderscores⟩
    exact ⟨hline, hdots, fun x hx => hunderscores x (List.mem_of_getLast? hx), hunderscores⟩

theorem regarded_eq_self {w : List Char} (h : ¬ ['/', '/'] <+: '/' :: w) :
    regarded (('/' :: w).splitOn '/') = ('/' :: w).splitOn '/' := by
  refine regarded_of_not fun x rest hsplit => h ?_
  have hw : w.splitOn '/' = [[]] ++ x :: rest := by
    have hcons : ('/' :: w).splitOn '/' = [] :: w.splitOn '/' :=
      List.splitOn_append_cons_self_of_not_mem List.not_mem_nil w
    rw [hcons] at hsplit
    exact (List.cons.inj hsplit).2
  obtain ⟨p, -, ⟨hk, -⟩ | ⟨t, ht, rfl⟩⟩ :=
    exists_of_splitOn_eq_append hw (List.cons_ne_nil x rest)
  · cases hk
  · rw [(splitOn_eq_singleton_iff.mp ht.symm).1]
    exact ⟨p, rfl⟩

/-- **The default rules.** A rooted path without line breaks is accepted exactly if the segments that
are regarded ask for a page. These are all segments, unless the path starts with two slashes. -/
theorem defaults_accept_iff (base : String) :
    ∃ set : PatternSet, ofRules (resolve base none) = .ok set ∧
      ∀ path : String, Url.Rooted path → '\n' ∉ path.toList →
        (set.accepts path = true ↔ AsksForPage (regarded (path.toList.splitOn '/'))) ∧
          (¬ ['/', '/'] <+: path.toList →
            regarded (path.toList.splitOn '/') = path.toList.splitOn '/') := by
  obtain ⟨set, hset, haccepts⟩ := ofRules_defaults base
  refine ⟨set, hset, fun path hrooted hline => ?_⟩
  obtain ⟨w, hw⟩ := List.head?_eq_some_iff.mp hrooted
  rw [haccepts]
  rw [hw] at hline ⊢
  exact ⟨accepts_defaults_iff fun h => hline (List.mem_cons_of_mem _ h), regarded_eq_self⟩

theorem defaults_accept_iff_profile :
    Url.Rooted "/users/v1.2/profile" ∧ '\n' ∉ "/users/v1.2/profile".toList ∧
      ¬ ['/', '/'] <+: "/users/v1.2/profile".toList ∧
      Url.Rooted "/users/__admin/profile" ∧ '\n' ∉ "/users/__admin/profile".toList ∧
      ∃ set : PatternSet, ofRules (resolve "/app/" none) = .ok set ∧
        set.accepts "/users/v1.2/profile" = true ∧ ¬ set.accepts "/users/__admin/profile" = true := by
  have hrooted : Url.Rooted "/users/v1.2/profile" := by decide
  have hline : '\n' ∉ "/users/v1.2/profile".toList := by decide
  have hslashes : ¬ ['/', '/'] <+: "/users/v1.2/profile".toList := by decide
  have hrooted' : Url.Rooted "/users/__admin/profile" := by decide
  have hline' : '\n' ∉ "/users/__admin/profile".toList := by decide
  obtain ⟨set, hset, haccepts⟩ := defaults_accept_iff "/app/"
  refine ⟨hrooted, hline, hslashes, hrooted', hline', set, hset, ?_, ?_⟩
  · obtain ⟨hiff, hregarded⟩ := haccepts _ hrooted hline
    rw [hiff, hregarded hslashes]
    decide
  · rw [(haccepts _ hrooted' hline').1]
    decide

/-- Right behind two slashes at the start a file extension is not seen. -/
theorem exists_defaults_accept_extension :
    Url.Rooted "//app.js" ∧ '\n' ∉ "//app.js".toList ∧
      ¬ AsksForPage ("//app.js".toList.splitOn '/') ∧
      ∃ set : PatternSet, ofRules (resolve "/" none) = .ok set ∧ set.accepts "//app.js" = true := by
  obtain ⟨set, hset, haccepts⟩ := ofRules_defaults "/"
  refine ⟨by decide, by decide, by decide, set, hset, ?_⟩
  rw [haccepts]
  decide

end OfflineManifest.NavigationRule
