import OfflineManifest.Proofs.PatternSet
import OfflineManifest.Proofs.Text.Split
import OfflineManifest.Proofs.Url

/-! # A double star for a star

A segment `*` stands for one segment, which may be empty. A `**` in its place stands for any number
of segments; but in front of others it does not stand for an empty one alone. So a path without
empty segments stays accepted if a segment `*` of the glob becomes `**` (`segmentsAccept_widen`), and
it plays no part where in a rooted glob the segment stands (`accepts_replaceSegment_wild`). -/

namespace OfflineManifest

namespace Glob

/-- A glob with another segment at a position. -/
@[irreducible]
def replaceSegment (glob : String) (i : ℕ) (s : List Char) : String :=
  String.ofList (['/'].intercalate ((glob.toList.splitOn '/').set i s))

variable {q : QuestionMark} {s p u w : List Char} {front rest : List (List Char)}

/-! ### Texts behind a slash -/

/-- What stands behind a slash has no line breaks, and no two slashes next to each other, the one
before it included. -/
structure Tidy (w : List Char) : Prop where
  line : '\n' ∉ w
  slashes : ¬ ['/', '/'] <:+: '/' :: w

theorem tidy_of_suffix (hline : '\n' ∉ w) (hslashes : ¬ ['/', '/'] <:+: w)
    (h : '/' :: p <:+ w) : Tidy p where
  line hn := hline (h.subset (List.mem_cons_of_mem _ hn))
  slashes hs := hslashes (hs.trans h.isInfix)

theorem Tidy.below (h : Tidy (u ++ '/' :: p)) : Tidy p := by
  have hslashes : ¬ ['/', '/'] <:+: u ++ '/' :: p := fun hs =>
    h.slashes (hs.trans (List.suffix_cons '/' _).isInfix)
  exact tidy_of_suffix h.line hslashes (List.suffix_append u ('/' :: p))

theorem Tidy.ne_nil (h : Tidy (u ++ '/' :: p)) : u ≠ [] := by
  rintro rfl
  exact h.slashes ⟨[], p, rfl⟩

/-! ### One segment for another -/

theorem single_ne_wild : ['*'] ≠ wild := by decide

theorem append_single_ne_wild : front ++ ['*'] :: rest ≠ [wild] := by
  intro h
  have hmem : ['*'] ∈ [wild] := h ▸ List.mem_append_right front List.mem_cons_self
  exact single_ne_wild (List.mem_singleton.mp hmem)

/-- The segment is the first one. What `*` stands for in front of a slash is not empty. -/
theorem segmentsAccept_widen_head (hw : Tidy w) (h : SegmentsAccept q (['*'] :: rest) w) :
    SegmentsAccept q (wild :: rest) w := by
  by_cases hne : rest = []
  · rw [hne, segmentsAccept_wild]
    exact hw.line
  rw [segmentsAccept_wild_cons hne]
  by_cases hrest : rest = [wild]
  · left
    rw [hrest, segmentsAccept_wild]
    exact hw.line
  · right
    rw [segmentsAccept_cons single_ne_wild hne hrest] at h
    obtain ⟨x, p, rfl, -, hp⟩ := h
    exact ⟨x, p, rfl, hw.ne_nil, fun hn => hw.line (List.mem_append_left _ hn), hp⟩

/-- The segment stands somewhere behind one that is not `**`. -/
theorem segmentsAccept_widen_behind (hs : s ≠ wild)
    (htidy : ∀ x p, w = x ++ '/' :: p → Tidy p)
    (hwiden : ∀ p, Tidy p → SegmentsAccept q (front ++ ['*'] :: rest) p →
      SegmentsAccept q (front ++ wild :: rest) p)
    (h : SegmentsAccept q (s :: (front ++ ['*'] :: rest)) w) :
    SegmentsAccept q (s :: (front ++ wild :: rest)) w := by
  rw [segmentsAccept_cons hs (by simp) append_single_ne_wild] at h
  obtain ⟨x, p, hw, hx, hp⟩ := h
  have hline : Tidy p := htidy x p hw
  by_cases hlast : front ++ wild :: rest = [wild]
  · -- the segment was the last one, and the slash before it goes into the tail
    rw [hlast, segmentsAccept_cons_wild hs]
    exact Or.inr ⟨x, p, hw, hx, hline.line⟩
  · rw [segmentsAccept_cons hs (by simp) hlast]
    exact ⟨x, p, hw, hx, hwiden p hline hp⟩

/-- **A `**` for a `*`** behind a slash. -/
theorem segmentsAccept_widen : ∀ {front : List (List Char)} {w : List Char}, Tidy w →
    SegmentsAccept q (front ++ ['*'] :: rest) w → SegmentsAccept q (front ++ wild :: rest) w
  | [], w, hw, h => segmentsAccept_widen_head hw h
  | s :: front, w, hw, h => by
    rw [List.cons_append] at h ⊢
    by_cases hs : s = wild
    · rw [hs, segmentsAccept_wild_cons (by simp)] at h ⊢
      rcases h with h | ⟨t, p, rfl, ht, hline, hp⟩
      · exact Or.inl (segmentsAccept_widen hw h)
      · exact Or.inr ⟨t, p, rfl, ht, hline, segmentsAccept_widen hw.below hp⟩
    · refine segmentsAccept_widen_behind hs (fun x p hx => ?_)
        (fun p hp => segmentsAccept_widen hp) h
      rw [hx] at hw
      exact hw.below

/-! ### Rooted globs -/

theorem splitOn_of_rooted {glob : String} (h : Url.Rooted glob) :
    ∃ rest : List (List Char), rest ≠ [] ∧ glob.toList.splitOn '/' = [] :: rest := by
  obtain ⟨body, hbody⟩ := List.head?_eq_some_iff.mp h
  refine ⟨body.splitOn '/', List.splitOn_ne_nil '/' body, ?_⟩
  rw [hbody]
  exact List.splitOn_append_cons_self_of_not_mem List.not_mem_nil body

theorem splitOn_replaceSegment {glob : String} {i : ℕ} (hs : '/' ∉ s) :
    (replaceSegment glob i s).toList.splitOn '/' = (glob.toList.splitOn '/').set i s := by
  rw [replaceSegment, String.toList_ofList]
  refine List.splitOn_intercalate '/' (fun l hl => ?_) (by simp)
  rcases List.mem_or_eq_of_mem_set hl with hl | rfl
  · exact not_mem_of_mem_splitOn hl
  · exact hs

/-- **A rooted glob with `**` for one of its segments `*`** accepts the paths without line breaks
and empty segments that the glob accepts. -/
theorem accepts_replaceSegment_wild {glob : String} {i : ℕ} (hglob : Url.Rooted glob)
    (hi : (glob.toList.splitOn '/')[i]? = some ['*']) (hline : '\n' ∉ w)
    (hslashes : ¬ ['/', '/'] <:+: w) (h : Accepts q glob.toList w) :
    Accepts q (replaceSegment glob i wild).toList w := by
  obtain ⟨rest, -, hsplit⟩ := splitOn_of_rooted hglob
  unfold Accepts at h ⊢
  rw [splitOn_replaceSegment (by decide)]
  rw [hsplit] at hi h ⊢
  cases i with
  | zero => cases hi
  | succ j =>
    rw [List.getElem?_cons_succ] at hi
    obtain ⟨hj, hstar⟩ := List.getElem?_eq_some_iff.mp hi
    have hrest : rest = rest.take j ++ ['*'] :: rest.drop (j + 1) := by
      rw [← hstar, List.getElem_cons_drop, List.take_append_drop]
    have hset : rest.set j wild = rest.take j ++ wild :: rest.drop (j + 1) := by
      rw [List.set_eq_take_append_cons_drop, if_pos hj]
    rw [List.set_cons_succ, hset]
    rw [hrest] at h
    refine segmentsAccept_widen_behind (by decide) (fun x p hx => ?_)
      (fun p hp => segmentsAccept_widen hp) h
    exact tidy_of_suffix hline hslashes ⟨x, hx.symm⟩

theorem rooted_replaceSegment {glob : String} {i : ℕ} (hglob : Url.Rooted glob)
    (hi : (glob.toList.splitOn '/')[i]? = some ['*']) : Url.Rooted (replaceSegment glob i wild) := by
  obtain ⟨rest, hrest, hsplit⟩ := splitOn_of_rooted hglob
  rw [hsplit] at hi
  cases i with
  | zero => cases hi
  | succ j =>
    obtain ⟨t, ts, hts⟩ := List.exists_cons_of_ne_nil (mt (List.set_eq_nil_iff j wild).mp hrest)
    unfold Url.Rooted replaceSegment
    rw [String.toList_ofList, hsplit, List.set_cons_succ, hts]
    rfl

end Glob

namespace PatternSet

open Glob

theorem accepts_of_rooted {group glob : String} {set : PatternSet} (hglob : Url.Rooted glob)
    (h : ofGlobs group [glob] = .ok set) (path : String) :
    set.accepts path = true ↔ Accepts .wildcard glob.toList path.toList := by
  have hsigned : signed glob = (true, glob) := signed_of_ne (by rw [hglob]; decide)
  rw [accepts_of_ofGlobs h]
  simp [Includes, Excludes, hsigned]

/-- **A file glob with `**` for one of its segments `*`.** The set of a rooted glob accepts no path
without line breaks and empty segments that the set of the glob with `**` for the segment does not
accept. -/
theorem ofGlobs_replaceSegment_wild (group : String) {glob : String} {i : ℕ}
    (hglob : Url.Rooted glob) (hi : (glob.toList.splitOn '/')[i]? = some ['*']) :
    ∃ narrow wide : PatternSet, ofGlobs group [glob] = .ok narrow ∧
      ofGlobs group [replaceSegment glob i wild] = .ok wide ∧
      ∀ path : String, '\n' ∉ path.toList → ¬ ['/', '/'] <:+: path.toList →
        narrow.accepts path = true → wide.accepts path = true := by
  obtain ⟨narrow, hnarrow⟩ := exists_ofGlobs group [glob]
  obtain ⟨wide, hwide⟩ := exists_ofGlobs group [replaceSegment glob i wild]
  refine ⟨narrow, wide, hnarrow, hwide, fun path hline hslashes h => ?_⟩
  have hnarrow' := (accepts_of_rooted hglob hnarrow path).mp h
  have hwide' := accepts_replaceSegment_wild hglob hi hline hslashes hnarrow'
  exact (accepts_of_rooted (rooted_replaceSegment hglob hi) hwide path).mpr hwide'

theorem ofGlobs_replaceSegment_wild_last :
    Url.Rooted "/src/*/**" ∧ ("/src/*/**".toList.splitOn '/')[2]? = some ['*'] ∧
      '\n' ∉ "/src/app/main.js".toList ∧ ¬ ['/', '/'] <:+: "/src/app/main.js".toList ∧
      replaceSegment "/src/*/**" 2 wild = "/src/**/**" ∧
      ∃ narrow wide : PatternSet, ofGlobs "app" ["/src/*/**"] = .ok narrow ∧
        ofGlobs "app" ["/src/**/**"] = .ok wide ∧ narrow.accepts "/src/app/main.js" = true ∧
        wide.accepts "/src/app/main.js" = true := by
  have hglob : Url.Rooted "/src/*/**" := by decide
  have hi : ("/src/*/**".toList.splitOn '/')[2]? = some ['*'] := by decide
  have hline : '\n' ∉ "/src/app/main.js".toList := by decide
  have hslashes : ¬ ['/', '/'] <:+: "/src/app/main.js".toList := by decide
  have hreplace : replaceSegment "/src/*/**" 2 wild = "/src/**/**" := by decide +kernel
  obtain ⟨narrow, wide, hnarrow, hwide, h⟩ := ofGlobs_replaceSegment_wild "app" hglob hi
  have haccepts : narrow.accepts "/src/app/main.js" = true := by
    rw [accepts_of_rooted hglob hnarrow]
    decide
  rw [hreplace] at hwide
  exact ⟨hglob, hi, hline, hslashes, hreplace, narrow, wide, hnarrow, hwide, haccepts,
    h _ hline hslashes haccepts⟩

end PatternSet

end OfflineManifest
