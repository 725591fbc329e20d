import OfflineManifest.Proofs.Glob.Acceptance
import OfflineManifest.Proofs.Regex.Reading

/-! # What fragments match

The fragment of a glob in which the characters of regular expressions are protected reads, piece by
piece, as the language of the texts that the glob accepts (`reads_fragment`). Every piece is an
escaped or a plain character, a bracket, a repetition of one of these, or an optional group, and none
starts with a question mark; so no piece takes part of its neighbour.

* `parse?_anchored_fragment`: between anchors such a fragment is a well-formed pattern, which
  matches exactly the texts that the glob accepts. -/

namespace OfflineManifest.Glob

open Computability Regex Regex.Reader

/-- How a character is protected. -/
def escapedChar (c : Char) : List Char := if passesThrough c then ['\\', c] else [c]

/-- The texts without line breaks. -/
def oneLine : Language Char := (letters (· != '\n'))∗

/-- The text of a slash. -/
def slash : Language Char := letters (CharSet.single '/')

/-- What a character of a segment accepts. -/
def charLanguage (q : QuestionMark) (c : Char) : Language Char :=
  if c = '*' then (letters (· != '/'))∗
  else if c = '?' ∧ q = .wildcard then letters (· != '/')
  else letters (CharSet.single c)

/-- What a segment accepts. -/
def segmentLanguage (q : QuestionMark) (s : List Char) : Language Char :=
  {w | SegmentAccepts q s w}

/-- What the segments of a glob accept. -/
def segmentsLanguage (q : QuestionMark) (segments : List (List Char)) : Language Char :=
  {w | SegmentsAccept q segments w}

variable {q : QuestionMark} {w : List Char}

/-! ### Acceptance as a language -/

theorem mem_oneLine : w ∈ oneLine ↔ '\n' ∉ w := by
  rw [oneLine, mem_letters_kstar]
  constructor
  · exact fun h hn => by simpa using h '\n' hn
  · rintro h c hc
    rw [bne_iff_ne]
    rintro rfl
    exact h hc

theorem mem_slash_mul {L : Language Char} : w ∈ slash * L ↔ ∃ p, w = '/' :: p ∧ p ∈ L := by
  rw [slash, mem_letters_mul]
  simp [CharSet.single]

theorem mem_mul_slash_mul {L M : Language Char} :
    w ∈ L * (slash * M) ↔ ∃ x p, w = x ++ '/' :: p ∧ x ∈ L ∧ p ∈ M := by
  rw [Language.mem_mul]
  constructor
  · rintro ⟨x, hx, _, hslash, rfl⟩
    obtain ⟨p, rfl, hp⟩ := mem_slash_mul.mp hslash
    exact ⟨x, p, rfl, hx, hp⟩
  · rintro ⟨x, p, rfl, hx, hp⟩
    exact ⟨x, hx, _, mem_slash_mul.mpr ⟨p, rfl, hp⟩, rfl⟩

theorem segmentLanguage_cons (c : Char) (s : List Char) :
    segmentLanguage q (c :: s) = charLanguage q c * segmentLanguage q s := by
  ext w
  show SegmentAccepts q (c :: s) w ↔ _
  unfold SegmentAccepts charLanguage
  split_ifs with hstar hmark
  · rw [Language.mem_mul]
    constructor
    · rintro ⟨u, v, rfl, hu, hv⟩
      refine ⟨u, mem_letters_kstar.mpr fun a ha => ?_, v, hv, rfl⟩
      rw [bne_iff_ne]
      rintro rfl
      exact hu ha
    · rintro ⟨u, hu, v, hv, rfl⟩
      exact ⟨u, v, rfl, fun h => by simpa using mem_letters_kstar.mp hu '/' h, hv⟩
  · rw [mem_letters_mul]
    simp only [bne_iff_ne]
    rfl
  · rw [mem_letters_mul]
    simp [CharSet.single]
    rfl

theorem segmentsLanguage_wild : segmentsLanguage q [wild] = oneLine := by
  ext w
  show SegmentsAccept q [wild] w ↔ _
  rw [mem_oneLine, segmentsAccept_wild]

theorem segmentsLanguage_singleton {s : List Char} (hs : s ≠ wild) :
    segmentsLanguage q [s] = segmentLanguage q s := by
  ext w
  show SegmentsAccept q [s] w ↔ _
  rw [segmentsAccept_singleton hs]
  rfl

theorem segmentsLanguage_wild_cons {rest : List (List Char)} (hrest : rest ≠ []) :
    segmentsLanguage q (wild :: rest) =
      (letters (· != '\n') * oneLine * slash + 1) * segmentsLanguage q rest := by
  ext w
  show SegmentsAccept q (wild :: rest) w ↔ _
  rw [segmentsAccept_wild_cons hrest, add_mul, one_mul, Language.mem_add, or_comm, mul_assoc,
    Language.mem_mul]
  refine or_congr ⟨?_, ?_⟩ Iff.rfl
  · rintro ⟨t, p, rfl, hne, hline, hp⟩
    obtain ⟨c, t, rfl⟩ := List.exists_cons_of_ne_nil hne
    refine ⟨c :: t, mem_letters_mul.mpr ⟨c, t, rfl, ?_, ?_⟩, _, mem_slash_mul.mpr ⟨p, rfl, hp⟩, rfl⟩
    · simp at hline ⊢
      tauto
    · exact mem_oneLine.mpr fun h => hline (List.mem_cons_of_mem _ h)
  · rintro ⟨_, hct, _, hsp, rfl⟩
    obtain ⟨c, t, rfl, hc, ht⟩ := mem_letters_mul.mp hct
    obtain ⟨p, rfl, hp⟩ := mem_slash_mul.mp hsp
    refine ⟨c :: t, p, rfl, List.cons_ne_nil c t, ?_, hp⟩
    have := mem_oneLine.mp ht
    simp at hc ⊢
    tauto

theorem segmentsLanguage_cons_wild {s : List Char} (hs : s ≠ wild) :
    segmentsLanguage q [s, wild] = segmentLanguage q s * (slash * oneLine + 1) := by
  ext w
  show SegmentsAccept q [s, wild] w ↔ _
  rw [segmentsAccept_cons_wild hs, mul_add, mul_one, Language.mem_add, or_comm, mem_mul_slash_mul]
  simp only [mem_oneLine]
  rfl

theorem segmentsLanguage_cons {s : List Char} {rest : List (List Char)} (hs : s ≠ wild)
    (hne : rest ≠ []) (hrest : rest ≠ [wild]) :
    segmentsLanguage q (s :: rest) = segmentLanguage q s * (slash * segmentsLanguage q rest) := by
  ext w
  show SegmentsAccept q (s :: rest) w ↔ _
  rw [segmentsAccept_cons hs hne hrest, mem_mul_slash_mul]
  rfl

/-! ### Pieces of fragments -/

/-- The depth of nesting in fragments. -/
def fragmentDepth : ℕ := 4

theorem reads_separator : Reads ['\\', '/'] slash fragmentDepth :=
  (readsNode_escaped (by decide)).reads

theorem reads_rest : Reads ['.', '*'] oneLine fragmentDepth :=
  (readsNode_dot (d := 0)).star.mono (by decide)

theorem reads_open : Reads "(?:.+\\/)?".toList
    (letters (· != '\n') * oneLine * slash + 1) fragmentDepth :=
  ((readsNode_dot (d := 0)).plus.append (readsNode_escaped (by decide)).reads).group.optional

theorem reads_tail : Reads "(?:\\/.*)?".toList (slash * oneLine + 1) fragmentDepth :=
  ((readsNode_escaped (by decide)).reads.append (readsNode_dot (d := 0)).star).group.optional

theorem reads_char (c : Char) :
    Reads ((escapedChar c).flatMap (charFragment q)) (charLanguage q c) fragmentDepth := by
  by_cases hp : passesThrough c
  · obtain ⟨he, hstar, hmark, hc⟩ :
        c ∈ escapedChars ∧ c ≠ '*' ∧ c ≠ '?' ∧ charFragment q c = [c] := by
      have hcases : c = '\\' ∨ c = '^' ∨ c = '$' ∨ c = '|' ∨ c = '(' ∨ c = ')' ∨ c = '[' ∨
          c = ']' ∨ c = '\x7b' ∨ c = '\x7d' := by
        simpa [passesThrough] using hp
      rcases hcases with rfl | rfl | rfl | rfl | rfl | rfl | rfl | rfl | rfl | rfl <;>
        cases q <;> decide
    have htext : (escapedChar c).flatMap (charFragment q) = ['\\', c] := by
      simp [escapedChar, hp, hc]
      rfl
    rw [htext, charLanguage, if_neg hstar, if_neg fun h => hmark h.1]
    exact (readsNode_escaped he).reads
  · have htext : (escapedChar c).flatMap (charFragment q) = charFragment q c := by
      simp [escapedChar, hp]
    rw [htext]
    unfold charFragment charLanguage
    split
    · exact (readsNode_escaped (by decide)).reads
    · exact (readsNode_escaped (by decide)).reads
    · exact (readsNode_notSlash (d := 0)).star.mono (by decide)
    · cases q
      · exact readsNode_notSlash.reads
      · exact (readsNode_escaped (by decide)).reads
    · next hdot hplus hstar hmark =>
      rw [if_neg hstar, if_neg fun h => hmark h.1]
      refine (readsNode_literal fun hc => ?_).reads
      simp [syntaxChars] at hc
      simp [passesThrough] at hp
      tauto

theorem reads_segment (s : List Char) :
    Reads (segmentFragment q (s.flatMap escapedChar)) (segmentLanguage q s) fragmentDepth := by
  induction s with
  | nil => exact reads_nil
  | cons c s ih =>
    rw [segmentLanguage_cons, segmentFragment, List.flatMap_cons, List.flatMap_append]
    exact (reads_char c).append ih

theorem flatMap_escapedChar_eq_wild {s : List Char} : s.flatMap escapedChar = wild ↔ s = wild := by
  constructor
  · intro h
    have hall : ∀ c ∈ s, escapedChar c = [c] := by
      intro c hc
      by_cases hp : passesThrough c
      · have hmem : '\\' ∈ s.flatMap escapedChar :=
          List.mem_flatMap.mpr ⟨c, hc, by simp [escapedChar, hp]⟩
        rw [h] at hmem
        exact absurd hmem (by decide)
      · simp [escapedChar, hp]
    rw [← h, List.flatMap_congr hall]
    simp
  · rintro rfl
    decide

theorem splitOn_append_of_not_mem {s t : List Char} (hs : '/' ∉ s) :
    (s ++ t).splitOn '/' = (t.splitOn '/').modifyHead (s ++ ·) := by
  induction s with
  | nil =>
    rw [List.nil_append]
    cases t.splitOn '/' <;> rfl
  | cons c s ih =>
    rw [List.mem_cons, not_or] at hs
    rw [List.cons_append, List.splitOn_cons_eq_if_modifyHead, if_neg (by simpa using Ne.symm hs.1),
      ih hs.2, List.modifyHead_modifyHead]
    rfl

theorem splitOn_flatMap_escapedChar (glob : List Char) :
    (glob.flatMap escapedChar).splitOn '/' =
      (glob.splitOn '/').map fun s => s.flatMap escapedChar := by
  induction glob with
  | nil => simp
  | cons c glob ih =>
    rw [List.flatMap_cons, List.splitOn_cons_eq_if_modifyHead]
    by_cases hc : c = '/'
    · have hesc : escapedChar '/' = ['/'] := by decide
      subst hc
      rw [hesc, List.singleton_append, List.splitOn_cons_eq_if_modifyHead, ih]
      rfl
    · have hslash : '/' ∉ escapedChar c := by
        unfold escapedChar
        split_ifs
        · simp [Ne.symm hc]
        · simpa using Ne.symm hc
      rw [splitOn_append_of_not_mem hslash, ih, if_neg (by simpa using hc)]
      cases glob.splitOn '/' with
      | nil => rfl
      | cons s rest => simp

/-- **Protected segments read as what they accept.** -/
theorem reads_segments : ∀ {segments : List (List Char)}, segments ≠ [] →
    Reads (segmentsFragment q (segments.map fun s => s.flatMap escapedChar))
      (segmentsLanguage q segments) fragmentDepth
  | [s], _ => by
    rw [List.map_singleton, segmentsFragment]
    by_cases hs : s = wild
    · rw [if_pos (flatMap_escapedChar_eq_wild.mpr hs), hs, segmentsLanguage_wild]
      exact reads_rest
    · rw [if_neg (mt flatMap_escapedChar_eq_wild.mp hs), segmentsLanguage_singleton hs]
      exact reads_segment s
  | s :: t :: rest, _ => by
    have ih := reads_segments (List.cons_ne_nil t rest)
    have hlast : (t :: rest).map (fun s => s.flatMap escapedChar) = [wild] ↔ t :: rest = [wild] := by
      simp [flatMap_escapedChar_eq_wild]
    rw [List.map_cons, segmentsFragment]
    swap
    · simp
    by_cases hs : s = wild
    · rw [if_pos (flatMap_escapedChar_eq_wild.mpr hs), hs,
        segmentsLanguage_wild_cons (List.cons_ne_nil t rest)]
      exact reads_open.append ih
    · rw [if_neg (mt flatMap_escapedChar_eq_wild.mp hs)]
      by_cases ht : t :: rest = [wild]
      · rw [if_pos (hlast.mpr ht), ht, segmentsLanguage_cons_wild hs]
        exact (reads_segment s).append reads_tail
      · rw [if_neg (mt hlast.mp ht), segmentsLanguage_cons hs (List.cons_ne_nil t rest) ht,
          List.append_assoc]
        exact (reads_segment s).append (reads_separator.append ih)

/-- **The fragment of a protected glob reads as what the glob accepts.** -/
theorem reads_fragment (q : QuestionMark) (glob : String) :
    Reads (fragment q (escaped glob)).toList {w | Accepts q glob.toList w} fragmentDepth := by
  have h := reads_segments (q := q) (List.splitOn_ne_nil '/' glob.toList)
  rw [← splitOn_flatMap_escapedChar] at h
  rw [fragment, escaped, String.toList_ofList, String.toList_ofList]
  exact h

theorem anchored_eq (f : String) : anchored f = String.ofList ('^' :: (f.toList ++ ['$'])) := by
  rw [← String.toList_inj, String.toList_ofList]
  simp [anchored]

theorem parse?_anchored_of_reads {f : String} {L : Language Char}
    (h : Reads f.toList L fragmentDepth) :
    ∃ r : Regex, parse? (anchored f) = .ok r ∧
      ∀ text : List Char, r.isMatch text = true ↔ text ∈ L := by
  rw [anchored_eq]
  exact parse?_anchored h (by decide)

/-- **Between anchors the fragment of a protected glob matches what the glob accepts.** -/
theorem parse?_anchored_fragment (q : QuestionMark) (glob : String) :
    ∃ r : Regex, parse? (anchored (fragment q (escaped glob))) = .ok r ∧
      ∀ text : List Char, r.isMatch text = true ↔ Accepts q glob.toList text :=
  parse?_anchored_of_reads (reads_fragment q glob)

end OfflineManifest.Glob
