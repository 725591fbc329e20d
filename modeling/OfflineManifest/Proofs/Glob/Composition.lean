import OfflineManifest.Proofs.Glob.Groups
import OfflineManifest.Proofs.Navigation.Rules

/-! # Fragments side by side

A fragment is a piece of a regular expression: callers put anchors around it, or other pieces at
either side. Nothing in it reaches beyond its ends. Every opening parenthesis comes from a double
star, so no group keeps what it matches (`Glob.captures_fragment`); and the reader steps over a
fragment by adding complete members to the sequence it is in, so fragments in a row, and literal
texts with them (`Regex.quote`), mean one after the other what they mean alone
(`Glob.fragments_compose`). -/

namespace OfflineManifest

/-! ### Literal texts -/

namespace Regex

open Reader

/-- How a character is written where it stands for itself. -/
def quoteChar (c : Char) : List Char := if Atom.isMeta c then ['\\', c] else [c]

/-- **A literal text as a pattern.** -/
def quote (literal : String) : String := String.ofList (literal.toList.flatMap quoteChar)

variable {d : ℕ}

theorem mem_escapedChars_of_isMeta {c : Char} (h : Atom.isMeta c = true) : c ∈ escapedChars := by
  have hall : "\\.+*?()|[]\x7b\x7d^$#&-~".toList.all (escapedChars.contains ·) = true := by decide
  exact List.contains_iff_mem.mp (List.all_eq_true.mp hall c (List.contains_iff_mem.mp h))

theorem reads_quoteChar (c : Char) : Reads (quoteChar c) (letters (CharSet.single c)) d := by
  have hspecial : syntaxChars.all Atom.isMeta = true := by decide
  unfold quoteChar
  split_ifs with hmeta
  · exact (readsNode_escaped (mem_escapedChars_of_isMeta hmeta)).reads
  · exact (readsNode_literal fun hc => hmeta (List.all_eq_true.mp hspecial c hc)).reads

theorem letters_single_mul (c : Char) (w : List Char) :
    letters (CharSet.single c) * ({w} : Language Char) = {c :: w} := by
  ext v
  rw [mem_letters_mul]
  constructor
  · rintro ⟨a, u, rfl, ha, rfl⟩
    rw [beq_iff_eq.mp ha]
    rfl
  · rintro rfl
    exact ⟨c, w, rfl, beq_self_eq_true c, rfl⟩

/-- **A literal text reads as itself.** -/
theorem reads_quote (literal : String) : Reads (quote literal).toList {literal.toList} d := by
  rw [quote, String.toList_ofList]
  induction literal.toList with
  | nil => exact reads_nil
  | cons c w ih =>
    rw [List.flatMap_cons, ← letters_single_mul]
    exact (reads_quoteChar c).append ih

end Regex

namespace Glob

open Regex Regex.Reader

variable {q : QuestionMark} {glob : String}

/-! ### Pieces in a row -/

theorem NeedsNoEscape.captures_fragment (h : NeedsNoEscape glob) (q : QuestionMark) :
    captures (fragment q glob) = 0 :=
  Glob.captures_fragment q fun hmem => absurd (h '(' hmem) (by decide)

theorem NeedsNoEscape.reads (h : NeedsNoEscape glob) (q : QuestionMark) :
    Reads (fragment q glob).toList {w | Accepts q glob.toList w} fragmentDepth := by
  have hreads := reads_fragment q glob
  rwa [h.escaped_eq] at hreads

theorem isMatch_iff_accepts (h : NeedsNoEscape glob) {r : Regex}
    (hr : parse? (anchored (fragment q glob)) = .ok r) (text : List Char) :
    r.isMatch text = true ↔ Accepts q glob.toList text := by
  obtain ⟨r', hr', hmatch⟩ := parse?_anchored_of_reads (h.reads q)
  obtain rfl := Except.ok.inj (hr.symm.trans hr')
  exact hmatch text

variable {f f₁ f₂ : String} {L M : Language Char}

/-- **Fragments in a row are read as a sequence**, whatever stands before and behind the texts that
they match. -/
theorem parse?_append (h₁ : Reads f₁.toList L fragmentDepth)
    (h₂ : Reads f₂.toList M fragmentDepth) :
    ∃ r₁ r₂ r, parse? f₁ = .ok r₁ ∧ parse? f₂ = .ok r₂ ∧ parse? (f₁ ++ f₂) = .ok r ∧
      r.Matches = (seq r₁ r₂).Matches := by
  have hdepth : fragmentDepth < nestLimit := by decide
  obtain ⟨r₁, hr₁, hd₁⟩ := parse?_of_reads h₁ hdepth
  obtain ⟨r₂, hr₂, hd₂⟩ := parse?_of_reads h₂ hdepth
  obtain ⟨r, hr, hd⟩ := parse?_of_reads (h₁.append h₂) hdepth
  rw [← String.toList_append, String.ofList_toList] at hr
  rw [String.ofList_toList] at hr₁ hr₂
  refine ⟨r₁, r₂, r, hr₁, hr₂, hr, ?_⟩
  funext pre w post
  exact propext ((hd pre w post).trans (hd₁.seq hd₂ pre w post).symm)

/-- **Fragments in a row between anchors** match a text that splits. -/
theorem parse?_anchored_append (h₁ : Reads f₁.toList L fragmentDepth)
    (h₂ : Reads f₂.toList M fragmentDepth) :
    ∃ r₁ r₂ r, parse? (anchored f₁) = .ok r₁ ∧ parse? (anchored f₂) = .ok r₂ ∧
      parse? (anchored (f₁ ++ f₂)) = .ok r ∧
      ∀ text : List Char, r.isMatch text = true ↔
        ∃ u v, text = u ++ v ∧ r₁.isMatch u = true ∧ r₂.isMatch v = true := by
  have hrow : Reads (f₁ ++ f₂).toList (L * M) fragmentDepth := by
    rw [String.toList_append]
    exact h₁.append h₂
  obtain ⟨r₁, hr₁, hmatch₁⟩ := parse?_anchored_of_reads h₁
  obtain ⟨r₂, hr₂, hmatch₂⟩ := parse?_anchored_of_reads h₂
  obtain ⟨r, hr, hmatch⟩ := parse?_anchored_of_reads hrow
  refine ⟨r₁, r₂, r, hr₁, hr₂, hr, fun text => ?_⟩
  rw [hmatch, Language.mem_mul]
  simp only [hmatch₁, hmatch₂]
  constructor
  · rintro ⟨u, hu, v, hv, rfl⟩
    exact ⟨u, v, rfl, hu, hv⟩
  · rintro ⟨u, v, rfl, hu, hv⟩
    exact ⟨u, hu, v, hv, rfl⟩

/-- **A fragment between literal texts** matches what stands between them. -/
theorem parse?_anchored_between (h : Reads f.toList L fragmentDepth) (before behind : String) :
    ∃ r₁ r, parse? (anchored f) = .ok r₁ ∧
      parse? (anchored (quote before ++ f ++ quote behind)) = .ok r ∧
      ∀ text : List Char, r.isMatch text = true ↔
        ∃ w, text = before.toList ++ w ++ behind.toList ∧ r₁.isMatch w = true := by
  have hrow : Reads (quote before ++ f ++ quote behind).toList
      ({before.toList} * L * {behind.toList}) fragmentDepth := by
    rw [String.toList_append, String.toList_append]
    exact ((reads_quote before).append h).append (reads_quote behind)
  obtain ⟨r₁, hr₁, hmatch₁⟩ := parse?_anchored_of_reads h
  obtain ⟨r, hr, hmatch⟩ := parse?_anchored_of_reads hrow
  refine ⟨r₁, r, hr₁, hr, fun text => ?_⟩
  rw [hmatch, Language.mem_mul]
  simp only [hmatch₁, Language.mem_mul]
  constructor
  · rintro ⟨_, ⟨_, rfl, w, hw, rfl⟩, _, rfl, rfl⟩
    exact ⟨w, rfl, hw⟩
  · rintro ⟨w, rfl, hw⟩
    exact ⟨_, ⟨_, rfl, w, hw, rfl⟩, _, rfl, rfl⟩

/-- **Fragments compose.** The fragments of two globs without characters that have a meaning in
regular expressions alone are well-formed and keep nothing of what they match. One behind the other
they are read as the sequence of both, and between anchors they match the texts that split into one
that the first fragment matches between anchors and one that the second one does. Between two literal
texts a fragment matches what stands between these. -/
theorem fragments_compose (q₁ q₂ : QuestionMark) (g₁ g₂ : String) (h₁ : NeedsNoEscape g₁)
    (h₂ : NeedsNoEscape g₂) :
    (captures (fragment q₁ g₁) = 0 ∧ captures (fragment q₂ g₂) = 0 ∧
      ∃ r₁ r₂ r, parse? (fragment q₁ g₁) = .ok r₁ ∧ parse? (fragment q₂ g₂) = .ok r₂ ∧
        parse? (fragment q₁ g₁ ++ fragment q₂ g₂) = .ok r ∧
        r.Matches = (seq r₁ r₂).Matches) ∧
    (∃ r₁ r₂ r, parse? (anchored (fragment q₁ g₁)) = .ok r₁ ∧
      parse? (anchored (fragment q₂ g₂)) = .ok r₂ ∧
      parse? (anchored (fragment q₁ g₁ ++ fragment q₂ g₂)) = .ok r ∧
      ∀ text : List Char, r.isMatch text = true ↔
        ∃ u v, text = u ++ v ∧ r₁.isMatch u = true ∧ r₂.isMatch v = true) ∧
    ∀ before behind : String,
      ∃ r₁ r, parse? (anchored (fragment q₁ g₁)) = .ok r₁ ∧
        parse? (anchored (quote before ++ fragment q₁ g₁ ++ quote behind)) = .ok r ∧
        ∀ text : List Char, r.isMatch text = true ↔
          ∃ w, text = before.toList ++ w ++ behind.toList ∧ r₁.isMatch w = true := by
  have hreads₁ := h₁.reads q₁
  have hreads₂ := h₂.reads q₂
  refine ⟨⟨h₁.captures_fragment q₁, h₂.captures_fragment q₂, ?_⟩, ?_, fun before behind => ?_⟩
  · exact parse?_append hreads₁ hreads₂
  · exact parse?_anchored_append hreads₁ hreads₂
  · exact parse?_anchored_between hreads₁ before behind

theorem fragments_compose_optional :
    NeedsNoEscape "a/**" ∧ NeedsNoEscape "?x+" ∧
      (∃ r, parse? (anchored (fragment .wildcard "a/**" ++ fragment .literal "?x+")) = .ok r ∧
        r.isMatch "a/b?x+".toList = true ∧ ¬ r.isMatch "a/bx".toList = true) ∧
      ∃ r, parse? (anchored (quote "(+" ++ fragment .wildcard "a/**" ++ quote "?")) = .ok r ∧
        r.isMatch "(+a/b?".toList = true ∧ ¬ r.isMatch "(+a/b".toList = true := by
  have h₁ : NeedsNoEscape "a/**" := by decide
  have h₂ : NeedsNoEscape "?x+" := by decide
  obtain ⟨-, ⟨r₁, r₂, r, hr₁, hr₂, hr, hmatch⟩, hbetween⟩ :=
    fragments_compose .wildcard .literal "a/**" "?x+" h₁ h₂
  obtain ⟨r₁', s, hr₁', hs, hmatch'⟩ := hbetween "(+" "?"
  simp only [isMatch_iff_accepts h₁ hr₁, isMatch_iff_accepts h₂ hr₂, exists_append_iff] at hmatch
  simp only [isMatch_iff_accepts h₁ hr₁'] at hmatch'
  refine ⟨h₁, h₂, ⟨r, hr, ?_, ?_⟩, s, hs, ?_, ?_⟩
  · rw [hmatch]
    decide
  · rw [hmatch]
    decide
  · rw [hmatch']
    exact ⟨"a/b".toList, rfl, by decide⟩
  · rw [hmatch']
    rintro ⟨w, hw, -⟩
    have hsplit : "(+a/".toList ++ ['b'] = "(+".toList ++ w ++ ['?'] := hw
    have hend : ['b'] = ['?'] := (List.append_inj' hsplit rfl).2
    exact absurd hend (by decide)

end Glob

end OfflineManifest
