import OfflineManifest.Proofs.Json.Grammar

/-! # What strings denote

A text that spells a string is read as that string (`scan_of_spelledBy`). The string denotes a text
exactly if the halves of characters in it come in pairs (`exists_text?_iff`). A text is written between
quotes, character by character: as it is, behind a backslash, or by its code. In each of these forms
it spells one piece that denotes the character, so what is written spells a string that denotes the
text again (`exists_spelledBy_stringText`). -/

namespace OfflineManifest.Json

/-- **A piece of a string denotes a character**; its code is none of half a character. -/
def Piece.Denotes : Piece → Char → Prop
  | .char d, c => d = c
  | .unit n, c => n = c.toNat ∧ n < 0xD800

namespace Lexeme

/-- **A string denotes a text.** -/
structure Denotes (t : Lexeme) (s : String) : Prop where
  stop : t.stop = .closed
  text : t.text? = .ok s

variable {pieces acc : List Piece} {cs behind rest : List Char} {c d : Char} {n : ℕ}

/-! ### Pieces -/

theorem decode_of_denotes (h : List.Forall₂ Piece.Denotes pieces cs) (read : List Char) :
    decode .closed read pieces = .ok (read.reverse ++ cs) := by
  induction h generalizing read with
  | nil => simp [decode, stopFault?]
  | @cons p c pieces cs hp _ ih =>
    have hread : (c :: read).reverse ++ cs = read.reverse ++ c :: cs := by simp
    rw [← hread, ← ih (c :: read)]
    cases p with
    | char d => rw [decode, show d = c from hp]
    | unit n =>
      obtain ⟨rfl, hn⟩ := hp
      have hlow : (0xDC00 ≤ c.toNat && c.toNat ≤ 0xDFFF) = false := by simp; omega
      have hhigh : (0xD800 ≤ c.toNat && c.toNat ≤ 0xDBFF) = false := by simp; omega
      rw [decode.eq_def]
      simp only [hlow, hhigh, Char.ofNat_toNat, Bool.false_eq_true, if_false]

theorem denotes_of_pieces (h : List.Forall₂ Piece.Denotes pieces cs) :
    Denotes ⟨pieces, .closed⟩ (String.ofList cs) :=
  ⟨rfl, by rw [text?, decode_of_denotes h]; rfl⟩

/-- **Halves of characters come in pairs**: behind the first half of a character stands the second
one, and no second half stands alone. -/
inductive Paired : List Piece → Prop
  | nil : Paired []
  | char (c : Char) {ps : List Piece} (h : Paired ps) : Paired (.char c :: ps)
  | whole {n : ℕ} {ps : List Piece} (hn : n < 0xD800 ∨ 0xDFFF < n) (h : Paired ps) :
    Paired (.unit n :: ps)
  | halves {n m : ℕ} {ps : List Piece} (hn : 0xD800 ≤ n ∧ n ≤ 0xDBFF)
    (hm : 0xDC00 ≤ m ∧ m ≤ 0xDFFF) (h : Paired ps) : Paired (.unit n :: .unit m :: ps)

theorem exists_decode_of_paired (h : Paired pieces) (read : List Char) :
    ∃ cs, decode .closed read pieces = .ok cs := by
  induction h generalizing read with
  | nil => exact ⟨read.reverse, rfl⟩
  | char c _ ih => exact ih (c :: read)
  | @whole n ps hn _ ih =>
    have hlow : (0xDC00 ≤ n && n ≤ 0xDFFF) = false := by simp; omega
    have hhigh : (0xD800 ≤ n && n ≤ 0xDBFF) = false := by simp; omega
    obtain ⟨cs, hcs⟩ := ih (Char.ofNat n :: read)
    refine ⟨cs, ?_⟩
    rw [decode.eq_def]
    simp only [hlow, hhigh, Bool.false_eq_true, if_false, hcs]
  | @halves n m ps hn hm _ ih =>
    have hlow : (0xDC00 ≤ n && n ≤ 0xDFFF) = false := by simp; omega
    have hhigh : (0xD800 ≤ n && n ≤ 0xDBFF) = true := by simp; omega
    have hsecond : (0xDC00 ≤ m && m ≤ 0xDFFF) = true := by simp; omega
    obtain ⟨cs, hcs⟩ :=
      ih (Char.ofNat (0x10000 + (n - 0xD800) * 0x400 + (m - 0xDC00)) :: read)
    refine ⟨cs, ?_⟩
    rw [decode.eq_def]
    simp only [hlow, hhigh, hsecond, Bool.false_eq_true, if_false, if_true, hcs]

theorem paired_of_decode : ∀ {pieces : List Piece} {read cs : List Char},
    decode .closed read pieces = .ok cs → Paired pieces
  | [], _, _, _ => .nil
  | .char c :: ps, _, _, h => .char c (paired_of_decode h)
  | .unit n :: ps, _, _, h => by
    rw [decode.eq_def] at h
    dsimp only at h
    split at h
    · cases h
    · next hlow =>
      split at h
      · next hhigh =>
        split at h
        · next m rest =>
          split at h
          · next hsecond =>
            simp only [Bool.and_eq_true, decide_eq_true_eq] at hhigh hsecond
            exact .halves hhigh hsecond (paired_of_decode h)
          · cases h
        · cases h
        · cases h
      · next hhigh =>
        simp only [Bool.and_eq_true, decide_eq_true_eq, not_and] at hlow hhigh
        exact .whole (by omega) (paired_of_decode h)

/-- The halves of characters in a string come in pairs. -/
def IsText (t : Lexeme) : Prop := Paired t.pieces

/-- **A string denotes a text** exactly if the halves of characters in it come in pairs. -/
theorem exists_text?_iff {t : Lexeme} (h : t.stop = .closed) :
    (∃ s, t.text? = .ok s) ↔ t.IsText := by
  rw [text?, h, IsText]
  constructor
  · rintro ⟨s, hs⟩
    cases hdecode : decode .closed [] t.pieces with
    | error e => rw [hdecode] at hs; cases hs
    | ok cs => exact paired_of_decode hdecode
  · intro hpaired
    obtain ⟨cs, hcs⟩ := exists_decode_of_paired hpaired []
    exact ⟨String.ofList cs, by rw [hcs]; rfl⟩

theorem skip_eq_ok {t : Lexeme} : t.skip = .ok () ↔ t.stop = .closed := by
  obtain ⟨pieces, stop⟩ := t
  cases stop <;> simp [skip, stopFault?]

/-! ### Reading -/

theorem scan_escape (hu : c ≠ 'u') (h : escape? c = some d) :
    scan acc ('\\' :: c :: rest) = scan (.char d :: acc) rest := by
  rw [scan]
  · rw [h]
  · simpa using hu

theorem scan_unit (h : readUnit rest = .unit n behind) :
    scan acc ('\\' :: 'u' :: rest) = scan (.unit n :: acc) behind := by
  rw [scan]
  split <;> simp_all

theorem scan_plain (hquote : c ≠ '"') (hslash : c ≠ '\\') (hcontrol : ¬ c.toNat < 0x20) :
    scan acc (c :: rest) = scan (.char c :: acc) rest := by
  rw [scan, if_neg hcontrol] <;> simp_all

theorem scan_of_piece {p : Piece} {text : List Char} (h : p.SpelledBy text) :
    scan acc (text ++ rest) = scan (p :: acc) rest := by
  cases h with
  | plain hquote hslash hcontrol => exact scan_plain hquote hslash hcontrol
  | @escape c d h =>
    have hu : c ≠ 'u' := by
      rintro rfl
      cases h
    exact scan_escape hu h
  | @unit a b c d i j k l ha hb hc hd =>
    have hread : readUnit (a :: b :: c :: d :: rest) =
        .unit (4096 * i + 256 * j + 16 * k + l) rest := by
      simp only [readUnit, ha, hb, hc, hd]
    exact scan_unit hread

/-- **A text that spells a string** is read as that string. -/
theorem scan_of_spelledBy {texts : List (List Char)}
    (h : List.Forall₂ Piece.SpelledBy pieces texts) (acc : List Piece) (rest : List Char) :
    scan acc (texts.flatten ++ '"' :: rest) = (⟨acc.reverse ++ pieces, .closed⟩, rest) := by
  induction h generalizing acc with
  | nil =>
    rw [List.flatten_nil, List.nil_append, scan]
    simp
  | cons hp _ ih =>
    rw [List.flatten_cons, List.append_assoc, scan_of_piece hp, ih]
    simp

/-! ### Characters in their written form -/

theorem hexValue?_hexPair :
    ∀ n < 0x20, (hexPair n).map hexValue? = [some (n / 16), some (n % 16)] := by
  decide

theorem spelledBy_hexPair (h : n < 0x20) :
    (Piece.unit n).SpelledBy (['\\', 'u', '0', '0'] ++ hexPair n) := by
  obtain ⟨a, b, hpair⟩ : ∃ a b, hexPair n = [a, b] := ⟨_, _, rfl⟩
  have hvalues := hexValue?_hexPair n h
  rw [hpair] at hvalues ⊢
  simp only [List.map_cons, List.map_nil, List.cons.injEq, and_true] at hvalues
  have hcode : 4096 * 0 + 256 * 0 + 16 * (n / 16) + n % 16 = n := by omega
  have hzero : hexValue? '0' = some 0 := rfl
  have hunit := Piece.SpelledBy.unit hzero hzero hvalues.1 hvalues.2
  rwa [hcode] at hunit

/-- **A character in its written form** is one piece. -/
theorem exists_spelledBy_escapedChar (c : Char) :
    ∃ p : Piece, p.Denotes c ∧ p.SpelledBy (escapedChar c) := by
  unfold escapedChar
  split
  iterate 7 exact ⟨.char _, rfl, .escape rfl⟩
  · next hquote hslash _ _ _ _ _ =>
    by_cases hcontrol : c.toNat < 0x20
    · rw [if_pos hcontrol]
      exact ⟨.unit c.toNat, ⟨rfl, by omega⟩, spelledBy_hexPair hcontrol⟩
    · rw [if_neg hcontrol]
      exact ⟨.char c, rfl, .plain hquote hslash hcontrol⟩

theorem exists_spelledBy_map (cs : List Char) : ∃ pieces, List.Forall₂ Piece.Denotes pieces cs ∧
    List.Forall₂ Piece.SpelledBy pieces (cs.map escapedChar) := by
  induction cs with
  | nil => exact ⟨[], .nil, .nil⟩
  | cons c cs ih =>
    obtain ⟨p, hp, hspelled⟩ := exists_spelledBy_escapedChar c
    obtain ⟨pieces, hpieces, hrest⟩ := ih
    exact ⟨p :: pieces, .cons hp hpieces, .cons hspelled hrest⟩

/-- **What is written denotes the text.** -/
theorem exists_spelledBy_stringText (s : String) :
    ∃ t : Lexeme, t.Denotes s ∧ t.SpelledBy (stringText s) := by
  obtain ⟨pieces, hpieces, hspelled⟩ := exists_spelledBy_map s.toList
  refine ⟨⟨pieces, .closed⟩, String.ofList_toList (s := s) ▸ denotes_of_pieces hpieces, ?_⟩
  rw [stringText, List.cons_append, List.flatMap_def]
  exact .quoted hspelled

end Lexeme

end OfflineManifest.Json
