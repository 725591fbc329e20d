import OfflineManifest.Proofs.Except
import OfflineManifest.Proofs.Json.Numbers
import OfflineManifest.Proofs.Json.Strings

/-! # What tokens are read from

A token that is read at the start of a text is spelled by that start, and what is left is the rest of
the text (`Token.next_cases`): so it is with the parts of a number one by one, with words, and with
strings piece by piece. Otherwise the token has a fault (`Token.Faulty`): it is none at all, or a
string that is not closed. -/

namespace OfflineManifest.Json

variable {text rest ds : List Char} {c : Char}

/-- **A text spells a token.** -/
inductive Token.SpelledBy : Token → List Char → Prop
  | arrayStart : SpelledBy .arrayStart ['[']
  | arrayStop : SpelledBy .arrayStop [']']
  | objectStart : SpelledBy .objectStart ['\x7b']
  | objectStop : SpelledBy .objectStop ['\x7d']
  | comma : SpelledBy .comma [',']
  | colon : SpelledBy .colon [':']
  | null : SpelledBy .null "null".toList
  | bool (b : Bool) : SpelledBy (.bool b) (if b then "true" else "false").toList
  | number {n : Numeral} {text : List Char} (h : n.SpelledBy text) : SpelledBy (.number n) text
  | string {s : Lexeme} {text : List Char} (h : s.SpelledBy text) : SpelledBy (.string s) text

/-- **A token with a fault**: none at all, or a string that is not closed. -/
def Token.Faulty : Token → Prop
  | .broken _ => True
  | .string s => s.stop ≠ .closed
  | _ => False

/-! ### Strings -/

namespace Lexeme

variable {acc : List Piece} {s : Lexeme} {p : Piece} {body : List Char}

/-- **A text spells the rest of a string**, behind the pieces read so far and up to what is left. -/
def Continues (acc : List Piece) (s : Lexeme) (text rest : List Char) : Prop :=
  ∃ pieces texts, List.Forall₂ Piece.SpelledBy pieces texts ∧ s.pieces = acc.reverse ++ pieces ∧
    texts.flatten ++ '"' :: rest = text

theorem Continues.cons (hp : p.SpelledBy body) (h : Continues (p :: acc) s text rest) :
    Continues acc s (body ++ text) rest := by
  obtain ⟨pieces, texts, hpieces, hs, rfl⟩ := h
  refine ⟨p :: pieces, body :: texts, .cons hp hpieces, ?_, ?_⟩
  · rw [hs, List.reverse_cons, List.append_assoc, List.singleton_append]
  · rw [List.flatten_cons, List.append_assoc]

theorem readUnit_eq_unit {n : ℕ} (h : readUnit text = .unit n rest) :
    ∃ body, (Piece.unit n).SpelledBy ('\\' :: 'u' :: body) ∧ body ++ rest = text := by
  unfold readUnit at h
  split at h
  · next a b c d behind =>
    split at h
    · next ha hb hc hd =>
      cases h
      exact ⟨[a, b, c, d], .unit ha hb hc hd, rfl⟩
    · cases h
  · split at h <;> cases h

/-- **What a closed string is read from** spells it. -/
theorem continues_of_scan (h : scan acc text = (s, rest)) (hclosed : s.stop = .closed) :
    Continues acc s text rest := by
  fun_induction scan acc text with
  | case2 acc rest =>
    cases h
    exact ⟨[], [], .nil, (List.append_nil _).symm, rfl⟩
  | case4 acc rest n behind hread _ ih =>
    obtain ⟨body, hunit, rfl⟩ := readUnit_eq_unit hread
    exact (ih h).cons hunit
  | case7 acc c rest _ e he ih => exact (ih h).cons (.escape he)
  | case10 acc c rest hquote hlone _ hescape hcontrol ih =>
    have hslash : c ≠ '\\' := by
      rintro rfl
      cases rest with
      | nil => exact hlone rfl rfl
      | cons d rest => exact hescape d rest rfl rfl
    exact (ih h).cons (.plain hquote hslash hcontrol)
  | case1 | case3 | case5 | case6 | case8 | case9 =>
    cases h
    cases hclosed

theorem exists_of_scan (h : scan [] text = (s, rest)) (hclosed : s.stop = .closed) :
    ∃ body, s.SpelledBy body ∧ body ++ rest = '"' :: text := by
  obtain ⟨pieces, texts, hpieces, hs, rfl⟩ := continues_of_scan h hclosed
  obtain ⟨_, _⟩ := s
  obtain rfl : _ = pieces := hs
  cases hclosed
  exact ⟨_, .quoted hpieces, by simp⟩

end Lexeme

namespace Token

/-! ### Numbers -/

theorem digits?_eq_ok (h : digits? text = .ok (ds, rest)) :
    Numeral.IsDigits ds ∧ ds ++ rest = text := by
  unfold digits? at h
  split at h
  · cases h
  · next hne hdigits =>
    cases h
    obtain ⟨rfl, rfl⟩ := Prod.mk.inj hdigits
    exact ⟨⟨hne, fun c hc => List.mem_takeWhile_imp hc⟩, List.takeWhile_append_dropWhile⟩

theorem readInteger_eq_ok (h : readInteger text = .ok (ds, rest)) :
    Numeral.IsInteger ds ∧ ds ++ rest = text := by
  unfold readInteger at h
  split at h
  · split at h
    · cases h
    · cases h
      exact ⟨⟨⟨by decide, List.all_eq_true.mp rfl⟩, fun _ => rfl⟩, rfl⟩
  · next hzero =>
    obtain ⟨hds, rfl⟩ := digits?_eq_ok h
    refine ⟨⟨hds, fun hhead => ?_⟩, rfl⟩
    obtain ⟨d, ds, rfl⟩ := List.exists_cons_of_ne_nil hds.1
    cases hhead
    exact absurd rfl (hzero _)

theorem readFraction_eq_ok (h : readFraction text = .ok (ds, rest)) :
    ∃ point, Numeral.FractionSpelledBy ds point ∧ point ++ rest = text := by
  unfold readFraction at h
  split at h
  · obtain ⟨hds, rfl⟩ := digits?_eq_ok h
    exact ⟨_, .point hds, rfl⟩
  · cases h
    exact ⟨[], .none, rfl⟩

theorem readExponent_eq_ok {exponent : Option (Bool × List Char)}
    (h : readExponent text = .ok (exponent, rest)) :
    ∃ power, Numeral.ExponentSpelledBy exponent power ∧ power ++ rest = text := by
  unfold readExponent at h
  split at h
  · next e text =>
    split at h
    · next he =>
      rw [Bool.or_eq_true, beq_iff_eq, beq_iff_eq] at he
      obtain ⟨⟨ds, behind⟩, hds, h⟩ := except_map_eq_ok.mp h
      cases h
      obtain ⟨hdigits, htext⟩ := digits?_eq_ok hds
      by_cases hminus : text.head? = some '-'
      · obtain ⟨text, rfl⟩ := List.head?_eq_some_iff.mp hminus
        obtain rfl : ds ++ rest = text := by simpa using htext
        exact ⟨_, .minus he hdigits, rfl⟩
      by_cases hplus : text.head? = some '+'
      · obtain ⟨text, rfl⟩ := List.head?_eq_some_iff.mp hplus
        obtain rfl : ds ++ rest = text := by simpa using htext
        exact ⟨_, .plus he hdigits, rfl⟩
      · obtain rfl : ds ++ rest = text := by simpa [hminus, hplus] using htext
        rw [beq_false_of_ne hminus]
        exact ⟨_, .plain he hdigits, rfl⟩
    · cases h
      exact ⟨[], .none, rfl⟩
  · cases h
    exact ⟨[], .none, rfl⟩

/-- **What a number is read from** spells it. -/
theorem readNumber_eq_ok {negative : Bool} {n : Numeral}
    (h : readNumber negative text = .ok (n, rest)) :
    ∃ body, n.SpelledBy body ∧ body ++ rest = (if negative then ['-'] else []) ++ text := by
  obtain ⟨⟨integer, behind⟩, hread, h⟩ := except_bind_eq_ok.mp h
  obtain ⟨⟨fraction, behind'⟩, hread', h⟩ := except_bind_eq_ok.mp h
  obtain ⟨⟨exponent, behind''⟩, hread'', h⟩ := except_bind_eq_ok.mp h
  cases h
  obtain ⟨hinteger, rfl⟩ := readInteger_eq_ok hread
  obtain ⟨point, hfraction, rfl⟩ := readFraction_eq_ok hread'
  obtain ⟨power, hexponent, rfl⟩ := readExponent_eq_ok hread''
  exact ⟨_, .signed hinteger hfraction hexponent, by simp only [List.append_assoc]⟩

theorem ofNumber_cases {negative : Bool} {t : Token} (h : ofNumber negative text = (t, rest)) :
    t.Faulty ∨ ∃ body, t.SpelledBy body ∧
      body ++ rest = (if negative then ['-'] else []) ++ text := by
  unfold ofNumber at h
  split at h
  · next hread =>
    cases h
    obtain ⟨body, hbody, htext⟩ := readNumber_eq_ok hread
    exact .inr ⟨body, .number hbody, htext⟩
  · cases h
    exact .inl trivial

/-! ### Words -/

theorem readWord_eq_ok : ∀ {word text : List Char}, readWord word text = .ok rest →
    word ++ rest = text
  | [], _, h => by cases h; rfl
  | _ :: _, [], h => by cases h
  | a :: word, c :: text, h => by
    rw [readWord] at h
    split at h
    · next hc => rw [hc, List.cons_append, readWord_eq_ok h]
    · cases h

theorem ofWord_cases {token t : Token} {startsNull : Bool} {word : String}
    (h : ofWord token startsNull word text = (t, rest)) :
    t.Faulty ∨ t = token ∧ word.toList ++ rest = text := by
  unfold ofWord at h
  split at h
  · next hread =>
    cases h
    exact .inr ⟨rfl, readWord_eq_ok hread⟩
  · cases h
    exact .inl trivial

/-! ### Tokens -/

/-- **A token is spelled by the text that was read**, or has a fault. -/
theorem next_cases {t : Token} (h : next c text = (t, rest)) :
    t.Faulty ∨ ∃ body, t.SpelledBy body ∧ body ++ rest = c :: text := by
  unfold next at h
  split at h
  case h_1 => cases h; exact .inr ⟨_, .arrayStart, rfl⟩
  case h_2 => cases h; exact .inr ⟨_, .arrayStop, rfl⟩
  case h_3 => cases h; exact .inr ⟨_, .objectStart, rfl⟩
  case h_4 => cases h; exact .inr ⟨_, .objectStop, rfl⟩
  case h_5 => cases h; exact .inr ⟨_, .comma, rfl⟩
  case h_6 => cases h; exact .inr ⟨_, .colon, rfl⟩
  case h_7 =>
    refine (ofWord_cases h).imp_right ?_
    rintro ⟨rfl, htext⟩
    exact ⟨_, .null, congrArg ('n' :: ·) htext⟩
  case h_8 =>
    refine (ofWord_cases h).imp_right ?_
    rintro ⟨rfl, htext⟩
    exact ⟨_, .bool true, congrArg ('t' :: ·) htext⟩
  case h_9 =>
    refine (ofWord_cases h).imp_right ?_
    rintro ⟨rfl, htext⟩
    exact ⟨_, .bool false, congrArg ('f' :: ·) htext⟩
  case h_10 =>
    cases h
    by_cases hclosed : (Lexeme.scan [] text).1.stop = .closed
    · obtain ⟨body, hbody, htext⟩ := Lexeme.exists_of_scan rfl hclosed
      exact .inr ⟨body, .string hbody, htext⟩
    · exact .inl hclosed
  case h_11 => exact ofNumber_cases h
  case h_12 =>
    split at h
    · exact ofNumber_cases h
    · cases h
      exact .inl trivial

theorem SpelledBy.ne_nil {t : Token} (h : t.SpelledBy text) : text ≠ [] := by
  cases h with
  | bool b => cases b <;> decide
  | number h =>
    cases h with
    | signed hinteger =>
      exact List.append_ne_nil_of_right_ne_nil _
        (List.append_ne_nil_of_left_ne_nil hinteger.1.1 _)
  | string h =>
    cases h
    exact List.cons_ne_nil _ _
  | null => decide
  | _ => exact List.cons_ne_nil _ _

end Token

end OfflineManifest.Json
