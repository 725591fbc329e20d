import Mathlib.Data.List.Forall2
import OfflineManifest.Json.Outline

/-! # The grammar of JSON texts

A text *spells* an outline: a number with its digits, a string with one text for each piece, a
container with the texts of what is in it, and blanks between any two tokens. A document spells an
outline with blanks around it (`Outline.IsDocument`). Nothing is said here about reading, and nothing
is bounded: containers nest as deep and numbers have as many digits as they like. -/

namespace OfflineManifest.Json

/-! ### Strings -/

/-- **A text spells a piece of a string**: a character stands for itself, unless it is a control
character, or is written behind a backslash; a unit is written with its code. -/
inductive Piece.SpelledBy : Piece → List Char → Prop
  | plain {c : Char} (hquote : c ≠ '"') (hslash : c ≠ '\\') (hcontrol : ¬ c.toNat < 0x20) :
    SpelledBy (.char c) [c]
  | escape {c d : Char} (h : Lexeme.escape? c = some d) : SpelledBy (.char d) ['\\', c]
  | unit {a b c d : Char} {i j k l : ℕ} (ha : Lexeme.hexValue? a = some i)
    (hb : Lexeme.hexValue? b = some j) (hc : Lexeme.hexValue? c = some k)
    (hd : Lexeme.hexValue? d = some l) :
    SpelledBy (.unit (4096 * i + 256 * j + 16 * k + l)) ['\\', 'u', a, b, c, d]

/-- **A text spells a string**, piece by piece between quotes. -/
inductive Lexeme.SpelledBy : Lexeme → List Char → Prop
  | quoted {pieces : List Piece} {texts : List (List Char)}
    (h : List.Forall₂ Piece.SpelledBy pieces texts) :
    SpelledBy ⟨pieces, .closed⟩ ('"' :: (texts.flatten ++ ['"']))

/-! ### Numbers -/

namespace Numeral

/-- A text of digits, of which there is at least one. -/
def IsDigits (text : List Char) : Prop := text ≠ [] ∧ ∀ c ∈ text, c.isDigit = true

/-- A text of digits before the point: a zero at the start stands alone. -/
def IsInteger (text : List Char) : Prop := IsDigits text ∧ (text.head? = some '0' → text = ['0'])

/-- A text spells the digits behind the point, if there are any. -/
inductive FractionSpelledBy : List Char → List Char → Prop
  | none : FractionSpelledBy [] []
  | point {ds : List Char} (h : IsDigits ds) : FractionSpelledBy ds ('.' :: ds)

/-- A text spells an exponent, if there is one. -/
inductive ExponentSpelledBy : Option (Bool × List Char) → List Char → Prop
  | none : ExponentSpelledBy none []
  | plain {e : Char} {ds : List Char} (he : e = 'e' ∨ e = 'E') (h : IsDigits ds) :
    ExponentSpelledBy (some (false, ds)) (e :: ds)
  | plus {e : Char} {ds : List Char} (he : e = 'e' ∨ e = 'E') (h : IsDigits ds) :
    ExponentSpelledBy (some (false, ds)) (e :: '+' :: ds)
  | minus {e : Char} {ds : List Char} (he : e = 'e' ∨ e = 'E') (h : IsDigits ds) :
    ExponentSpelledBy (some (true, ds)) (e :: '-' :: ds)

/-- **A text spells a number.** -/
inductive SpelledBy : Numeral → List Char → Prop
  | signed {negative : Bool} {integer fraction point power : List Char}
    {exponent : Option (Bool × List Char)} (hinteger : IsInteger integer)
    (hfraction : FractionSpelledBy fraction point) (hexponent : ExponentSpelledBy exponent power) :
    SpelledBy ⟨negative, integer, fraction, exponent⟩
      ((if negative then ['-'] else []) ++ (integer ++ (point ++ power)))

end Numeral

/-! ### Values -/

/-- A text of blanks. -/
def Builder.Blank (text : List Char) : Prop := ∀ c ∈ text, Token.isBlank c = true

theorem blank_nil : Builder.Blank [] := List.forall_mem_nil _

namespace Outline

open Builder (Blank)

mutual

/-- **A text spells an outline.** -/
inductive SpelledBy : Outline → List Char → Prop
  | null : SpelledBy .null "null".toList
  | bool (b : Bool) : SpelledBy (.bool b) (if b then "true" else "false").toList
  | number {n : Numeral} {text : List Char} (h : n.SpelledBy text) : SpelledBy (.number n) text
  | string {s : Lexeme} {text : List Char} (h : s.SpelledBy text) : SpelledBy (.string s) text
  | emptyArray {blanks : List Char} (hb : Blank blanks) :
    SpelledBy (.array [] .closed) ('[' :: (blanks ++ [']']))
  | array {os : List Outline} {text : List Char} (h : ItemsSpelledBy os text) :
    SpelledBy (.array os .closed) ('[' :: (text ++ [']']))
  | emptyObject {blanks : List Char} (hb : Blank blanks) :
    SpelledBy (.object [] .closed) ('\x7b' :: (blanks ++ ['\x7d']))
  | object {ms : List (Lexeme × Outline)} {text : List Char} (h : MembersSpelledBy ms text) :
    SpelledBy (.object ms .closed) ('\x7b' :: (text ++ ['\x7d']))

/-- A text spells items, with commas between them. -/
inductive ItemsSpelledBy : List Outline → List Char → Prop
  | single {o : Outline} {before text behind : List Char} (hbefore : Blank before)
    (h : SpelledBy o text) (hbehind : Blank behind) : ItemsSpelledBy [o] (before ++ text ++ behind)
  | append {os os' : List Outline} {text text' : List Char} (h : ItemsSpelledBy os text)
    (h' : ItemsSpelledBy os' text') : ItemsSpelledBy (os ++ os') (text ++ ',' :: text')

/-- A text spells members, with commas between them. -/
inductive MembersSpelledBy : List (Lexeme × Outline) → List Char → Prop
  | single {t : Lexeme} {o : Outline} {before name between between' text behind : List Char}
    (hbefore : Blank before) (hname : t.SpelledBy name) (hbetween : Blank between)
    (hbetween' : Blank between') (h : SpelledBy o text) (hbehind : Blank behind) :
    MembersSpelledBy [(t, o)]
      (before ++ (name ++ (between ++ ':' :: (between' ++ text))) ++ behind)
  | append {ms ms' : List (Lexeme × Outline)} {text text' : List Char}
    (h : MembersSpelledBy ms text) (h' : MembersSpelledBy ms' text') :
    MembersSpelledBy (ms ++ ms') (text ++ ',' :: text')

end

/-- **A text is a document** with an outline: it spells that, with blanks around it. -/
def IsDocument (text : String) (o : Outline) : Prop :=
  ∃ before value behind, Blank before ∧ o.SpelledBy value ∧ Blank behind ∧
    text.toList = before ++ value ++ behind

end Outline

end OfflineManifest.Json
