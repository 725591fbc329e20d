import OfflineManifest.Regex.Alphabet
import OfflineManifest.Unicode.Contributory
import OfflineManifest.Unicode.Folding
import OfflineManifest.Unicode.Property

/-! # Sets of characters

How sets are combined, and the sets that patterns can name in short: digits, blanks and words, each
over all characters or over ASCII alone, and the fourteen bracketed ASCII names.
-/

namespace OfflineManifest.CharSet

open Unicode

/-- The characters from `lo` to `hi`. -/
def range (lo hi : Char) : CharSet := fun c => lo ≤ c && c ≤ hi

/-- One character. -/
def single (a : Char) : CharSet := fun c => c == a

/-- The characters outside a set. -/
def compl (s : CharSet) : CharSet := fun c => !s c

/-- The characters of either set. -/
def union (s t : CharSet) : CharSet := fun c => s c || t c

/-- The characters of both sets. -/
def inter (s t : CharSet) : CharSet := fun c => s c && t c

/-- The characters of the first set outside the second. -/
def sdiff (s t : CharSet) : CharSet := fun c => s c && !t c

/-- The characters of exactly one of two sets. -/
def symmDiff (s t : CharSet) : CharSet := fun c => s c != t c

/-- No character. -/
def none : CharSet := fun _ => false

/-- The characters that differ only in case from one of the set. -/
def folded (s : CharSet) : CharSet := fun c => (counterparts c).any s

/-- The same for the letters of ASCII alone. -/
def asciiFolded (s : CharSet) : CharSet := fun c => (asciiCounterparts c).any s

/-- The characters of ASCII. -/
def ascii : CharSet := fun c => c.toNat < 0x80

/-! ### Digits, blanks, words -/

/-- What `d`, `s` and `w` name. -/
inductive Shorthand where
  | digit | space | word
  deriving DecidableEq, Repr

/-- Alphabetic characters: letters, letter numbers, and the marks that belong to letters. -/
def alphabetic : CharSet := union (union letters (ofKinds [.Nl])) (ofKnownCodes otherAlphabetic)

/-- The characters of words: alphabetic ones, marks, decimal digits, connecting punctuation and the
two joiners. -/
def word : CharSet :=
  union (union alphabetic (ofKinds [.Mn, .Mc, .Me, .Nd, .Pc])) (range '\u200C' '\u200D')

/-- The set over all characters. -/
def Shorthand.unicode : Shorthand → CharSet
  | .digit => ofKinds [.Nd]
  | .space => isWhiteSpace
  | .word => CharSet.word

/-- The set over ASCII. -/
def Shorthand.ascii : Shorthand → CharSet
  | .digit => Char.isDigit
  | .space => fun c => c == ' ' || (0x9 ≤ c.toNat && c.toNat ≤ 0xD)
  | .word => fun c => c.isAlphanum || c == '_'

/-! ### Bracketed names -/

/-- The set that a bracketed name stands for. -/
def bracketed? (name : String) : Option CharSet :=
  let among := fun (lo hi : Nat) (c : Char) => decide (lo ≤ c.toNat ∧ c.toNat ≤ hi)
  match name with
  | "alnum" => some Char.isAlphanum
  | "alpha" => some Char.isAlpha
  | "ascii" => some ascii
  | "blank" => some fun c => c == ' ' || c == '\t'
  | "cntrl" => some fun c => among 0 0x1F c || c.toNat == 0x7F
  | "digit" => some Char.isDigit
  | "graph" => some (among 0x21 0x7E)
  | "lower" => some Char.isLower
  | "print" => some (among 0x20 0x7E)
  | "punct" => some fun c =>
      among 0x21 0x2F c || among 0x3A 0x40 c || among 0x5B 0x60 c || among 0x7B 0x7E c
  | "space" => some (Shorthand.ascii .space)
  | "upper" => some Char.isUpper
  | "word" => some (Shorthand.ascii .word)
  | "xdigit" => some fun c => c.isDigit || among 0x41 0x46 c || among 0x61 0x66 c
  | _ => Option.none

end OfflineManifest.CharSet
