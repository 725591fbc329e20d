import OfflineManifest.Unicode.Category
import OfflineManifest.Unicode.Contributory

/-! # Properties of characters

White space, alphabetic characters, combining characters, and the characters that show when they
are printed.
-/

namespace OfflineManifest.Unicode

/-- White space. -/
def isWhiteSpace (c : Char) : Bool :=
  let n := c.toNat
  (0x9 ≤ n && n ≤ 0xD) || n == 0x20 || n == 0x85 || n == 0xA0 || n == 0x1680 ||
    (0x2000 ≤ n && n ≤ 0x200A) || n == 0x2028 || n == 0x2029 || n == 0x202F || n == 0x205F ||
    n == 0x3000

/-- Alphabetic characters: letters, letter numbers, and the marks that belong to letters. -/
def isAlphabetic (c : Char) : Bool :=
  (category c).isLetter || category c == .Nl || otherAlphabetic.contains c.toNat

/-- Alphabetic characters and numbers. -/
def isAlphanumeric (c : Char) : Bool := isAlphabetic c || (category c).isNumber

/-- Characters that attach to the one before them. -/
def extendsGrapheme (c : Char) : Bool :=
  category c == .Mn || category c == .Me || otherGraphemeExtend.contains c.toNat

/-- The fillers of Hangul, letters that are drawn as nothing. -/
def isFiller (c : Char) : Bool := c == '\u115F' || c == '\u1160' || c == '\u3164' || c == '\uFFA0'

/-- Characters with a visible form: neither control, format, unassigned or private characters nor
separators, the space excepted, nor fillers. -/
def isPrintable (c : Char) : Bool :=
  if c.toNat < 0x7F then 0x20 ≤ c.toNat
  else !([.Cc, .Cf, .Cs, .Co, .Cn, .Zl, .Zp, .Zs].contains (category c)) && !isFiller c

end OfflineManifest.Unicode
