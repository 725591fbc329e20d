import OfflineManifest.Unicode.Runs
import OfflineManifest.Unicode.CategoryRuns

/-! # General categories

Every code point has one of thirty general categories, known by two letters: the first letter is
the class (letter, mark, number, punctuation, symbol, separator, other), the second the kind.
-/

namespace OfflineManifest.Unicode

/-- A general category, spelled as the standard does. -/
inductive Category where
  | Lu | Ll | Lt | Lm | Lo
  | Mn | Mc | Me
  | Nd | Nl | No
  | Pc | Pd | Ps | Pe | Pi | Pf | Po
  | Sm | Sc | Sk | So
  | Zs | Zl | Zp
  | Cc | Cf | Cs | Co | Cn
  deriving DecidableEq, Repr

namespace Category

/-- The categories with their two letters. -/
def names : List (String × Category) :=
  [("Lu", Lu), ("Ll", Ll), ("Lt", Lt), ("Lm", Lm), ("Lo", Lo),
   ("Mn", Mn), ("Mc", Mc), ("Me", Me),
   ("Nd", Nd), ("Nl", Nl), ("No", No),
   ("Pc", Pc), ("Pd", Pd), ("Ps", Ps), ("Pe", Pe), ("Pi", Pi), ("Pf", Pf), ("Po", Po),
   ("Sm", Sm), ("Sc", Sc), ("Sk", Sk), ("So", So),
   ("Zs", Zs), ("Zl", Zl), ("Zp", Zp),
   ("Cc", Cc), ("Cf", Cf), ("Cs", Cs), ("Co", Co), ("Cn", Cn)]

/-- The category with the given two letters; `Cn` (unassigned) if there is none. -/
def ofTag (tag : String) : Category := (names.lookup tag).getD Cn

/-- A letter of any kind. -/
def isLetter (c : Category) : Bool := c == Lu || c == Ll || c == Lt || c == Lm || c == Lo

/-- A number of any kind. -/
def isNumber (c : Category) : Bool := c == Nd || c == Nl || c == No

end Category

/-- The general categories of all code points. -/
def categories : Runs Category := .ofText 1 Category.ofTag categoryRuns

/-- The general category of a character. -/
def category (c : Char) : Category := (categories.get? c.toNat).getD .Cn

end OfflineManifest.Unicode
