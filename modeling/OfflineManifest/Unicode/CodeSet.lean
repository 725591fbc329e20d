import OfflineManifest.Unicode.Runs

/-! # Sets of code points

A set of code points is stored by the places where membership changes, in increasing order: a code
point is in the set if the number of changes up to it is odd.
-/

namespace OfflineManifest.Unicode

/-- A set of code points. -/
structure CodeSet where
  changes : Array Nat

namespace CodeSet

/-- Whether a code point is in a set. -/
def contains (s : CodeSet) (code : Nat) : Bool := countUpTo s.changes code 0 s.changes.size % 2 == 1

/-- The set of the code points in increasing ranges that do not touch. -/
def ofRanges (ranges : List (Nat × Nat)) : CodeSet :=
  ⟨(ranges.flatMap fun (lo, hi) => [lo, hi + 1]).toArray⟩

/-- Reads hexadecimal digits. -/
def readCode (digits : List Char) : Nat :=
  digits.foldl (fun n d => 16 * n + (if d.isDigit then d.toNat - 48 else d.toNat - 55)) 0

/-- Reads one code, or two with a hyphen between them. -/
def readRange (text : List Char) : Nat × Nat :=
  match text.splitOn '-' with
  | [lo, hi] => (readCode lo, readCode hi)
  | _ => (readCode text, readCode text)

/-- The set that a text of codes and ranges describes, with blanks between them. -/
def ofText (lines : List String) : CodeSet :=
  ofRanges (((String.join lines).toList.splitOn ' ').map readRange)

end CodeSet

end OfflineManifest.Unicode
