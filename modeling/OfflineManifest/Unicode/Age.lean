import OfflineManifest.Unicode.AgeRuns
import OfflineManifest.Unicode.Runs

/-! # Versions of the standard

Code points are assigned in one version of the standard and stay so from then on.
-/

namespace OfflineManifest.Unicode

/-- A version of the standard. -/
structure Version where
  major : Nat
  minor : Nat
  deriving DecidableEq, Repr

namespace Version

/-- The versions that assigned code points, the first one first. -/
def all : List Version := versionNumbers.map fun (major, minor) => ⟨major, minor⟩

/-- Whether one version is not later than another. -/
def isUpTo (v w : Version) : Bool := v.major < w.major || (v.major == w.major && v.minor ≤ w.minor)

/-- The place of a letter among `a` to `z`, `A` and `B`. -/
def placeOfLetter (c : Char) : Nat := if c.isLower then c.toNat - 97 else c.toNat - 39

/-- The version with the given letter. -/
def ofTag (tag : String) : Option Version :=
  tag.toList.head?.bind fun c => all[placeOfLetter c]?

end Version

/-- The versions in which code points were assigned. -/
def ages : Runs (Option Version) :=
  .ofText 0 (fun tag => if tag = "-" then none else Version.ofTag tag) ageRuns

/-- The version in which a character was assigned, if it was. -/
def age? (c : Char) : Option Version := ((ages.get? c.toNat).getD none)

end OfflineManifest.Unicode
