import OfflineManifest.Regex.Basic
import OfflineManifest.Unicode.Age
import OfflineManifest.Unicode.Category
import OfflineManifest.Unicode.CodeSet

/-! # The characters that patterns know

Patterns go by version 16.0 of the standard: a character that was assigned later counts as
unassigned. No other character has changed its general category since, except one.
-/

namespace OfflineManifest.CharSet

open Unicode

/-- The version of the standard that patterns go by. -/
def knownVersion : Version := ⟨16, 0⟩

/-- Whether a character was assigned in a later version. -/
def isLater : CharSet := fun c => (age? c).any fun v => !v.isUpTo knownVersion

/-- The general category of a character in the known version. The letter `ʕ` was a lower case one
then. -/
def kind (c : Char) : Category :=
  if isLater c then .Cn else if c == '\u0295' then .Ll else category c

/-- The characters of some general categories. -/
def ofKinds (kinds : List Category) : CharSet := fun c => kinds.contains (kind c)

/-- The characters of a set of code points. -/
def ofCodes (s : CodeSet) : CharSet := fun c => s.contains c.toNat

/-- The characters of a set of code points that the known version has. -/
def ofKnownCodes (s : CodeSet) : CharSet := fun c => s.contains c.toNat && !isLater c

/-- The letters of all scripts. -/
def letters : CharSet := fun c => (kind c).isLetter

/-- The characters that were assigned in a version or before it. -/
def assignedUpTo (v : Version) : CharSet := fun c => (age? c).any fun w => w.isUpTo v

end OfflineManifest.CharSet
