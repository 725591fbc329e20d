/-! # Diagnostics

A diagnostic is a message to the one who wrote a configuration. It has a severity, a code that stays
the same from one release to the next, the place in the configuration that it speaks of, and notes
and advice.
-/

namespace OfflineManifest

/-- How grave a diagnostic is. -/
inductive Severity where
  /-- something to mend that does no harm yet -/
  | warning
  /-- something that keeps a manifest from being made -/
  | error
  deriving DecidableEq, Repr

namespace Severity

/-- The severities with their names. -/
def names : List (String × Severity) := [("warning", .warning), ("error", .error)]

/-- The name of a severity. -/
def name : Severity → String
  | warning => "warning"
  | error => "error"

/-- The place of a severity in the order from the least to the most grave. -/
def rank : Severity → Nat
  | warning => 0
  | error => 1

end Severity

/-- The series that a code belongs to. -/
inductive Series where
  | error
  | warning
  deriving DecidableEq, Repr

namespace Series

/-- The series with their names. -/
def names : List (String × Series) := [("Error", .error), ("Warning", .warning)]

/-- The name of a series. -/
def name : Series → String
  | error => "Error"
  | warning => "Warning"

/-- The letter that codes of the series start with. -/
def letter : Series → Char
  | error => 'E'
  | warning => 'W'

end Series

/-- The code of a diagnostic. -/
structure DiagnosticCode where
  series : Series
  number : UInt16
  deriving DecidableEq, Repr

namespace DiagnosticCode

/-- An asset group uses the former name of an option. -/
def versionedFiles : DiagnosticCode := ⟨.warning, 1⟩

/-- The times of a data group cannot be read. -/
def invalidDataGroup : DiagnosticCode := ⟨.error, 1⟩

/-- The letter of the series and the number with at least three digits. -/
def text (c : DiagnosticCode) : String :=
  let digits := toString c.number.toNat
  String.ofList (c.series.letter :: List.replicate (3 - digits.length) '0') ++ digits

end DiagnosticCode

/-- A diagnostic. -/
structure Diagnostic where
  severity : Severity
  code : DiagnosticCode
  message : String
  location : Option String := none
  notes : List String := []
  help : List String := []
  deriving DecidableEq, Repr

namespace Diagnostic

/-- Whether a diagnostic is an error. -/
def isError (d : Diagnostic) : Bool := d.severity = .error

/-- The notice that an asset group uses the former name of an option. -/
def versionedFiles (group : String) : Diagnostic where
  severity := .warning
  code := .versionedFiles
  message := s!"asset group '{group}' uses the 'versionedFiles' option"
  location := some s!"assetGroups[{group}]"
  notes := ["'versionedFiles' and 'files' have the same behavior"]
  help := ["move these globs into 'files'"]

/-- The error that a data group cannot be resolved. -/
def invalidDataGroup (group reason : String) : Diagnostic where
  severity := .error
  code := .invalidDataGroup
  message := reason
  location := some s!"dataGroups[{group}]"
  help := ["durations are digit runs with a unit: d, h, m, s or u"]

end Diagnostic

end OfflineManifest
