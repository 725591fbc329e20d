import OfflineManifest.Diagnostic.Basic

/-! # Showing diagnostics on a terminal

A diagnostic takes a line for its message, one for its place if it has one or the name of the
configuration is known, and one for each note and piece of advice. Colour is put around parts of the
first line and changes nothing else.
-/

namespace OfflineManifest

/-- The sequence that starts a style on a terminal. -/
def Style.start (code : String) : String := s!"\x1b[{code}m"

/-- The sequence that ends all styles. -/
def Style.reset : String := Style.start "0"

/-- The style of a severity: bold, and yellow or red. -/
def Severity.style : Severity → String
  | warning => Style.start "1;33"
  | error => Style.start "1;31"

namespace Diagnostic

/-- The line with the message. -/
def headline (color : Bool) (d : Diagnostic) : String :=
  let label := s!"{d.severity.name}[{d.code.text}]"
  if color then
    d.severity.style ++ label ++ Style.reset ++ Style.start "1" ++ ": " ++ d.message ++
      Style.reset ++ "\n"
  else label ++ ": " ++ d.message ++ "\n"

/-- The line with the place. -/
def placeLine (configName : Option String) (d : Diagnostic) : String :=
  match configName, d.location with
  | some file, some location => s!"  --> {file}: {location}\n"
  | none, some location => s!"  --> {location}\n"
  | some file, none => s!"  --> {file}\n"
  | none, none => ""

/-- **A diagnostic as it is shown.** -/
def render (color : Bool) (configName : Option String) (d : Diagnostic) : String :=
  d.headline color ++ d.placeLine configName ++
    String.join (d.notes.map fun note => s!"   = note: {note}\n") ++
    String.join (d.help.map fun help => s!"   = help: {help}\n")

end Diagnostic

end OfflineManifest
