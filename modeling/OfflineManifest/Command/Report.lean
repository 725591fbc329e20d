import OfflineManifest.Command.Log
import OfflineManifest.Command.Options
import OfflineManifest.Diagnostic.Json
import OfflineManifest.Json.Printer
import OfflineManifest.Text.Path

/-! # What a command prints

Diagnostics are reported for people on standard error, or for programs on standard output as a JSON
array. In quiet mode people see errors only; the array is always complete.
-/

namespace OfflineManifest

/-- Text on standard output and standard error. -/
structure Printed where
  stdout : String := ""
  stderr : String := ""
  deriving DecidableEq, Repr

namespace Printed

/-- Nothing. -/
def nothing : Printed := {}

/-- One text after another. -/
def append (a b : Printed) : Printed := ⟨a.stdout ++ b.stdout, a.stderr ++ b.stderr⟩

instance : Append Printed := ⟨append⟩

/-- Text on standard output. -/
def out (text : String) : Printed := { stdout := text }

/-- Text on standard error. -/
def err (text : String) : Printed := { stderr := text }

/-- What is printed only if a flag is set. -/
def onlyIf (flag : Bool) (p : Printed) : Printed := if flag then p else nothing

end Printed

/-- How a command prints. -/
structure OutputMode where
  quiet : Bool := false
  verbose : Bool := false
  color : Bool := false
  deriving DecidableEq, Repr

namespace OutputMode

/-- The mode that options ask for, where output goes to a terminal or not. -/
def ofOptions (terminal : Bool) (o : GlobalOptions) : OutputMode where
  quiet := o.quiet
  verbose := o.verbose
  color :=
    match o.color with
    | .auto => terminal
    | .always => true
    | .never => false

/-- The lines of the log, which are printed in verbose mode. -/
def logged (m : OutputMode) (events : List Event) : Printed :=
  .onlyIf m.verbose (.err (String.join (events.map fun e => e.logLine.render m.color)))

end OutputMode

/-! ### Reports -/

/-- The name of a configuration file in reports. -/
def configName (path : String) : String := ((Text.fileName? path).map String.ofList).getD path

/-- The diagnostics that people see. -/
def visible (quiet : Bool) (ds : List Diagnostic) : List Diagnostic :=
  ds.filter fun d => !quiet || d.isError

/-- **Diagnostics for people.** -/
def textReport (m : OutputMode) (config : String) (ds : List Diagnostic) : String :=
  String.join ((visible m.quiet ds).map (Diagnostic.render m.color (some (configName config))))

/-- **Diagnostics for programs.** -/
def jsonReport (ds : List Diagnostic) : String :=
  (Json.Value.array (ds.map Diagnostic.toJson)).pretty ++ "\n"

/-- Diagnostics in a format. -/
def report (format : ReportFormat) (m : OutputMode) (config : String) (ds : List Diagnostic) :
    Printed :=
  match format with
  | .text => .err (textReport m config ds)
  | .json => .out (jsonReport ds)

end OfflineManifest
