/-! # What the program is asked to do -/

namespace OfflineManifest

/-- Whether output for a terminal is coloured. -/
inductive ColorChoice where
  /-- if the output goes to a terminal -/
  | auto
  | always
  | never
  deriving DecidableEq, Repr

/-- The choices with their names. -/
def ColorChoice.names : List (String × ColorChoice) :=
  [("auto", .auto), ("always", .always), ("never", .never)]

/-- How diagnostics are reported. -/
inductive ReportFormat where
  /-- for people, on standard error -/
  | text
  /-- for programs, on standard output -/
  | json
  deriving DecidableEq, Repr

/-- The report formats with their names. -/
def ReportFormat.names : List (String × ReportFormat) := [("text", .text), ("json", .json)]

/-- The options of all commands. -/
structure GlobalOptions where
  quiet : Bool := false
  verbose : Bool := false
  color : ColorChoice := .auto
  deriving DecidableEq, Repr

/-- The base of URLs if none is given. -/
def defaultBase : String := "/"

/-- The path of a manifest in its directory if none is given. -/
def defaultOutput : String := "ngsw.json"

/-- What a manifest is made from and where it goes. -/
structure GenerateOptions where
  /-- the directory of the deployment -/
  directory : String
  /-- the configuration file -/
  config : String
  base : String := defaultBase
  /-- the path of the manifest, seen from the directory -/
  output : String := defaultOutput
  format : ReportFormat := .text
  deriving DecidableEq, Repr

/-- What is checked. -/
structure CheckOptions where
  /-- the configuration file -/
  config : String
  base : String := defaultBase
  /-- request paths to classify -/
  urls : List String := []
  deriving DecidableEq, Repr

/-- A command. -/
inductive Command where
  | generate (options : GenerateOptions)
  | check (options : CheckOptions)
  deriving DecidableEq, Repr

end OfflineManifest
