import OfflineManifest.Command.Report
import OfflineManifest.Config.Load
import OfflineManifest.Files.Tree
import OfflineManifest.Manifest.Error

/-! # How a command ends

A command ends with an exit code, and perhaps with a failure, which is the last that it prints. The
files are then those of a tree.
-/

namespace OfflineManifest

/-- Why a command cannot do its work. -/
inductive Failure where
  | config (fault : ConfigError)
  /-- the deployment is no directory -/
  | noDirectory (path : String)
  | generate (fault : GenerateError)
  deriving DecidableEq, Repr

/-- The wording of a failure. -/
def Failure.message : Failure → String
  | config fault => fault.message
  | noDirectory path => s!"build output directory not found: {path}"
  | generate fault => fault.message

/-- The line for a failure. -/
def Failure.line (message : String) : String := s!"error: {message}\n"

/-- How a command ended. -/
structure Outcome where
  exitCode : UInt8
  /-- what it printed, up to the line for a failure -/
  printed : Printed
  failure : Option Failure := none
  /-- the files after it -/
  tree : Tree

namespace Outcome

/-- A command ended with a failure. -/
def failed (printed : Printed) (failure : Failure) (tree : Tree) : Outcome where
  exitCode := 1
  printed
  failure := some failure
  tree

/-- **All that the command printed.** -/
def output (o : Outcome) : Printed :=
  match o.failure with
  | none => o.printed
  | some failure => o.printed ++ .err (Failure.line failure.message)

end Outcome

end OfflineManifest
