import OfflineManifest.Command.Arguments
import OfflineManifest.Command.Check
import OfflineManifest.Command.Generate

/-! # The program

`Command.run` is what a command does with the files that it finds. Texts for the version and for
help complete the program.
-/

namespace OfflineManifest.Command

/-- **Runs a command**, seen from a directory of a tree. -/
def run (m : OutputMode) (c : Command) (tree : Tree) (here : List RawText) : Outcome :=
  match c with
  | generate options => runGenerate m options tree here
  | check options => runCheck m options tree here

/-- The name and version of the program. -/
def versionLine : String := "precache 0.1.0\n"

/-- The exit code for a command line that does not fit the usage. -/
def usageExitCode : UInt8 := 2

/-- How the program is used. -/
def usage : String :=
  String.join
    ["Usage: precache [OPTIONS] generate [--base-href <URL>] [-o <PATH>] [-f text|json] ",
      "<DIST> <CONFIG>\n",
      "       precache [OPTIONS] check [--base-href <URL>] [--url <PATH>...] <CONFIG>\n\n",
      "Options: -q/--quiet, -v/--verbose, --color auto|always|never, -h/--help, -V/--version\n"]

end OfflineManifest.Command
