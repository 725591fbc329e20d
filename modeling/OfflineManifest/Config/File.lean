import OfflineManifest.Config.Load
import OfflineManifest.Files.Tree

/-! # Configuration files

The format of a configuration file is settled by its name before the file is looked at.
-/

namespace OfflineManifest.Config

/-- The text of a file in a tree, seen from a directory. -/
def fileText (tree : Tree) (here : List RawText) (path : String) : Except ConfigError String :=
  match tree.readPath here path with
  | .error fault => .error (.unreadable fault.message)
  | .ok bytes =>
    match String.fromUTF8? bytes with
    | some text => .ok text
    | none => .error (.unreadable "the file is not valid UTF-8")

/-- **Loads a configuration** from a file in a tree, seen from a directory. -/
def loadFile (tree : Tree) (here : List RawText) (path : String) : Except ConfigError Config := do
  let format ← ConfigFormat.ofPath path
  let text ← fileText tree here path
  load format text

end OfflineManifest.Config
