import OfflineManifest.Command.Program

/-! # The executable

A command is run on a tree with the files that it names: the configuration file and, for `generate`,
everything below the directory of the deployment. The manifest is then copied to the disk.
-/

namespace OfflineManifest.Disk

/-- How many directories below each other are visited. There are only more if a link leads back to a
directory above it. -/
def depthLimit : Nat := 200

/-- What is on the disk, with every link taken as what it leads to. A link that leads nowhere
becomes one that leads to itself. -/
def load (e : IO.FS.DirEntry) : Nat → IO (Option Tree)
  | 0 => return none
  | depth + 1 => do
    if ← e.path.isDir then
      let entries : Array (RawText × Tree) ← (← e.path.readDir).mapM fun child => do
        return (↑child.fileName, (← load child depth).getD (.link child.fileName))
      return some (.directory entries.toList)
    else if ← e.path.pathExists then
      return some (.file (← IO.FS.readBinFile e.path))
    else return none

/-- A tree put where a path leads, with the directories on the way. -/
def graft (top : Tree) (here : List RawText) (path : RawText) (t : Tree) : Tree :=
  let step := fun ((top, place) : Tree × List RawText) name =>
    if name = "" ∨ name = "." then (top, place)
    else if name = ".." then (top, place.dropLast)
    else
      let place := place ++ [name]
      (if (top.at? place).isSome then top else top.put place (.directory []), place)
  let (top, place) := (Tree.segments path).foldl step (top, Tree.start path here)
  top.put place t

/-- The paths that a command reads, with the depth to which it looks at them. -/
def pathsOf : Command → List (String × Nat)
  | .generate o => [(o.config, 1), (o.directory, depthLimit)]
  | .check o => [(o.config, 1)]

/-- Copies the manifest to the disk, if one was written. -/
def storeManifest (here : List RawText) (c : Command) (o : Outcome) : IO Unit := do
  match c with
  | .check _ => return
  | .generate options =>
    let names := Site.parts options.output
    match o.exitCode, (Site.ofPath o.tree here options.directory).contents options.output with
    | 0, .ok contents =>
      let path (names : List RawText) : String := (names.foldl Site.extend options.directory).lossy
      IO.FS.createDirAll (path names.dropLast)
      IO.FS.writeBinFile (path names) contents
    | _, _ => return

/-- Runs a command on the disk. -/
def run (m : OutputMode) (c : Command) : IO UInt32 := do
  let current ← IO.currentDir
  let here := Site.parts current.toString
  let emptyTree := graft (.directory []) [] current.toString (.directory [])
  let tree ← (pathsOf c).foldlM
    (fun top (path, depth) => do
      match ← load ⟨current, path⟩ depth with
      | some t => return graft top here path t
      | none => return top)
    emptyTree
  let outcome := c.run m tree here
  storeManifest here c outcome
  IO.print outcome.output.stdout
  IO.eprint outcome.output.stderr
  return outcome.exitCode.toUInt32

end OfflineManifest.Disk

open OfflineManifest in
/-- Reads the command line and runs the command. -/
def main (words : List String) : IO UInt32 := do
  match Command.parse words with
  | .error .version => IO.print Command.versionLine; return 0
  | .error .help => IO.print Command.usage; return 0
  | .error .usage => IO.eprint Command.usage; return Command.usageExitCode.toUInt32
  | .ok (globals, command) =>
    let terminal ← (← IO.getStderr).isTty
    try Disk.run (.ofOptions terminal globals) command
    catch e => IO.eprint (Failure.line (toString e)); return 1
