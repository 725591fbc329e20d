import OfflineManifest.Command.Outcome
import OfflineManifest.Config.File
import OfflineManifest.Files.Site
import OfflineManifest.Manifest.Generate

/-! # The command `generate`

The manifest of a deployment is made from a configuration and the files of a directory, and written
into that directory. Diagnostics are reported whether or not there is a manifest; nothing is written
unless there is one.
-/

namespace OfflineManifest.Command

/-- What is logged about the listings: one for each asset group. -/
def listings (site : Site) (c : Config) : List Event :=
  match site.list "/" with
  | .ok files => c.assetGroups.map fun _ => .listed "/" files.length
  | .error _ => []

/-- The path of a manifest in messages. -/
def outputPath (o : GenerateOptions) : String :=
  (Site.extend o.directory (String.ofList (o.output.toList.dropWhile (· == '/')))).lossy

/-- The line for a manifest that was written. -/
def generatedLine (o : GenerateOptions) (m : Manifest) : String :=
  s!"   Generated {outputPath o} ({m.assetGroups.length} asset group(s), " ++
    s!"{m.dataGroups.length} data group(s), {m.hashTable.size} file(s))\n"

/-- Generates from a loaded configuration. -/
def generateInto (mode : OutputMode) (o : GenerateOptions) (c : Config) (site : Site) : Outcome :=
  let run := Manifest.generate o.base (.ofStore site) c
  let reported := mode.logged (listings site c ++ run.events) ++
    report o.format mode o.config run.diagnostics
  match run.result with
  | .error e => .failed reported (.generate e) site.tree
  | .ok manifest =>
    let path := Url.join "/" o.output
    match manifest.publish path site with
    | (.error e, site) => .failed reported (.generate e) site.tree
    | (.ok (), site) =>
      let bytes := manifest.render.utf8ByteSize
      { exitCode := 0
        printed := reported ++ mode.logged [.wrote path bytes, .published path bytes] ++
          .onlyIf (!mode.quiet) (.err (generatedLine o manifest))
        tree := site.tree }

/-- **The command `generate`**, seen from a directory of a tree. -/
def runGenerate (mode : OutputMode) (o : GenerateOptions) (tree : Tree) (here : List RawText) :
    Outcome :=
  match Config.loadFile tree here o.config with
  | .error e => .failed .nothing (.config e) tree
  | .ok c =>
    let site : Site := .ofPath tree here o.directory
    if (site.directory? []).isSome then generateInto mode o c site
    else .failed .nothing (.noDirectory o.directory) tree

end OfflineManifest.Command
