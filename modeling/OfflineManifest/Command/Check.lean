import OfflineManifest.Command.Outcome
import OfflineManifest.Config.File
import OfflineManifest.Manifest.AssetGroups

/-! # The command `check`

A configuration is checked without a deployment. Every data group is resolved for itself, so that
all groups with a fault are reported at once; if there are none, a summary follows, and request
paths are classified by the navigation rules.
-/

namespace OfflineManifest

/-- Resolves a data group, or gives a diagnostic that it cannot be resolved. -/
def DataGroup.check (base : String) (g : DataGroup) : Run Empty (List ResolvedDataGroup) :=
  match g.resolve base with
  | .ok resolved => do
    Run.log (.dataGroup resolved.name resolved.maxAge)
    return [resolved]
  | .error e => do
    Run.notice (.invalidDataGroup g.name e.message)
    return []

/-- **Checks a configuration** and gives the data groups that can be resolved. -/
def Config.check (base : String) (c : Config) : Run Empty (List ResolvedDataGroup) := do
  c.assetGroups.forM fun g => g.notices.forM Run.notice
  let groups ← c.dataGroups.mapM (DataGroup.check base)
  return groups.flatten

/-- The line of the summary for a data group. -/
def ResolvedDataGroup.summary (g : ResolvedDataGroup) : String :=
  let timeout :=
    match g.timeout with
    | some ms => s!", timeout {ms}ms"
    | none => ""
  s!"data group '{g.name}': {g.patterns.length} pattern(s), max age {g.maxAge}ms{timeout}\n"

/-- The summary of a configuration without faults. -/
def summary (c : Config) (dataGroups : List ResolvedDataGroup) (rules : List NavigationRule) :
    String :=
  s!"asset groups: {c.assetGroups.length}\n" ++
    String.join (dataGroups.map ResolvedDataGroup.summary) ++
    s!"navigation urls: {rules.length}\n"

/-- The line for a request path. -/
def verdict (navigation : PatternSet) (url : String) : String :=
  s!"{url}: " ++ (if navigation.accepts url then "navigation" else "not navigation") ++ "\n"

/-- Classifies request paths, if there are any. -/
def classify (rules : List NavigationRule) (urls : List String) : Except Failure String :=
  if urls.isEmpty then .ok ""
  else
    match PatternSet.ofRules rules with
    | .error e => .error (.generate (.invalidPattern e))
    | .ok navigation => .ok (String.join (urls.map (verdict navigation)))

namespace Command

/-- Checks a loaded configuration. -/
def checkConfig (m : OutputMode) (o : CheckOptions) (c : Config) (tree : Tree) : Outcome :=
  let run := c.check o.base
  let rules := NavigationRule.resolve o.base c.navigationUrls
  let errors := (run.diagnostics.filter Diagnostic.isError).length
  let reported := m.logged run.events ++ report .text m o.config run.diagnostics
  match run.result with
  | .ok dataGroups =>
    if 0 < errors then
      { exitCode := 1
        printed := reported ++
          .onlyIf (!m.quiet) (.err s!"   check failed: {errors} invalid data group(s)\n")
        tree }
    else
      let summarised := reported ++ .onlyIf (!m.quiet) (.out (summary c dataGroups rules))
      match classify rules o.urls with
      | .ok verdicts => { exitCode := 0, printed := summarised ++ .out verdicts, tree }
      | .error failure => .failed summarised failure tree

/-- **The command `check`**, seen from a directory of a tree. -/
def runCheck (m : OutputMode) (o : CheckOptions) (tree : Tree) (here : List RawText) : Outcome :=
  match Config.loadFile tree here o.config with
  | .error e => .failed .nothing (.config e) tree
  | .ok c => checkConfig m o c tree

end Command

end OfflineManifest
