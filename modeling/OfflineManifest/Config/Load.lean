import OfflineManifest.Config.Json
import OfflineManifest.Config.Toml
import OfflineManifest.Config.Validate
import OfflineManifest.Text.Path

/-! # Loading configurations

A configuration is written in JSON or in TOML; a file says which by its extension. What is loaded is
read in full first and then checked.
-/

namespace OfflineManifest

/-- How a configuration is written. -/
inductive ConfigFormat where
  | json
  | toml
  deriving DecidableEq, Repr

/-- Why a configuration cannot be loaded. -/
inductive ConfigError where
  /-- the file cannot be read, for a reason of the operating system's -/
  | unreadable (reason : String)
  | invalidJson (fault : Json.Fault)
  | invalidToml
  | unsupportedFormat (extension : String)
  | invalid (problem : Config.Problem)
  deriving DecidableEq, Repr

namespace ConfigError

/-- The wording of an error. -/
def message : ConfigError → String
  | unreadable reason => s!"failed to read configuration: {reason}"
  | invalidJson fault => s!"failed to parse configuration: {fault.message}"
  | invalidToml => "failed to parse configuration: invalid TOML"
  | unsupportedFormat extension =>
    s!"unsupported configuration format '{extension}' (expected .json or .toml)"
  | invalid .emptyIndex => "missing required field: index"
  | invalid (.emptyName kind i) => s!"missing required field: {kind.listName}[{i}].name"
  | invalid (.duplicateName kind name) => s!"duplicate {kind.describe} name '{name}'"

end ConfigError

/-- The format of the file at a path. -/
def ConfigFormat.ofPath (path : String) : Except ConfigError ConfigFormat :=
  match Text.pathExtension path with
  | "json" => .ok .json
  | "toml" => .ok .toml
  | other => .error (.unsupportedFormat other)

namespace Config

/-- Reads a configuration, valid or not. -/
def read (format : ConfigFormat) (text : String) : Except ConfigError Config :=
  match format with
  | .json =>
    match decoder.run text with
    | .ok c => .ok c
    | .error fault => .error (.invalidJson fault)
  | .toml =>
    match Toml.readConfig? text with
    | some c => .ok c
    | none => .error .invalidToml

/-- **Loads a configuration** from a text. -/
def load (format : ConfigFormat) (text : String) : Except ConfigError Config := do
  let c ← read format text
  match c.problem? with
  | none => return c
  | some problem => throw (.invalid problem)

end Config

end OfflineManifest
