import OfflineManifest.Duration
import OfflineManifest.Files.Error
import OfflineManifest.Json.Fault
import OfflineManifest.PatternSet

/-! # Faults in making and publishing manifests -/

namespace OfflineManifest

/-- The times of a data group. -/
inductive TimeField where
  | maxAge
  | timeout
  deriving DecidableEq, Repr

/-- The name of a time in a configuration. -/
def TimeField.name : TimeField → String
  | maxAge => "maxAge"
  | timeout => "timeout"

/-- Why a manifest cannot be made, written or read. -/
inductive GenerateError where
  /-- a time of a data group is no duration -/
  | duration (group : String) (field : TimeField) (fault : Duration.Malformed)
  | invalidPattern (fault : InvalidPattern)
  /-- the files cannot be listed for an asset group -/
  | list (group : String) (fault : FileError)
  /-- a file of an asset group cannot be hashed -/
  | hash (group file : String) (fault : FileError)
  | write (path : String) (fault : FileError)
  /-- a text is no manifest -/
  | serialize (fault : Json.Fault)
  deriving DecidableEq, Repr

/-- The wording of an error. -/
def GenerateError.message : GenerateError → String
  | duration group field fault => s!"data group '{group}': invalid {field.name}: {fault.message}"
  | invalidPattern fault => fault.message
  | list group fault => s!"asset group '{group}': failed to list files: {fault.message}"
  | hash group file fault => s!"asset group '{group}': failed to hash {file}: {fault.message}"
  | write path fault => s!"failed to write manifest to {path}: {fault.message}"
  | serialize fault => s!"manifest serialization failed: {fault.message}"

end OfflineManifest
