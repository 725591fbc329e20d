/-! # Faults in working with files -/

namespace OfflineManifest

/-- Why an operation on files fails. -/
inductive FileError where
  /-- the operating system refuses it -/
  | io (path reason : String)
  /-- there is no such file, or no such directory to list -/
  | notFound (path : String)
  /-- some entry of a directory cannot be visited -/
  | walk (root reason : String)
  /-- the path leads upwards -/
  | outsideRoot (path : String)
  /-- the file is no text -/
  | invalidUtf8 (path : String)
  deriving DecidableEq, Repr

namespace FileError

/-- The wording of an error. -/
def message : FileError → String
  | io path reason => s!"I/O error at {path}: {reason}"
  | notFound path => s!"file not found: {path}"
  | walk root reason => s!"failed to list {root}: {reason}"
  | outsideRoot path => s!"path escapes the filesystem root: {path}"
  | invalidUtf8 path => s!"file is not valid UTF-8: {path}"

/-- The error for a refusal of the operating system's. A missing file is reported under the path
that was asked for, anything else under the path that was tried. -/
def ofRefusal (requested path : String) (missing : Bool) (reason : String) : FileError :=
  if missing then notFound requested else io path reason

end FileError

end OfflineManifest
