import OfflineManifest.Files.Error

/-! # File stores

A store holds files under paths that start at its root with a slash. Files are listed, read, hashed
and written by path. A write that fails may still have made directories, so it gives back the store
in either case.
-/

namespace OfflineManifest

/-- What a store of files can do. -/
class FileStore (σ : Type) where
  /-- the paths of the files below a directory -/
  list : σ → String → Except FileError (List String)
  /-- the text of a file -/
  read : σ → String → Except FileError String
  /-- the digest of a file, in writing -/
  hash : σ → String → Except FileError String
  /-- whether a file could be written, and the store after that -/
  write : σ → String → String → Except FileError Unit × σ

end OfflineManifest
