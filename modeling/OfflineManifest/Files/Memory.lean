import OfflineManifest.Digest.Basic
import OfflineManifest.Files.Store

/-! # Stores in memory

A memory store keeps texts under paths, in the order in which the paths first came. Writing to a
path again replaces the text in its place. A path may have a *pinned* digest, which is reported
whatever the text; it stays when the text is replaced.
-/

namespace OfflineManifest

/-- Texts under paths. -/
structure MemoryStore where
  entries : List (String × String) := []
  /-- pinned digests, the last one first -/
  pins : List (String × String) := []
  deriving DecidableEq, Repr

namespace MemoryStore

/-- The store without files. -/
def empty : MemoryStore := {}

/-- Entries in which a path has a text; a new path comes last. -/
def putEntry (path text : String) : List (String × String) → List (String × String)
  | [] => [(path, text)]
  | (p, t) :: rest => if p = path then (p, text) :: rest else (p, t) :: putEntry path text rest

/-- **The store with a text at a path.** -/
def put (s : MemoryStore) (path text : String) : MemoryStore :=
  { s with entries := putEntry path text s.entries }

/-- **The store with a text at a path and a pinned digest.** -/
def putPinned (s : MemoryStore) (path text digest : String) : MemoryStore :=
  { s.put path text with pins := (path, digest) :: s.pins }

/-- The text at a path. -/
def get? (s : MemoryStore) (path : String) : Option String := s.entries.lookup path

/-- The number of files. -/
def size (s : MemoryStore) : Nat := s.entries.length

/-- The beginning of the paths below a directory. -/
def below (directory : String) : String :=
  if directory.toList.getLast? = some '/' then directory else directory ++ "/"

/-- The paths below a directory. -/
def list (s : MemoryStore) (directory : String) : List String :=
  (s.entries.map Prod.fst).filter fun path => (below directory).toList.isPrefixOf path.toList

/-- The text at a path, which has to be there. -/
def read (s : MemoryStore) (path : String) : Except FileError String :=
  match s.get? path with
  | some text => .ok text
  | none => .error (.notFound path)

/-- The digest at a path, in writing. -/
def hash (s : MemoryStore) (path : String) : Except FileError String := do
  let text ← s.read path
  return (s.pins.lookup path).getD (Digest.ofBytes text.toUTF8).hex

instance : FileStore MemoryStore where
  list s directory := .ok (s.list directory)
  read := read
  hash := hash
  write s path text := (.ok (), s.put path text)

end MemoryStore

end OfflineManifest
