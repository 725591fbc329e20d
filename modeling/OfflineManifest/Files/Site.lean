import OfflineManifest.Digest.Basic
import OfflineManifest.Files.Store
import OfflineManifest.Files.Tree
import OfflineManifest.Url

/-! # Directories as file stores

A site is a directory in a tree, as a file store. A path asked for is cut at its slashes; empty
parts and single dots do not count, and two dots are refused (`Site.locate`). What is left are names
below the directory, and the *canonical* path of a file is a slash and a name for each of them
(`Site.url`). Listings are sorted and give canonical paths. What is asked for is a text, and so is a
canonical path; a name that is no text is in it as it is shown.

The directory has a path itself. The names that are left are put behind it one by one
(`Site.resolve`), and the canonical path of what has such a path is made of the components that come
behind those of the directory (`Site.urlOf`).
-/

namespace OfflineManifest

/-- A directory in a tree. -/
structure Site where
  tree : Tree
  /-- the place from which the directory is found -/
  here : List RawText
  /-- the names that lead from there to the directory -/
  names : List RawText := []
  /-- the path of the directory -/
  root : RawText

namespace Site

/-! ### Requests -/

/-- The parts of a request between its slashes. -/
def requested (request : String) : List String := (request.toList.splitOn '/').map String.ofList

/-- The parts of a request that count, as names. -/
def parts (request : String) : List RawText :=
  ((requested request).filter fun part => part ≠ "" && part ≠ ".").map RawText.ofText

/-- **The names to which a path leads** below the directory. -/
def locate (request : String) : Except FileError (List RawText) :=
  if (requested request).contains ".." then .error (.outsideRoot request) else .ok (parts request)

/-- **The canonical path** of names below the directory. -/
def url (names : List RawText) : String := String.join (names.map fun name => "/" ++ name.lossy)

/-! ### Paths -/

/-- A path followed by one more name. -/
def extend (path name : RawText) : RawText :=
  if path = "" then name
  else if path.bytes.getLast? = some RawText.slash then path ++ name
  else path ++ "/" ++ name

/-- The path of names below the directory. -/
def shown (s : Site) (names : List RawText) : RawText := names.foldl extend s.root

/-- **The path to which a request leads.** -/
def resolve (s : Site) (request : String) : Except FileError RawText :=
  (locate request).map s.shown

/-- Whether a part of a path leads nowhere. -/
def isIdle (part : RawText) : Bool := part = "" || part = "."

/-- From where a path leads on, if it says so: from the top, or from the directory one is in. -/
def origin (path : RawText) : List RawText :=
  if path.bytes.head? = some RawText.slash then ["/"]
  else if (Tree.segments path).head? = some "." then ["."]
  else []

/-- The components of a path. Two paths are the same if their components are. -/
def components (path : RawText) : List RawText :=
  origin path ++ (Tree.segments path).filter (!isIdle ·)

/-- **The canonical path** of what has a path below that of the directory. -/
def urlOf (s : Site) (path : RawText) : Except FileError String :=
  if (components s.root).isPrefixOf (components path) then
    .ok (url ((components path).drop (components s.root).length))
  else .error (.outsideRoot path.lossy)

/-- Parts of a path without those at the end that lead nowhere. -/
def trimmed (parts : List RawText) : List RawText := (parts.reverse.dropWhile isIdle).reverse

/-- Parts of a path up to the last one that leads somewhere. -/
def leading (parts : List RawText) : List RawText := (trimmed parts).dropLast

/-- Parts of a path with a slash between any two. -/
def joined (parts : List RawText) : RawText :=
  ⟨[RawText.slash].intercalate (parts.map RawText.bytes)⟩

/-- **The path of the directory** in which something with a path stands. The top is in none. -/
def above? (path : RawText) : Option RawText :=
  let first := (Tree.segments path).headD ""
  let rest := trimmed (Tree.segments path).tail
  let kept := trimmed rest.dropLast
  if rest = [] then if first = "" then none else some ""
  else if kept = [] ∧ first = "" then some "/"
  else some (joined (first :: kept))

/-! ### Looking -/

/-- The number of bytes before the names of what is in a directory, in paths below it. -/
def walked (s : Site) (names : List RawText) : Nat := (extend (s.shown names) "").size

/-- The error for names that lead to a fault. -/
def refusal (s : Site) (request : String) (names : List RawText) (fault : Tree.Fault) : FileError :=
  .ofRefusal request (s.shown names).lossy (fault = .notFound) fault.message

/-- The directory with a path, seen from a place. -/
def ofPath (tree : Tree) (here : List RawText) (path : RawText) : Site :=
  { tree, here := Tree.start path here, names := Tree.segments path, root := path }

/-- A path that can be looked at. There is nothing with an empty path. -/
def checkPath (path : RawText) : Except Tree.Fault Unit :=
  if path = "" then .error .notFound
  else if Tree.isValidPath path then .ok ()
  else .error .invalidName

/-- The directory to which names lead, if its path can be looked at. -/
def directory? (s : Site) (names : List RawText) : Option Tree.Found :=
  match checkPath (s.shown names) with
  | .error _ => none
  | .ok () =>
    match s.tree.find s.here (s.names ++ names) with
    | .ok ⟨place, .directory entries, links⟩ => some ⟨place, .directory entries, links⟩
    | _ => none

/-- **The canonical paths of the files** below a directory of the site, in order. -/
def list (s : Site) (request : String) : Except FileError (List String) := do
  let names ← locate request
  match s.directory? names with
  | none => throw (.notFound request)
  | some found =>
    match s.tree.files found.links (s.walked names) found.place found.tree with
    | .ok ways => return (ways.map fun way => url (names ++ way)).mergeSort
    | .error fault => throw (.walk (s.shown names).lossy fault.message)

/-- The contents of a file. -/
def contents (s : Site) (request : String) : Except FileError ByteArray := do
  let names ← locate request
  let found := do
    checkPath (s.shown names)
    s.tree.read s.here (s.names ++ names)
  match found with
  | .ok bytes => return bytes
  | .error fault => throw (s.refusal request names fault)

/-- The text of a file. -/
def read (s : Site) (request : String) : Except FileError String := do
  let bytes ← s.contents request
  match String.fromUTF8? bytes with
  | some text => return text
  | none => throw (.invalidUtf8 request)

/-- The digest of a file, which is read in pieces, in writing. -/
def hash (s : Site) (request : String) : Except FileError String := do
  let bytes ← s.contents request
  return (Digest.ofFile bytes).hex

/-! ### Writing -/

/-- Makes the directories that are missing above what names lead to. The directory in which one is
has an empty path, and is there. -/
def makeDirectories (s : Site) (names : List RawText) : Except FileError Unit × Tree :=
  match above? (s.shown names) with
  | none => (.ok (), s.tree)
  | some path =>
    if path = "" then (.ok (), s.tree)
    else
      let failed (fault : Tree.Fault) : FileError := .io path.lossy fault.message
      match checkPath path with
      | .error fault => (.error (failed fault), s.tree)
      | .ok () =>
        let (made, tree) :=
          s.tree.makeDirectories Tree.linkLimit s.here (leading (s.names ++ names))
        ((made.map fun _ => ()).mapError failed, tree)

/-- **Writes a file**, and makes the directories above it. -/
def writeBytes (s : Site) (request : String) (bytes : ByteArray) : Except FileError Unit × Site :=
  match locate request with
  | .error e => (.error e, s)
  | .ok names =>
    match s.makeDirectories names with
    | (.error e, tree) => (.error e, { s with tree })
    | (.ok (), tree) =>
      let written := do
        checkPath (s.shown names)
        tree.write s.here (s.names ++ names) bytes
      match written with
      | .error fault => (.error (.io (s.shown names).lossy fault.message), { s with tree })
      | .ok tree => (.ok (), { s with tree })

instance : FileStore Site where
  list := list
  read := read
  hash := hash
  write s path text := s.writeBytes path text.toUTF8

end Site

end OfflineManifest
