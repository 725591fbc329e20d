import OfflineManifest.Text.Raw

/-! # Directory trees

A tree is a file, a symbolic link, or a directory with named entries. Names, and the paths that are
made of them, are raw texts. A *place* in a tree is the list of names on the way to it from the top,
none of which is a link.

* `Tree.at?` is the tree at a place; `Tree.put` and `Tree.erase` change what is there.
* `Tree.follow` finds the place to which names lead from another place. A link stands for the names
  of its target, seen from the directory in which the link stands; `.` stands for a directory itself
  and `..` for the one above it. On the way at most `linkLimit` links are passed, from the first
  name to the last.
* `Tree.files` are the ways to the files below a directory, through links too. The links on the way
  to a directory count for all that is found below it. A link that leads nowhere or back to a
  directory above it is a fault.
* `Tree.isValidPath` says which paths can be looked at in the first place.
-/

namespace OfflineManifest

/-- A file, a symbolic link or a directory. -/
inductive Tree where
  | file (contents : ByteArray)
  | link (target : RawText)
  | directory (entries : List (RawText × Tree))

namespace Tree

/-- Why names do not lead where they should. -/
inductive Fault where
  | notFound
  | notDirectory
  | isDirectory
  /-- the name is taken by something that is no directory -/
  | taken
  | tooManyLinks
  /-- a name or the whole path cannot be that of a file -/
  | invalidName
  deriving DecidableEq, Repr

/-- The wording of a fault. -/
def Fault.message : Fault → String
  | notFound => "no such file or directory"
  | notDirectory => "not a directory"
  | isDirectory => "is a directory"
  | taken => "file exists"
  | tooManyLinks => "too many levels of symbolic links"
  | invalidName => "invalid file name"

/-! ### Places -/

/-- The tree at a place. -/
def at? : List RawText → Tree → Option Tree
  | [], t => some t
  | name :: rest, directory entries => (entries.lookup name).bind (at? rest)
  | _ :: _, _ => none

/-- Entries in which a name stands for a tree; a new name comes last. -/
def putEntry (name : RawText) (t : Tree) : List (RawText × Tree) → List (RawText × Tree)
  | [] => [(name, t)]
  | (n, u) :: rest => if n = name then (n, t) :: rest else (n, u) :: putEntry name t rest

/-- **The tree with something else at a place** in a directory that is there. -/
def put (t : Tree) (place : List RawText) (new : Tree) : Tree :=
  match place, t with
  | [], _ => new
  | [name], directory entries => directory (putEntry name new entries)
  | name :: rest, directory entries =>
    match entries.lookup name with
    | some u => directory (putEntry name (u.put rest new) entries)
    | none => directory entries
  | _ :: _, t => t

/-- The tree without the entry at a place. -/
def erase (t : Tree) (place : List RawText) : Tree :=
  match place, t with
  | [], t => t
  | [name], directory entries => directory (entries.filter (·.1 ≠ name))
  | name :: rest, directory entries =>
    match entries.lookup name with
    | some u => directory (putEntry name (u.erase rest) entries)
    | none => directory entries
  | _ :: _, t => t

/-! ### Following names -/

/-- The number of links that are passed on one way. -/
def linkLimit : Nat := 40

/-- The number of bytes that a name can have. -/
def nameLimit : Nat := 255

/-- The number of bytes that a path can have. -/
def pathLimit : Nat := 4095

/-- Whether a name can be that of an entry. -/
def isValidName (name : RawText) : Bool := name.size ≤ nameLimit

/-- Whether a path can be looked at. Where it leads does not matter for that. -/
def isValidPath (path : RawText) : Bool :=
  !path.bytes.contains 0 && path.size ≤ pathLimit

/-- The names between the slashes of a path. -/
def segments (path : RawText) : List RawText := (path.bytes.splitOn RawText.slash).map RawText.mk

/-- The place at which the names of a path start, seen from a directory. -/
def start (path : RawText) (here : List RawText) : List RawText :=
  if path.bytes.head? = some RawText.slash then [] else here

/-- Where names lead. -/
inductive Destination where
  /-- to something that is there, with a number of links that may still be passed -/
  | existing (place : List RawText) (links : Nat)
  /-- to a name that a directory does not have -/
  | vacant (directory : List RawText) (name : RawText)
  deriving DecidableEq, Repr

/-- **Where names lead** from a directory, if a number of links may be passed. -/
def follow (top : Tree) (links : Nat) (here todo : List RawText) : Except Fault Destination :=
  match todo with
  | [] => .ok (.existing here links)
  | name :: rest =>
    match top.at? here with
    | some (directory entries) =>
      if name = "" ∨ name = "." then follow top links here rest
      else if name = ".." then follow top links here.dropLast rest
      else if !isValidName name then .error .invalidName
      else
        match entries.lookup name with
        | none => if rest = [] then .ok (.vacant here name) else .error .notFound
        | some (link target) =>
          match links with
          | 0 => .error .tooManyLinks
          | links + 1 => follow top links (start target here) (segments target ++ rest)
        | some _ => follow top links (here ++ [name]) rest
    | _ => .error .notDirectory
termination_by (links, todo.length)

/-- On a way some of the links are passed that may be passed, never more. -/
theorem links_le_of_follow {top : Tree} {links left : Nat} {here todo place : List RawText}
    (h : follow top links here todo = .ok (.existing place left)) : left ≤ links := by
  fun_induction follow top links here todo <;> grind

/-- Something that names lead to. -/
structure Found where
  place : List RawText
  tree : Tree
  /-- the number of links that may still be passed -/
  links : Nat

/-- What names lead to, if a number of links may be passed. -/
def findWithin (top : Tree) (links : Nat) (here names : List RawText) : Except Fault Found :=
  match follow top links here names with
  | .ok (.existing place left) =>
    match top.at? place with
    | some tree => .ok ⟨place, tree, left⟩
    | none => .error .notFound
  | .ok (.vacant ..) => .error .notFound
  | .error fault => .error fault

/-- The same for `findWithin`. -/
theorem links_le_of_findWithin {top : Tree} {links : Nat} {here names : List RawText}
    {found : Found} (h : findWithin top links here names = .ok found) : found.links ≤ links := by
  unfold findWithin at h
  split at h
  · rename_i place left follows
    split at h
    · cases h
      exact links_le_of_follow follows
    · cases h
  · cases h
  · cases h

/-- What names lead to. -/
def find (top : Tree) (here names : List RawText) : Except Fault Found :=
  findWithin top linkLimit here names

/-- The directory to which names lead, if they lead to one. -/
def directory? (top : Tree) (here names : List RawText) : Option (List RawText) :=
  match top.find here names with
  | .ok ⟨place, directory _, _⟩ => some place
  | _ => none

/-- The contents of the file to which names lead. -/
def read (top : Tree) (here names : List RawText) : Except Fault ByteArray :=
  match top.find here names with
  | .ok ⟨_, file contents, _⟩ => .ok contents
  | .ok _ => .error .isDirectory
  | .error fault => .error fault

/-- The contents of the file with a path, seen from a directory. -/
def readPath (top : Tree) (here : List RawText) (path : RawText) : Except Fault ByteArray :=
  if isValidPath path then top.read (start path here) (segments path) else .error .invalidName

/-! ### Writing -/

/-- **Makes the directories** that are missing on a way, and gives the place to which it leads. What
was made stays if a later name is at fault. -/
def makeDirectories (top : Tree) (links : Nat) (here : List RawText) :
    List RawText → Except Fault (List RawText) × Tree
  | [] => (.ok here, top)
  | name :: rest =>
    match follow top links here [name] with
    | .ok (.existing place left) =>
      match top.at? place with
      | some (directory _) => makeDirectories top left place rest
      | _ => (.error .taken, top)
    | .ok (.vacant place new) =>
      if place = here ∧ new = name then
        makeDirectories (top.put (here ++ [name]) (directory [])) links (here ++ [name]) rest
      else (.error .taken, top)
    | .error fault => (.error fault, top)

/-- **Writes a file** to where names lead. -/
def write (top : Tree) (here names : List RawText) (contents : ByteArray) : Except Fault Tree :=
  match follow top linkLimit here names with
  | .ok (.existing place _) =>
    match top.at? place with
    | some (file _) => .ok (top.put place (file contents))
    | _ => .error .isDirectory
  | .ok (.vacant place name) => .ok (top.put (place ++ [name]) (file contents))
  | .error fault => .error fault

/-! ### Walking -/

mutual

/-- The ways to the files of a tree that stands at a place. A number of links may still be passed,
and `size` is the number of bytes of the path that has led here, with a slash behind it. -/
def files (top : Tree) (links size : Nat) (here : List RawText) (t : Tree) :
    Except Fault (List (List RawText)) :=
  match t with
  | file _ => .ok [[]]
  | link _ => .error .notFound
  | directory entries =>
    if size ≤ pathLimit + 1 then filesOf top links size here entries else .error .invalidName
termination_by (links, sizeOf t)

/-- The ways to the files among the entries of the directory at a place, and below them. -/
def filesOf (top : Tree) (links size : Nat) (here : List RawText)
    (entries : List (RawText × Tree)) : Except Fault (List (List RawText)) :=
  match entries with
  | [] => .ok []
  | (name, t) :: rest => do
    let size' := size + name.size
    let below ←
      match t, links with
      | link _, 0 => .error .tooManyLinks
      | link target, links + 1 =>
        if size' ≤ pathLimit then
          match _ : findWithin top links (start target here) (segments target) with
          | .ok found => files top found.links (size' + 1) found.place found.tree
          | .error fault => .error fault
        else .error .invalidName
      | t, links => files top links (size' + 1) (here ++ [name]) t
    let others ← filesOf top links size here rest
    return below.map (name :: ·) ++ others
termination_by (links, sizeOf entries)
decreasing_by
  · decreasing_tactic
  · have := links_le_of_findWithin ‹findWithin .. = _›
    apply Prod.Lex.left
    omega
  · decreasing_tactic

end

end Tree

end OfflineManifest
