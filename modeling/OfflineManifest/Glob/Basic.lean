/-! # Globs and their fragments

A glob is a text of segments between slashes. In a segment `*` stands for any run of characters
other than a slash and `?` for one such character, or for itself; the segment `**` stands for any
number of segments. `Glob.fragment` writes a glob as a piece of a regular expression: no anchors,
no capturing groups. Characters that mean something in a regular expression and nothing in a glob
pass through; `Glob.escaped` protects them beforehand where they are to match themselves.
-/

namespace OfflineManifest.Glob

/-- What `?` stands for. -/
inductive QuestionMark where
  /-- one character other than a slash -/
  | wildcard
  /-- itself -/
  | literal
  deriving DecidableEq, Repr

/-- The segment that stands for any number of segments. -/
def wild : List Char := ['*', '*']

/-- How a character of a segment is written. -/
def charFragment (q : QuestionMark) (c : Char) : List Char :=
  match c with
  | '.' => "\\.".toList
  | '+' => "\\+".toList
  | '*' => "[^/]*".toList
  | '?' =>
    match q with
    | .wildcard => "[^/]".toList
    | .literal => "\\?".toList
  | c => [c]

/-- How a segment is written, character by character. -/
def segmentFragment (q : QuestionMark) (segment : List Char) : List Char :=
  segment.flatMap (charFragment q)

/-- How a list of segments is written. `**` swallows the slash after it, and the slash before it if
it is the last segment. -/
def segmentsFragment (q : QuestionMark) : List (List Char) → List Char
  | [] => []
  | [s] => if s = wild then ".*".toList else segmentFragment q s
  | s :: rest =>
    if s = wild then "(?:.+\\/)?".toList ++ segmentsFragment q rest
    else if rest = [wild] then segmentFragment q s ++ "(?:\\/.*)?".toList
    else segmentFragment q s ++ "\\/".toList ++ segmentsFragment q rest

/-- **The fragment of a glob.** -/
def fragment (q : QuestionMark) (glob : String) : String :=
  String.ofList (segmentsFragment q (glob.toList.splitOn '/'))

/-- The characters with a meaning in a regular expression that a fragment passes through. -/
def passesThrough (c : Char) : Bool :=
  ['\\', '^', '$', '|', '(', ')', '[', ']', '\x7b', '\x7d'].contains c

/-- A glob in which those characters stand for themselves. -/
def escaped (glob : String) : String :=
  String.ofList (glob.toList.flatMap fun c => if passesThrough c then ['\\', c] else [c])

/-- A text set between the anchors that make a fragment match whole texts. -/
def anchored (fragment : String) : String := "^" ++ fragment ++ "$"

/-- A pattern with a sign: a leading exclamation mark makes it negative and is not part of it. -/
def signed (pattern : String) : Bool × String :=
  match pattern.toList with
  | '!' :: body => (false, String.ofList body)
  | _ => (true, pattern)

end OfflineManifest.Glob
