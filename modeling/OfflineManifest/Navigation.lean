import OfflineManifest.Glob.Basic
import OfflineManifest.Url

/-! # Navigation rules

A request is a navigation if it asks for a page rather than for a resource. Rules say which requests
are: each rule is a regular expression for whole paths and a sign. Rules are written as URL globs,
relative to a base where they do not stand for themselves; if none are written, every path is a
navigation unless its last segment has a file extension or some segment has two underscores in a
row.
-/

namespace OfflineManifest

/-- The regular expression, without anchors, for a URL glob seen from a base. -/
def Url.fragment (base pattern : String) (q : Glob.QuestionMark) : String :=
  Glob.fragment q (Url.resolve base pattern)

/-- A rule with its sign. -/
structure NavigationRule where
  positive : Bool
  regex : String
  deriving DecidableEq, Repr

namespace NavigationRule

/-- The rules that hold where none are written. -/
def defaults : List String := ["/**", "!/**/*.*", "!/**/*__*", "!/**/*__*/**"]

/-- The rule that a pattern writes. -/
def ofPattern (base pattern : String) : NavigationRule :=
  let (positive, body) := Glob.signed pattern
  ⟨positive, Glob.anchored (Url.fragment base body .wildcard)⟩

/-- **The rules of a configuration**, which may write none. -/
def resolve (base : String) (patterns : Option (List String)) : List NavigationRule :=
  (patterns.getD defaults).map (ofPattern base)

end NavigationRule

end OfflineManifest
