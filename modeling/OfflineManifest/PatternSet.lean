import OfflineManifest.Navigation
import OfflineManifest.Regex.Parser

/-! # Sets of patterns

A pattern set has positive and negative patterns. It accepts a path that some positive pattern
matches and no negative one does; the order of the patterns plays no part. Sets are made from file
globs, in which only glob characters have a meaning, and from navigation rules, whose regular
expressions are taken as they are.
-/

namespace OfflineManifest

/-- A set of signed patterns. -/
structure PatternSet where
  positive : List Regex
  negative : List Regex

/-- A pattern that is no regular expression. -/
structure InvalidPattern where
  /-- what the pattern belongs to -/
  group : String
  /-- the pattern as it is written -/
  pattern : String
  /-- the regular expression made from it -/
  regex : String
  fault : Regex.Fault
  deriving DecidableEq, Repr

/-- The wording of the error. -/
def InvalidPattern.message (e : InvalidPattern) : String :=
  s!"invalid pattern '{e.pattern}' in '{e.group}': {e.fault.render e.regex}"

namespace PatternSet

/-- The set without patterns. -/
def empty : PatternSet := ⟨[], []⟩

/-- The set with one more pattern. -/
def insert (s : PatternSet) (positive : Bool) (r : Regex) : PatternSet :=
  if positive then { s with positive := s.positive ++ [r] }
  else { s with negative := s.negative ++ [r] }

/-- Reads a regular expression, on behalf of a pattern of a group. -/
def compile (group pattern regex : String) : Except InvalidPattern Regex :=
  match Regex.parse? regex with
  | .ok r => .ok r
  | .error fault => .error ⟨group, pattern, regex, fault⟩

/-- The set of a list of patterns, each given as it is written, with its sign and its regular
expression. -/
def ofSigned (group : String) (patterns : List (String × Bool × String)) :
    Except InvalidPattern PatternSet :=
  patterns.foldlM (fun s (pattern, positive, regex) => do
    let r ← compile group pattern regex
    return s.insert positive r) empty

/-- The regular expression for the files that a glob without sign accepts. -/
def fileRegex (glob : String) : String :=
  Glob.anchored (Glob.fragment .wildcard (Glob.escaped glob))

/-- **The set of a list of file globs.** -/
def ofGlobs (group : String) (globs : List String) : Except InvalidPattern PatternSet :=
  ofSigned group <| globs.map fun glob =>
    let (positive, body) := Glob.signed glob
    (glob, positive, fileRegex body)

/-- The name under which faults in navigation rules are reported. -/
def navigationGroup : String := "navigationUrls"

/-- **The set of a list of navigation rules.** -/
def ofRules (rules : List NavigationRule) : Except InvalidPattern PatternSet :=
  ofSigned navigationGroup <| rules.map fun rule => (rule.regex, rule.positive, rule.regex)

/-- **Whether a set accepts a path.** -/
def accepts (s : PatternSet) (path : String) : Bool :=
  s.positive.any (·.isMatch path.toList) && !s.negative.any (·.isMatch path.toList)

/-- Whether a set has no patterns. -/
def isEmpty (s : PatternSet) : Bool := s.positive.isEmpty && s.negative.isEmpty

end PatternSet

end OfflineManifest
