/-! # Regular expressions and their matches

A regular expression is built from sets of characters and from conditions on the place between two
characters. Matching moves *marks*: a text of `n` characters has `n + 1` places, a list of as many
truth values marks some of them, and an expression takes the places where a match may begin to the
places where such a match may end (`Regex.advance`). A text has a match somewhere iff some place is
marked after starting from all of them (`Regex.isMatch`).
-/

namespace OfflineManifest

/-- A set of characters, given by membership. -/
abbrev CharSet := Char → Bool

/-- A condition on a place, given the characters before and after it, if there are any. -/
abbrev PlaceTest := Option Char → Option Char → Bool

/-- A regular expression. -/
inductive Regex where
  /-- the empty text -/
  | empty
  /-- one character of a set -/
  | chars (set : CharSet)
  /-- the empty text at places that satisfy a condition -/
  | place (test : PlaceTest)
  /-- one expression, then another -/
  | seq (first second : Regex)
  /-- either of two expressions -/
  | either (left right : Regex)
  /-- an expression at least `lo` times and at most `hi` times, if there is a limit -/
  | times (body : Regex) (lo : Nat) (hi : Option Nat)

namespace Regex

/-- The places that satisfy a condition, in a text that follows the character `before`. -/
def placeMarks (test : PlaceTest) (before : Option Char) : List Char → List Bool
  | [] => [test before none]
  | c :: rest => test before (some c) :: placeMarks test (some c) rest

/-- The places marked on either side. -/
def joinMarks (a b : List Bool) : List Bool := List.zipWith (· || ·) a b

/-- `f` applied `n` times; it stops early where `f` changes nothing any more. -/
def repeated (f : List Bool → List Bool) : Nat → List Bool → List Bool
  | 0, marks => marks
  | n + 1, marks => if f marks = marks then marks else repeated f n (f marks)

/-- **The ends of the matches of an expression that begin at the marked places** of a text. -/
def advance (text : List Char) : Regex → List Bool → List Bool
  | empty, marks => marks
  | chars set, marks => false :: List.zipWith (fun mark c => mark && set c) marks text
  | place test, marks => List.zipWith (· && ·) marks (placeMarks test none text)
  | seq first second, marks => advance text second (advance text first marks)
  | either left right, marks => joinMarks (advance text left marks) (advance text right marks)
  | times body lo hi, marks =>
    let more := fun marks => joinMarks marks (advance text body marks)
    let required := repeated (advance text body) lo marks
    match hi with
    | some hi => repeated more (hi - lo) required
    | none => repeated more (text.length + 1) required

/-- **Whether an expression matches some part of a text.** -/
def isMatch (r : Regex) (text : List Char) : Bool :=
  (advance text r (List.replicate (text.length + 1) true)).any id

/-- A list of expressions one after the other. -/
def seqAll : List Regex → Regex
  | [] => empty
  | [r] => r
  | r :: rest => seq r (seqAll rest)

/-- Any one of a list of expressions, `r` among them. -/
def eitherAll (r : Regex) : List Regex → Regex
  | [] => r
  | s :: rest => either r (eitherAll s rest)

end Regex

end OfflineManifest
