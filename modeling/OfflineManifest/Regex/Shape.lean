import OfflineManifest.Regex.Error

/-! # Nesting of constructs

Groups, repetitions, alternatives, sequences and bracketed sets count towards the depth of a
pattern. The shape of a construct remembers, for every depth, the leftmost part of the pattern that
is nested that deeply; a pattern that is nested too deeply is at fault there.
-/

namespace OfflineManifest.Regex

/-- The part of the pattern that a construct covers, and per depth the leftmost part nested so
deeply in it, the outermost first. -/
structure Shape where
  span : Span
  levels : List Span
  deriving DecidableEq, Repr

namespace Shape

/-- A construct that does not count towards the depth. -/
def leaf (span : Span) : Shape := ⟨span, []⟩

/-- The leftmost part per depth, of two lists from left to right. -/
def mergeLevels : List Span → List Span → List Span
  | [], right => right
  | left, [] => left
  | a :: left, _ :: right => a :: mergeLevels left right

/-- A construct around others, which are given from left to right. -/
def around (span : Span) (inner : List Shape) : Shape :=
  ⟨span, span :: inner.foldr (fun s levels => mergeLevels s.levels levels) []⟩

/-- Several constructs in a row count as one around them; a single one is itself. -/
def row (span : Span) : List Shape → Shape
  | [] => leaf span
  | [s] => s
  | inner => around span inner

/-- The part at which a pattern of this shape is nested too deeply. -/
def tooDeep? (s : Shape) : Option Span := s.levels[nestLimit]?

end Shape

end OfflineManifest.Regex
