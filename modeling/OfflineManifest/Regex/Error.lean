/-! # Faults in regular expressions

A fault has a kind, the part of the pattern at which it shows, and for a name or flag given twice
also the part where it was given first. `Fault.render` shows the pattern with carets under those
parts and the kind on the last line; a pattern of several lines gets line numbers and a frame.
-/

namespace OfflineManifest.Regex

/-- A part of a pattern: the places, counted in characters, where it starts and stops. -/
structure Span where
  start : Nat
  stop : Nat
  deriving DecidableEq, Repr

/-- The most deeply nested constructs a pattern may have. -/
def nestLimit : Nat := 250

/-- What is wrong with a pattern. -/
inductive FaultKind where
  | backreference
  | lookAround
  | groupUnclosed
  | groupUnopened
  | groupNameEmpty
  | groupNameInvalid
  | groupNameUnclosed
  | groupNameDuplicate
  | flagDangling
  | flagDuplicate
  | flagNegationRepeated
  | flagEnd
  | flagUnknown
  | repetitionMissing
  | countUnclosed
  | countEmpty
  | countTooLarge
  | countOrder
  | classUnclosed
  | classOrder
  | classBoundary
  | classEscape
  | escapeEnd
  | escapeUnknown
  | hexEmpty
  | hexNoScalar
  | hexDigit
  | boundaryUnclosed
  | boundaryUnknown
  | boundaryEnd
  | propertyInvalid
  | propertyUnknown
  | propertyValueUnknown
  | unicodeNotAllowed
  | invalidUtf8
  | nestedTooDeep
  deriving DecidableEq, Repr

/-- The wording of a kind of fault. -/
def FaultKind.message : FaultKind → String
  | backreference => "backreferences are not supported"
  | lookAround => "look-around, including look-ahead and look-behind, is not supported"
  | groupUnclosed => "unclosed group"
  | groupUnopened => "unopened group"
  | groupNameEmpty => "empty capture group name"
  | groupNameInvalid => "invalid capture group character"
  | groupNameUnclosed => "unclosed capture group name"
  | groupNameDuplicate => "duplicate capture group name"
  | flagDangling => "dangling flag negation operator"
  | flagDuplicate => "duplicate flag"
  | flagNegationRepeated => "flag negation operator repeated"
  | flagEnd => "expected flag but got end of regex"
  | flagUnknown => "unrecognized flag"
  | repetitionMissing => "repetition operator missing expression"
  | countUnclosed => "unclosed counted repetition"
  | countEmpty => "repetition quantifier expects a valid decimal"
  | countTooLarge => "decimal literal invalid"
  | countOrder => "invalid repetition count range, the start must be <= the end"
  | classUnclosed => "unclosed character class"
  | classOrder => "invalid character class range, the start must be <= the end"
  | classBoundary => "invalid range boundary, must be a literal"
  | classEscape => "invalid escape sequence found in character class"
  | escapeEnd => "incomplete escape sequence, reached end of pattern prematurely"
  | escapeUnknown => "unrecognized escape sequence"
  | hexEmpty => "hexadecimal literal empty"
  | hexNoScalar => "hexadecimal literal is not a Unicode scalar value"
  | hexDigit => "invalid hexadecimal digit"
  | boundaryUnclosed =>
    "special word boundary assertion is either unclosed or contains an invalid character"
  | boundaryUnknown =>
    "unrecognized special word boundary assertion, " ++
      "valid choices are: start, end, start-half or end-half"
  | boundaryEnd =>
    "found either the beginning of a special word boundary or a bounded repetition on a \\b " ++
      "with an opening brace, but no closing brace"
  | propertyInvalid => "invalid Unicode character class"
  | propertyUnknown => "Unicode property not found"
  | propertyValueUnknown => "Unicode property value not found"
  | unicodeNotAllowed => "Unicode not allowed here"
  | invalidUtf8 => "pattern can match invalid UTF-8"
  | nestedTooDeep =>
    s!"exceed the maximum number of nested parentheses/brackets ({nestLimit})"

/-- A fault in a pattern. -/
structure Fault where
  kind : FaultKind
  span : Span
  /-- where the name or flag was given first -/
  earlier : Option Span := none
  deriving DecidableEq, Repr

/-! ### Showing a fault -/

/-- A place as a line and a column, both counted from zero. -/
def lineColumn (pattern : List Char) (place : Nat) : Nat × Nat :=
  (pattern.take place).foldl
    (fun (line, column) c => if c == '\n' then (line + 1, 0) else (line, column + 1)) (0, 0)

/-- The lines of a text without their ends; a last line that is empty does not count. -/
def textLines (text : List Char) : List (List Char) :=
  let pieces := text.splitOn '\n'
  let ended := pieces.dropLast.map fun line =>
    if line.getLast? == some '\r' then line.dropLast else line
  ended ++ (pieces.getLast?.filter (!·.isEmpty)).toList

/-- A row of carets under columns: each entry a first column and a number of carets. -/
def caretRow (pos : Nat) : List (Nat × Nat) → List Char
  | [] => []
  | (column, count) :: rest =>
    List.replicate (column - pos) ' ' ++ List.replicate count '^' ++
      caretRow (max pos column + count) rest

namespace Fault

/-- The parts that are shown, in order. -/
def spans (f : Fault) : List Span :=
  match f.earlier with
  | none => [f.span]
  | some e => if e.start ≤ f.span.start then [e, f.span] else [f.span, e]

/-- The carets under one line of a pattern, if a part lies within the line. -/
def carets? (f : Fault) (pattern : List Char) (line indent : Nat) : Option (List Char) :=
  let marks := f.spans.filterMap fun s =>
    let (l₁, c₁) := lineColumn pattern s.start
    let (l₂, c₂) := lineColumn pattern s.stop
    if l₁ == line && l₂ == line then some (c₁, max 1 (c₂ - c₁)) else none
  if marks.isEmpty then none else some (List.replicate indent ' ' ++ caretRow 0 marks)

/-- A remark on each part that does not lie within one line. -/
def remarks (f : Fault) (pattern : List Char) : List String :=
  f.spans.filterMap fun s =>
    let (l₁, c₁) := lineColumn pattern s.start
    let (l₂, c₂) := lineColumn pattern s.stop
    if l₁ == l₂ then none
    else some s!"on line {l₁ + 1} (column {c₁ + 1}) through line {l₂ + 1} (column {c₂})\n"

/-- **The text that shows a fault in a pattern.** -/
def render (f : Fault) (pattern : String) : String :=
  let chars := pattern.toList
  let severalLines := chars.contains '\n'
  let lines := textLines chars
  let count := lines.length + if chars.getLast? == some '\n' then 1 else 0
  let width := if count ≤ 1 then 0 else (toString count).length
  let shown := lines.zipIdx.map fun (line, i) =>
    let label :=
      if width = 0 then "    "
      else
        let number := toString (i + 1)
        String.ofList (List.replicate (width - number.length) ' ') ++ number ++ ": "
    let carets :=
      match f.carets? chars i (if width = 0 then 4 else width + 2) with
      | some row => String.ofList row ++ "\n"
      | none => ""
    label ++ String.ofList line ++ "\n" ++ carets
  let divider := if severalLines then String.ofList (List.replicate 79 '~') ++ "\n" else ""
  "regex parse error:\n" ++ divider ++ String.join shown ++ divider ++
    String.join (f.remarks chars) ++ "error: " ++ f.kind.message

end Fault

end OfflineManifest.Regex
