import OfflineManifest.Regex.Cursor
import OfflineManifest.Regex.PropertyName

/-! # Single characters, escapes and what they match

An atom is what one character or one escape stands for: a literal character, a named set, or a
condition on a place. What it matches depends on the flags that are set where it stands.
-/

namespace OfflineManifest.Regex

/-- The flags of a pattern that decide what matches. -/
structure Flags where
  ignoreCase : Bool := false
  multiLine : Bool := false
  dotAll : Bool := false
  crlf : Bool := false
  unicode : Bool := true
  /-- blanks and comments in the pattern do not count -/
  extended : Bool := false
  deriving DecidableEq, Repr

/-- A condition on a place that a pattern can name. -/
inductive Anchor where
  | lineStart | lineEnd | textStart | textEnd
  | wordEdge | notWordEdge | wordStart | wordEnd | wordStartHalf | wordEndHalf
  deriving DecidableEq, Repr

/-- How a property of characters is named. -/
inductive PropertyName where
  | alone (name : List Char)
  | valued (unequal : Bool) (name value : List Char)
  deriving DecidableEq, Repr

/-- What one character or one escape stands for. -/
inductive Atom where
  /-- a character; `byte` if it is written as two hexadecimal digits without braces -/
  | literal (c : Char) (byte : Bool)
  | dot
  | anchor (a : Anchor)
  | shorthand (s : CharSet.Shorthand) (negated : Bool)
  | property (negated : Bool) (name : PropertyName)
  deriving DecidableEq, Repr

/-! ### What atoms match -/

namespace Anchor

/-- The condition that an anchor names under the given flags. -/
def test (flags : Flags) (a : Anchor) : PlaceTest :=
  let word := if flags.unicode then CharSet.word else CharSet.Shorthand.ascii .word
  let inWord := fun (c : Option Char) => c.any word
  let atStart : PlaceTest := fun before after =>
    if flags.crlf then
      before.isNone || before == some '\n' || (before == some '\r' && after != some '\n')
    else before.isNone || before == some '\n'
  let atEnd : PlaceTest := fun before after =>
    if flags.crlf then
      after.isNone || after == some '\r' || (after == some '\n' && before != some '\r')
    else after.isNone || after == some '\n'
  match a with
  | lineStart => if flags.multiLine then atStart else fun before _ => before.isNone
  | lineEnd => if flags.multiLine then atEnd else fun _ after => after.isNone
  | textStart => fun before _ => before.isNone
  | textEnd => fun _ after => after.isNone
  | wordEdge => fun before after => inWord before != inWord after
  | notWordEdge => fun before after => inWord before == inWord after
  | wordStart => fun before after => !inWord before && inWord after
  | wordEnd => fun before after => inWord before && !inWord after
  | wordStartHalf => fun before _ => !inWord before
  | wordEndHalf => fun _ after => !inWord after

end Anchor

namespace Flags

/-- A set with the counterparts of its characters, if case does not count. -/
def fold (flags : Flags) (s : CharSet) : CharSet :=
  if flags.ignoreCase then (if flags.unicode then s.folded else s.asciiFolded) else s

/-- A set or its complement. Over bytes a complement would reach into the middle of characters. -/
def signed (flags : Flags) (span : Span) (negated : Bool) (s : CharSet) : Except Fault CharSet :=
  if !negated then .ok s
  else if flags.unicode then .ok s.compl
  else .error { kind := .invalidUtf8, span }

end Flags

namespace PropertyName

/-- The set of characters with the property. -/
def set? (p : PropertyName) : Except FaultKind CharSet :=
  let found :=
    match p with
    | alone name => CharSet.ofName (CharSet.looseName name)
    | valued _ name value => CharSet.ofValue (CharSet.looseName name) (CharSet.looseName value)
  match found with
  | .ok s => .ok s
  | .error .property => .error .propertyUnknown
  | .error .value => .error .propertyValueUnknown

/-- Whether the name itself asks for the complement. -/
def isUnequal : PropertyName → Bool
  | alone _ => false
  | valued unequal _ _ => unequal

end PropertyName

namespace Atom

/-- The set that a shorthand or a property names. -/
def namedSet? (flags : Flags) (span : Span) : Atom → Option (Except Fault CharSet)
  | shorthand s negated =>
    some (flags.signed span negated (if flags.unicode then s.unicode else s.ascii))
  | property negated name =>
    some <|
      if !flags.unicode then .error { kind := .unicodeNotAllowed, span }
      else
        match name.set? with
        | .error kind => .error { kind, span }
        | .ok s => flags.signed span (negated != name.isUnequal) (flags.fold s)
  | _ => none

/-- **What an atom matches.** -/
def regex (flags : Flags) (span : Span) (atom : Atom) : Except Fault Regex :=
  match atom with
  | literal c byte =>
    if !flags.unicode && byte && 0x7F < c.toNat then .error { kind := .invalidUtf8, span }
    else .ok (.chars (flags.fold (CharSet.single c)))
  | dot =>
    if !flags.unicode then .error { kind := .invalidUtf8, span }
    else if flags.dotAll then .ok (.chars fun _ => true)
    else if flags.crlf then .ok (.chars fun c => c != '\r' && c != '\n')
    else .ok (.chars fun c => c != '\n')
  | anchor a => .ok (.place (a.test flags))
  | atom =>
    match atom.namedSet? flags span with
    | some (.ok s) => .ok (.chars s)
    | some (.error e) => .error e
    | none => .ok .empty

end Atom

/-! ### Reading atoms -/

namespace Atom

/-- Characters with a meaning of their own. -/
def isMeta (c : Char) : Bool := "\\.+*?()|[]\x7b\x7d^$#&-~".toList.contains c

/-- Characters that stand for themselves after a backslash. -/
def isEscapable (c : Char) : Bool :=
  isMeta c || (CharSet.ascii c && !c.isAlphanum && c != '<' && c != '>')

/-- A hexadecimal digit. -/
def isHexDigit (c : Char) : Bool :=
  c.isDigit || ('a' ≤ c && c ≤ 'f') || ('A' ≤ c && c ≤ 'F')

/-- The number that hexadecimal digits denote. -/
def hexValue (digits : List Char) : Nat :=
  digits.foldl
    (fun n d =>
      16 * n + (if d.isDigit then d.toNat - 48 else if 'a' ≤ d then d.toNat - 87 else d.toNat - 55))
    0

/-- The character with a code, if there is one. -/
def ofCode? (n : Nat) : Option Char := if n.isValidChar then some (Char.ofNat n) else none

/-- Reads `count` hexadecimal digits, of which `digits` (last one first) are read already. The
cursor is at the next digit, or behind the last one. -/
def readHexDigits (extended : Bool) (c : Cursor) (digits : List Char) :
    Nat → Except Fault (List Char × Cursor)
  | 0 => .ok (digits.reverse, c)
  | count + 1 =>
    match c.peek? with
    | none => .error { kind := .escapeEnd, span := c.here }
    | some d =>
      if isHexDigit d then readHexDigits extended (c.advance extended) (d :: digits) count
      else .error { kind := .hexDigit, span := c.charSpan }

/-- The text from behind the brace at the cursor to the closing brace, blanks and comments left
out, and the place of that brace. -/
def readBraced (extended : Bool) (c : Cursor) : List Char × Cursor :=
  go [] (c.advance extended) c.rest.length
where
  /-- Reads on; the number bounds the characters that are left. -/
  go (text : List Char) (c : Cursor) : Nat → List Char × Cursor
    | 0 => (text.reverse, c)
    | n + 1 =>
      match c.peek? with
      | none | some '\x7d' => (text.reverse, c)
      | some a => go (a :: text) (c.advance extended) n

/-- The literal of a hexadecimal code, read at the letter `x`, `u` or `U`. -/
def readHex (extended : Bool) (letter : Char) (c : Cursor) : Except Fault (Atom × Cursor) :=
  let body := c.advance extended
  match body.peek? with
  | none => .error { kind := .escapeEnd, span := body.here }
  | some '\x7b' =>
    let (digits, close) := readBraced extended body
    match digits.findIdx? (!isHexDigit ·) with
    | some _ =>
      -- the fault is at the first character that is no digit
      let bad := firstBad (body.advance extended) body.rest.length
      .error { kind := .hexDigit, span := bad.charSpan }
    | none =>
      if close.atEnd then .error { kind := .escapeEnd, span := body.spanTo close }
      else
        let behind := close.advance extended
        if digits.isEmpty then .error { kind := .hexEmpty, span := body.spanTo behind }
        else
          match ofCode? (hexValue digits) with
          | some a => .ok (.literal a false, behind)
          | none => .error { kind := .hexNoScalar, span := body.next.spanTo close }
  | some _ =>
    let count := if letter == 'x' then 2 else if letter == 'u' then 4 else 8
    match readHexDigits extended body [] count with
    | .error e => .error e
    | .ok (digits, behind) =>
      match ofCode? (hexValue digits) with
      | some a => .ok (.literal a (letter == 'x'), behind)
      | none => .error { kind := .hexNoScalar, span := body.spanTo behind }
where
  /-- The first place from a cursor on whose character is no hexadecimal digit. -/
  firstBad (c : Cursor) : Nat → Cursor
    | 0 => c
    | n + 1 => if c.peek?.any isHexDigit then firstBad (c.advance extended) n else c

/-- The first split of a text at a separator. -/
def splitAt? (separator : List Char) : List Char → Option (List Char × List Char)
  | [] => none
  | a :: rest =>
    if separator.isPrefixOf (a :: rest) then some ([], (a :: rest).drop separator.length)
    else (splitAt? separator rest).map fun (left, right) => (a :: left, right)

/-- The name of a property between braces. -/
def propertyName (text : List Char) : PropertyName :=
  match splitAt? ['!', '='] text with
  | some (name, value) => .valued true name value
  | none =>
    match splitAt? [':'] text with
    | some (name, value) => .valued false name value
    | none =>
      match splitAt? ['='] text with
      | some (name, value) => .valued false name value
      | none => .alone text

/-- A property, read at the letter `p` or `P`. -/
def readProperty (extended negated : Bool) (c : Cursor) : Except Fault (Atom × Cursor) :=
  let body := c.advance extended
  match body.peek? with
  | none => .error { kind := .escapeEnd, span := body.here }
  | some '\x7b' =>
    let (text, close) := readBraced extended body
    if close.atEnd then .error { kind := .escapeEnd, span := close.here }
    else .ok (.property negated (propertyName text), close.next)
  | some '\\' => .error { kind := .propertyInvalid, span := body.charSpan }
  | some a => .ok (.property negated (.alone [a]), body.advance extended)

/-- The characters of the names of word boundaries. -/
def isBoundaryLetter (c : Char) : Bool := c.isAlpha || c == '-'

/-- A word boundary named in braces, read at the opening brace; `escape` is the place of the
backslash. There is none if the braces start a repetition count. -/
def readBoundary? (extended : Bool) (escape c : Cursor) :
    Except Fault (Option (Anchor × Cursor)) :=
  let inner := c.advance extended
  match inner.peek? with
  | none => .error { kind := .boundaryEnd, span := escape.spanTo inner }
  | some a =>
    if !isBoundaryLetter a then .ok none
    else
      let (name, close) := letters [] inner inner.rest.length
      if close.peek? != some '\x7d' then
        .error { kind := .boundaryUnclosed, span := c.spanTo close }
      else
        match String.ofList name with
        | "start" => .ok (some (.wordStart, close.next))
        | "end" => .ok (some (.wordEnd, close.next))
        | "start-half" => .ok (some (.wordStartHalf, close.next))
        | "end-half" => .ok (some (.wordEndHalf, close.next))
        | _ => .error { kind := .boundaryUnknown, span := inner.spanTo close }
where
  /-- Reads the letters of a name; the number bounds the characters that are left. -/
  letters (name : List Char) (c : Cursor) : Nat → List Char × Cursor
    | 0 => (name.reverse, c)
    | n + 1 =>
      match c.peek? with
      | some a =>
        if isBoundaryLetter a then letters (a :: name) (c.advance extended) n
        else (name.reverse, c)
      | none => (name.reverse, c)

/-- **An escape**, read at the backslash. -/
def readEscape (extended : Bool) (c : Cursor) : Except Fault (Atom × Cursor) :=
  let body := c.next
  match body.peek? with
  | none => .error { kind := .escapeEnd, span := c.spanTo body }
  | some a =>
    let behind := body.next
    if a.isDigit then .error { kind := .backreference, span := c.spanTo behind }
    else if a == 'x' || a == 'u' || a == 'U' then readHex extended a body
    else if a == 'p' || a == 'P' then readProperty extended (a == 'P') body
    else if isEscapable a then .ok (.literal a false, behind)
    else
      match a with
      | 'd' => .ok (.shorthand .digit false, behind)
      | 'D' => .ok (.shorthand .digit true, behind)
      | 's' => .ok (.shorthand .space false, behind)
      | 'S' => .ok (.shorthand .space true, behind)
      | 'w' => .ok (.shorthand .word false, behind)
      | 'W' => .ok (.shorthand .word true, behind)
      | 'a' => .ok (.literal '\x07' false, behind)
      | 'f' => .ok (.literal '\x0C' false, behind)
      | 't' => .ok (.literal '\t' false, behind)
      | 'n' => .ok (.literal '\n' false, behind)
      | 'r' => .ok (.literal '\r' false, behind)
      | 'v' => .ok (.literal '\x0B' false, behind)
      | 'A' => .ok (.anchor .textStart, behind)
      | 'z' => .ok (.anchor .textEnd, behind)
      | 'B' => .ok (.anchor .notWordEdge, behind)
      | '<' => .ok (.anchor .wordStart, behind)
      | '>' => .ok (.anchor .wordEnd, behind)
      | 'b' =>
        if behind.peek? == some '\x7b' then
          match readBoundary? extended c behind with
          | .error e => .error e
          | .ok (some (edge, close)) => .ok (.anchor edge, close)
          | .ok none => .ok (.anchor .wordEdge, behind)
        else .ok (.anchor .wordEdge, behind)
      | _ => .error { kind := .escapeUnknown, span := c.spanTo behind }

end Atom

end OfflineManifest.Regex
