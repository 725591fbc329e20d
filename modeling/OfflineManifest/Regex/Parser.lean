import OfflineManifest.Regex.Bracket

/-! # Reading regular expressions

The reader goes over a pattern once, from left to right, and keeps what is still open: the sequence
it is in, the alternatives before that sequence, and the groups around both. Each step reads one
atom, bracketed set, repetition, bar, or end of a group (`Reader.step`); at the end of the pattern
no group may be open. What is nested too deeply, and what names something that does not exist,
shows only in a pattern without other faults.

`Regex.parse?` reads a whole pattern. A limit on the size of what a pattern is compiled to is left
out: a pattern that is well-formed is an expression here, however large that is.
-/

namespace OfflineManifest.Regex

/-- A member of a sequence. -/
inductive SeqItem where
  /-- a change of flags, which matches nothing and cannot be repeated -/
  | flags (span : Span)
  | node (r : Regex) (shape : Shape)

namespace SeqItem

/-- The shape of a member. -/
def shape : SeqItem → Shape
  | flags span => Shape.leaf span
  | node _ shape => shape

/-- What a member matches. -/
def regex : SeqItem → Regex
  | flags _ => .empty
  | node r _ => r

end SeqItem

/-- What has been read of a group, or of the pattern outside all groups. -/
structure Branches where
  /-- where the group's content starts -/
  start : Nat
  /-- the finished alternatives, the last one first -/
  finished : List (Regex × Shape) := []
  /-- where the current sequence starts -/
  seqStart : Nat
  /-- the current sequence, its last member first -/
  items : List SeqItem := []

namespace Branches

/-- Nothing read yet, at a place. -/
def empty (place : Nat) : Branches := { start := place, seqStart := place }

/-- The current sequence as a whole, if it ends at a place. -/
def sequence (b : Branches) (stop : Nat) : Regex × Shape :=
  let items := b.items.reverse
  (seqAll (items.map SeqItem.regex), Shape.row ⟨b.seqStart, stop⟩ (items.map SeqItem.shape))

/-- All alternatives as a whole, if the last one ends at a place. -/
def whole (b : Branches) (stop : Nat) : Regex × Shape :=
  let last := b.sequence stop
  match (last :: b.finished).reverse with
  | [] => last
  | first :: rest =>
    (eitherAll first.1 (rest.map Prod.fst),
      Shape.row ⟨b.start, stop⟩ ((first :: rest).map Prod.snd))

/-- The branches with one more member in the current sequence. -/
def push (b : Branches) (item : SeqItem) : Branches := { b with items := item :: b.items }

/-- The branches behind a bar, which is one character. -/
def bar (b : Branches) (place : Nat) : Branches :=
  { b with finished := b.sequence place :: b.finished, seqStart := place + 1, items := [] }

end Branches

/-- An open group. -/
structure Group where
  /-- the opening parenthesis -/
  opened : Span
  /-- the flags to be set again behind the group -/
  flags : Flags
  /-- what was read before the group -/
  before : Branches

/-- The state of the reader. -/
structure Reader where
  flags : Flags := {}
  current : Branches
  /-- the open groups, the innermost first -/
  groups : List Group := []
  /-- the names of groups, with the parts where they were given -/
  names : List (List Char × Span) := []
  /-- the first thing in the pattern that does not exist -/
  fault : Option Fault := none

namespace Reader

/-- The reader with one more member in the current sequence. -/
def push (r : Reader) (item : SeqItem) : Reader := { r with current := r.current.push item }

/-- The reader with one more expression, or with a fault to report at the end. -/
def pushRegex (r : Reader) (shape : Shape) (node : Except Fault Regex) : Reader :=
  match node with
  | .ok node => r.push (.node node shape)
  | .error e => { r with fault := r.fault.or (some e) }.push (.node .empty shape)

/-! ### Groups and flags -/

/-- The effect of setting or clearing the flag with a letter, if there is such a flag. The flag that
swaps greedy and lazy repetition has no effect on what matches. -/
def setFlag? (value : Bool) (letter : Char) (f : Flags) : Option Flags :=
  match letter with
  | 'i' => some { f with ignoreCase := value }
  | 'm' => some { f with multiLine := value }
  | 's' => some { f with dotAll := value }
  | 'U' => some f
  | 'u' => some { f with unicode := value }
  | 'R' => some { f with crlf := value }
  | 'x' => some { f with extended := value }
  | _ => none

/-- Reads flags up to the colon or parenthesis that ends them. `seen` holds the letters read so far
with their places; a minus sign among them is kept with them. -/
def readFlags (f : Flags) (value : Bool) (seen : List (Char × Span)) (pos : Nat) :
    List Char → Except Fault (Flags × List (Char × Span) × Cursor)
  | [] => .error { kind := .flagEnd, span := ⟨pos, pos⟩ }
  | a :: rest =>
    let span : Span := ⟨pos, pos + 1⟩
    if a == ':' || a == ')' then
      match seen with
      | ('-', span) :: _ => .error { kind := .flagDangling, span }
      | _ => .ok (f, seen, ⟨pos, a :: rest⟩)
    else
      let f? := if a == '-' then some f else setFlag? value a f
      match f?, seen.lookup a with
      | none, _ => .error { kind := .flagUnknown, span }
      | some _, some earlier =>
        let kind := if a == '-' then .flagNegationRepeated else .flagDuplicate
        .error { kind, span, earlier := some earlier }
      | some f, none =>
        readFlags f (value && a != '-') ((a, span) :: seen) (pos + 1) rest

/-- Whether a character can stand in the name of a group. -/
def isNameChar (first : Bool) (c : Char) : Bool :=
  if first then c == '_' || Unicode.isAlphabetic c
  else c == '_' || c == '.' || c == '[' || c == ']' || Unicode.isAlphanumeric c

/-- Reads the name of a group, up to the angle bracket behind it. -/
def readName (r : Reader) (c : Cursor) : Except Fault (Reader × Cursor) :=
  let name := c.rest.takeWhile (· != '>')
  let bad? := name.zipIdx.find? fun (a, i) => !isNameChar (i == 0) a
  let close := c.skip name.length
  match bad? with
  | some (_, i) => .error { kind := .groupNameInvalid, span := (c.skip i).charSpan }
  | none =>
    if close.atEnd then .error { kind := .groupNameUnclosed, span := close.here }
    else if name.isEmpty then .error { kind := .groupNameEmpty, span := c.here }
    else
      let span := c.spanTo close
      match r.names.lookup name with
      | some earlier => .error { kind := .groupNameDuplicate, span, earlier := some earlier }
      | none => .ok ({ r with names := (name, span) :: r.names }, close.next)

/-- The reader inside a group that opens at a parenthesis and whose content starts at a cursor. -/
def enter (r : Reader) (opened : Span) (flags : Flags) (c : Cursor) : Reader :=
  { r with
    flags
    current := Branches.empty c.pos
    groups := ⟨opened, r.flags, r.current⟩ :: r.groups }

/-- Reads the start of a group, or a change of flags, at an opening parenthesis. -/
def openGroup (r : Reader) (c : Cursor) : Except Fault (Reader × Cursor) :=
  let opened := c.charSpan
  let inner := c.advance r.flags.extended
  let lookAround := (inner.after? "?=").or <| (inner.after? "?!").or <|
    (inner.after? "?<=").or (inner.after? "?<!")
  match lookAround with
  | some behind => .error { kind := .lookAround, span := c.spanTo behind }
  | none =>
    match (inner.after? "?P<").or (inner.after? "?<") with
    | some name => do
      let (r, behind) ← r.readName name
      return (r.enter opened r.flags behind, behind)
    | none =>
      match inner.after? "?" with
      | none => .ok (r.enter opened r.flags inner, inner)
      | some letters =>
        if letters.atEnd then .error { kind := .groupUnclosed, span := opened }
        else do
          let (flags, seen, close) ← readFlags r.flags true [] letters.pos letters.rest
          let behind := close.next
          if close.peek? == some ':' then return (r.enter opened flags behind, behind)
          if seen.isEmpty then throw { kind := .repetitionMissing, span := inner.here }
          return ({ r with flags }.push (.flags (c.spanTo behind)), behind)

/-- Leaves the innermost group at a closing parenthesis. -/
def closeGroup (r : Reader) (c : Cursor) : Except Fault (Reader × Cursor) :=
  match r.groups with
  | [] => .error { kind := .groupUnopened, span := c.charSpan }
  | g :: groups =>
    let (body, shape) := r.current.whole c.pos
    let shape := Shape.around ⟨g.opened.start, c.pos + 1⟩ [shape]
    .ok ({ r with
      flags := g.flags
      current := g.before.push (.node body shape)
      groups }, c.next)

/-! ### Repetitions -/

/-- The largest count. -/
def maxCount : Nat := UInt32.size - 1

/-- The number that digits denote. -/
def decimal (digits : List Char) : Nat := digits.foldl (fun n d => 10 * n + (d.toNat - 48)) 0

/-- Reads a count, blanks around it left out. A count that cannot be read is a fault only where it
is needed. -/
def readCount (extended : Bool) (c : Cursor) : Except Fault Nat × Cursor :=
  let start := skipBlanks c c.rest.length
  let (digits, stop) := readDigits [] start start.rest.length
  let behind := skipBlanks stop stop.rest.length
  let value :=
    if digits.isEmpty then .error { kind := .countEmpty, span := start.spanTo stop }
    else if maxCount < decimal digits then
      .error { kind := .countTooLarge, span := start.spanTo stop }
    else .ok (decimal digits)
  (value, behind)
where
  /-- Steps over blanks; the number bounds the characters that are left. -/
  skipBlanks (c : Cursor) : Nat → Cursor
    | 0 => c
    | n + 1 => if c.peek?.any Unicode.isWhiteSpace then skipBlanks c.next n else c
  /-- Reads digits; the number bounds the characters that are left. -/
  readDigits (digits : List Char) (c : Cursor) : Nat → List Char × Cursor
    | 0 => (digits.reverse, c)
    | n + 1 =>
      match c.peek? with
      | some d =>
        if d.isDigit then readDigits (d :: digits) (c.advance extended) n else (digits.reverse, c)
      | none => (digits.reverse, c)

/-- Steps over the question mark that makes a repetition lazy. -/
def skipLazy (c : Cursor) : Cursor := if c.peek? == some '?' then c.next else c

/-- Reads a repetition in braces, at the opening brace: its least and greatest count and the place
behind it. -/
def readBounds (extended : Bool) (c : Cursor) :
    Except Fault (Nat × Option Nat × Cursor) := do
  let unclosed := fun (later : Cursor) =>
    ({ kind := .countUnclosed, span := c.spanTo later } : Fault)
  let inner := c.advance extended
  if inner.atEnd then throw (unclosed inner)
  let (first, behind) := readCount extended inner
  if behind.atEnd then throw (unclosed behind)
  let (lo, hi, close) ←
    if behind.peek? == some ',' then do
      let second := behind.advance extended
      if second.atEnd then throw (unclosed second)
      let lo ← first
      if second.peek? == some '\x7d' then pure (lo, none, second)
      else
        let (last, close) := readCount extended second
        let hi ← last
        pure (lo, some hi, close)
    else do
      let n ← first
      pure (n, some n, behind)
  if close.peek? != some '\x7d' then throw (unclosed close)
  let behind := skipLazy (close.advance extended)
  if hi.any (· < lo) then throw { kind := .countOrder, span := c.spanTo behind }
  return (lo, hi, behind)

/-- Repeats the last member of the current sequence. -/
def repeatLast (r : Reader) (c : Cursor)
    (bounds : Cursor → Except Fault (Nat × Option Nat × Cursor)) :
    Except Fault (Reader × Cursor) :=
  match r.current.items with
  | .node body shape :: items => do
    let (lo, hi, behind) ← bounds c
    let shape := Shape.around ⟨shape.span.start, behind.pos⟩ [shape]
    let items := .node (.times body lo hi) shape :: items
    return ({ r with current := { r.current with items } }, behind)
  | _ => .error { kind := .repetitionMissing, span := c.here }

/-- The bounds of a repetition that is one character, and the place behind it. -/
def fixedBounds (lo : Nat) (hi : Option Nat) (c : Cursor) :
    Except Fault (Nat × Option Nat × Cursor) :=
  .ok (lo, hi, skipLazy c.next)

/-! ### The whole pattern -/

/-- Reads an atom. -/
def readAtom (r : Reader) (c : Cursor) : Except Fault (Reader × Cursor) := do
  let (atom, behind) ←
    match c.peek? with
    | some '\\' => Atom.readEscape r.flags.extended c
    | some '.' => .ok (.dot, c.next)
    | some '^' => .ok (.anchor .lineStart, c.next)
    | some '$' => .ok (.anchor .lineEnd, c.next)
    | some a => .ok (.literal a false, c.next)
    | none => .error { kind := .escapeEnd, span := c.here }
  let span := c.spanTo behind
  return (r.pushRegex (Shape.leaf span) (atom.regex r.flags span), behind)

/-- Reads the next part of a pattern that is not at its end. -/
def step (r : Reader) (c : Cursor) : Except Fault (Reader × Cursor) :=
  match c.peek? with
  | some '(' => r.openGroup c
  | some ')' => r.closeGroup c
  | some '|' => .ok ({ r with current := r.current.bar c.pos }, c.next)
  | some '[' => do
    let (item, fault, behind) ← readBracketed r.flags c
    return ({ r with fault := r.fault.or fault }.push (.node (.chars item.set) item.shape), behind)
  | some '?' => r.repeatLast c (fixedBounds 0 (some 1))
  | some '*' => r.repeatLast c (fixedBounds 0 none)
  | some '+' => r.repeatLast c (fixedBounds 1 none)
  | some '\x7b' => r.repeatLast c (readBounds r.flags.extended)
  | _ => r.readAtom c

/-- What the reader has read, at the end of the pattern. -/
def finish (r : Reader) (stop : Nat) : Except Fault Regex :=
  match r.groups with
  | g :: _ => .error { kind := .groupUnclosed, span := g.opened }
  | [] =>
    let (whole, shape) := r.current.whole stop
    match shape.tooDeep?, r.fault with
    | some span, _ => .error { kind := .nestedTooDeep, span }
    | none, some fault => .error fault
    | none, none => .ok whole

/-- Reads to the end of the pattern. Every step takes at least one character. -/
def run (r : Reader) (c : Cursor) : Except Fault Regex :=
  let next := c.skipLayout r.flags.extended
  if next.atEnd then r.finish next.pos
  else
    match r.step next with
    | .error e => .error e
    | .ok (r', behind) =>
      if behind.rest.length < c.rest.length then run r' behind else r'.finish behind.pos
termination_by c.rest.length

end Reader

/-- **Reads a pattern.** -/
def parse? (pattern : String) : Except Fault Regex :=
  Reader.run { current := Branches.empty 0 } (Cursor.start pattern.toList)

end OfflineManifest.Regex
