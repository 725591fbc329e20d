import OfflineManifest.Regex.Atom
import OfflineManifest.Regex.Shape

/-! # Bracketed sets of characters

A bracketed set holds characters, ranges, named sets and further brackets, side by side for their
union and with `&&`, `--` and `~~` between operands for intersection, difference and symmetric
difference, all of one precedence and grouped from the left. Its reader keeps the brackets that are
still open, the innermost first.

A set that is well written may still name something that does not exist; such a fault is kept until
the whole pattern is known to be well written.
-/

namespace OfflineManifest.Regex

/-- A set and the shape of what denotes it. -/
structure SetItem where
  set : CharSet
  shape : Shape

/-- The operators between sets. -/
inductive SetOp where
  | inter | sdiff | symmDiff
  deriving DecidableEq, Repr

/-- What an operator makes of two sets. -/
def SetOp.apply : SetOp → CharSet → CharSet → CharSet
  | inter => CharSet.inter
  | sdiff => CharSet.sdiff
  | symmDiff => CharSet.symmDiff

/-- An open bracket. -/
structure Bracket where
  /-- the opening bracket with the characters that belong to it -/
  opened : Span
  negated : Bool
  /-- what stands before the last operator -/
  left : Option (SetItem × SetOp) := none
  /-- what stands behind it, the last one first -/
  items : List SetItem := []

namespace Bracket

/-- The union of what stands behind the last operator. -/
def operand (b : Bracket) : SetItem :=
  match b.items with
  | [] => ⟨CharSet.none, Shape.leaf b.opened⟩
  | last :: _ =>
    let first := b.items.getLast?.getD last
    let span : Span := ⟨first.shape.span.start, last.shape.span.stop⟩
    ⟨b.items.foldr (fun item s => s.union item.set) CharSet.none,
      Shape.row span (b.items.reverse.map SetItem.shape)⟩

/-- The value of all that stands in the bracket. -/
def value (flags : Flags) (b : Bracket) : SetItem :=
  let right := b.operand
  match b.left with
  | none => right
  | some (left, op) =>
    ⟨op.apply (flags.fold left.set) (flags.fold right.set),
      Shape.around ⟨left.shape.span.start, right.shape.span.stop⟩ [left.shape, right.shape]⟩

/-- The bracket behind another operator. -/
def operator (flags : Flags) (op : SetOp) (b : Bracket) : Bracket :=
  { b with left := some (b.value flags, op), items := [] }

/-- The bracket with one more item. -/
def push (b : Bracket) (item : SetItem) : Bracket := { b with items := item :: b.items }

/-- Reads the start of a bracket: the complement sign, hyphens, and a closing bracket that comes
first and stands for itself. -/
def open? (extended : Bool) (c : Cursor) : Except Fault (Bracket × Cursor) :=
  let unclosed := fun (later : Cursor) =>
    ({ kind := .classUnclosed, span := c.spanTo later } : Fault)
  let inner := c.advance extended
  if inner.atEnd then .error (unclosed inner)
  else
    let negated := inner.peek? == some '^'
    let inner := if negated then inner.advance extended else inner
    if inner.atEnd then .error (unclosed inner)
    else
      let (items, inner) := hyphens [] inner inner.rest.length
      if inner.atEnd then .error (unclosed c)
      else if items.isEmpty && inner.peek? == some ']' then
        let behind := inner.advance extended
        if behind.atEnd then .error (unclosed behind)
        else
          .ok ({ opened := c.spanTo behind, negated, items := [literal ']' inner] }, behind)
      else .ok ({ opened := c.spanTo inner, negated, items }, inner)
where
  /-- The item of a character that stands for itself. -/
  literal (a : Char) (c : Cursor) : SetItem := ⟨CharSet.single a, Shape.leaf c.charSpan⟩
  /-- Reads hyphens; the number bounds the characters that are left. -/
  hyphens (items : List SetItem) (c : Cursor) : Nat → List SetItem × Cursor
    | 0 => (items, c)
    | n + 1 =>
      if c.peek? == some '-' then hyphens (literal '-' c :: items) (c.advance extended) n
      else (items, c)

/-- A bracketed ASCII name such as `[:alpha:]`, if there is one at the cursor, and whether its
complement is meant. -/
def readName? (c : Cursor) : Option (CharSet × Bool × Cursor) :=
  match c.rest with
  | '[' :: ':' :: rest =>
    let negated := rest.head? == some '^'
    let name := (if negated then rest.tail else rest).takeWhile (· != ':')
    let behind := c.skip (2 + (if negated then 1 else 0) + name.length)
    match behind.after? ":]", CharSet.bracketed? (String.ofList name) with
    | some close, some set => some (set, negated, close)
    | _, _ => none
  | _ => none

end Bracket

/-! ### Reading a bracketed set -/

/-- The brackets that are open, and the first thing in the pattern that does not exist. -/
structure BracketState where
  current : Bracket
  outer : List Bracket
  fault : Option Fault

namespace BracketState

/-- Keeps the first fault, and puts the empty set in its place. -/
def note (s : BracketState) (r : Except Fault CharSet) : CharSet × BracketState :=
  match r with
  | .ok set => (set, s)
  | .error e => (CharSet.none, { s with fault := s.fault.or (some e) })

/-- The state with one more item in the innermost bracket. -/
def push (s : BracketState) (span : Span) (r : Except Fault CharSet) : BracketState :=
  let (set, s) := s.note r
  { s with current := s.current.push ⟨set, Shape.leaf span⟩ }

/-- The fault of a pattern that ends inside the bracket. -/
def unclosed (s : BracketState) : Fault := { kind := .classUnclosed, span := s.current.opened }

/-- A character of a set, or the end of a range. -/
def literal? (flags : Flags) (span : Span) (c : Char) (byte : Bool) : Except Fault Char :=
  if flags.unicode || CharSet.ascii c then .ok c
  else .error { kind := if byte && c.toNat ≤ 0xFF then .invalidUtf8 else .unicodeNotAllowed, span }

/-- The set of an atom that stands alone. -/
def atomSet (flags : Flags) (span : Span) (atom : Atom) :
    Except Fault (Except Fault CharSet) :=
  match atom with
  | .literal c byte => .ok ((literal? flags span c byte).map CharSet.single)
  | atom =>
    match atom.namedSet? flags span with
    | some r => .ok r
    | none => .error { kind := .classEscape, span }

/-- One character or escape of a set. -/
def readAtom (extended : Bool) (c : Cursor) : Except Fault (Atom × Cursor) :=
  match c.peek? with
  | some '\\' => Atom.readEscape extended c
  | some a => .ok (.literal a false, c.next)
  | none => .error { kind := .classUnclosed, span := c.here }

/-- An end of a range. -/
def rangeEnd (span : Span) : Atom → Except Fault (Char × Bool)
  | .literal c byte => .ok (c, byte)
  | _ => .error { kind := .classBoundary, span }

/-- Reads a character, an escape or a range. -/
def readItem (flags : Flags) (s : BracketState) (c : Cursor) :
    Except Fault (BracketState × Cursor) := do
  let x := flags.extended
  let (first, behind) ← readAtom x c
  let firstSpan := c.spanTo behind
  let behind := behind.skipLayout x
  if behind.atEnd then throw s.unclosed
  let second := behind.second? x
  if behind.peek? != some '-' || second == some ']' || second == some '-' then
    let set ← atomSet flags firstSpan first
    return (s.push firstSpan set, behind)
  let start := behind.advance x
  if start.atEnd then throw s.unclosed
  let (last, behind) ← readAtom x start
  let lastSpan := start.spanTo behind
  let (lo, loByte) ← rangeEnd firstSpan first
  let (hi, hiByte) ← rangeEnd lastSpan last
  let span := c.spanTo behind
  if hi < lo then throw { kind := .classOrder, span }
  let set := do
    let lo ← literal? flags firstSpan lo loByte
    let hi ← literal? flags lastSpan hi hiByte
    return CharSet.range lo hi
  return (s.push span set, behind)

/-- What has been read of a set: more of it is to come, or all of it. -/
inductive Progress where
  | more (s : BracketState) (c : Cursor)
  | done (item : SetItem) (fault : Option Fault) (c : Cursor)

/-- Closes the innermost bracket at the cursor. -/
def close (flags : Flags) (s : BracketState) (c : Cursor) : Progress :=
  let b := s.current
  let value := b.value flags
  let span : Span := ⟨b.opened.start, c.pos + 1⟩
  let (set, s) := s.note (flags.signed span b.negated (flags.fold value.set))
  let item : SetItem := ⟨set, Shape.around span [value.shape]⟩
  match s.outer with
  | [] => .done item s.fault c.next
  | parent :: outer => .more ⟨parent.push item, outer, s.fault⟩ c.next

/-- Reads one item, operator or bracket of a set. -/
def step (flags : Flags) (s : BracketState) (c : Cursor) : Except Fault Progress :=
  let c := c.skipLayout flags.extended
  match c.rest with
  | [] => .error s.unclosed
  | '[' :: _ =>
    match Bracket.readName? c with
    | some (set, negated, behind) =>
      let span := c.spanTo behind
      .ok (.more (s.push span (flags.signed span negated (flags.fold set))) behind)
    | none => do
      let (b, behind) ← Bracket.open? flags.extended c
      return .more ⟨b, s.current :: s.outer, s.fault⟩ behind
  | ']' :: _ => .ok (s.close flags c)
  | '&' :: '&' :: _ => .ok (.more { s with current := s.current.operator flags .inter } (c.skip 2))
  | '-' :: '-' :: _ => .ok (.more { s with current := s.current.operator flags .sdiff } (c.skip 2))
  | '~' :: '~' :: _ =>
    .ok (.more { s with current := s.current.operator flags .symmDiff } (c.skip 2))
  | _ => do
    let (s, c) ← s.readItem flags c
    return .more s c

/-- Reads on until the outermost bracket is closed. Every step takes at least one character. -/
def run (flags : Flags) (s : BracketState) (c : Cursor) :
    Except Fault (SetItem × Option Fault × Cursor) :=
  match s.step flags c with
  | .error e => .error e
  | .ok (.done item fault behind) => .ok (item, fault, behind)
  | .ok (.more s' behind) =>
    if behind.rest.length < c.rest.length then run flags s' behind else .error s'.unclosed
termination_by c.rest.length

end BracketState

/-- **A bracketed set**, read at its opening bracket: what it denotes, the first thing in it that
does not exist, and the place behind it. -/
def readBracketed (flags : Flags) (c : Cursor) :
    Except Fault (SetItem × Option Fault × Cursor) := do
  let (b, behind) ← Bracket.open? flags.extended c
  BracketState.run flags ⟨b, [], none⟩ behind

end OfflineManifest.Regex
