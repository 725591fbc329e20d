import OfflineManifest.Unicode.Property
import OfflineManifest.Regex.Error

/-! # Places in a pattern

A cursor is a place in a pattern with the text that follows it. In the extended layout blanks and
comments between the parts of a pattern do not count; the functions that may step over them take a
flag that says whether that layout is on.
-/

namespace OfflineManifest.Regex

/-- A place in a pattern and the rest of the pattern from there. -/
structure Cursor where
  pos : Nat
  rest : List Char
  deriving Repr

namespace Cursor

/-- The start of a pattern. -/
def start (pattern : List Char) : Cursor := ⟨0, pattern⟩

/-- The next character. -/
def peek? (c : Cursor) : Option Char := c.rest.head?

/-- Whether the pattern is at its end. -/
def atEnd (c : Cursor) : Bool := c.rest.isEmpty

/-- The place `n` characters further on. -/
def skip (c : Cursor) (n : Nat) : Cursor := ⟨c.pos + n, c.rest.drop n⟩

/-- The place after the next character. -/
def next (c : Cursor) : Cursor :=
  match c.rest with
  | [] => c
  | _ :: rest => ⟨c.pos + 1, rest⟩

/-- The empty part at a place. -/
def here (c : Cursor) : Span := ⟨c.pos, c.pos⟩

/-- The part that is the next character. -/
def charSpan (c : Cursor) : Span := ⟨c.pos, c.pos + 1⟩

/-- The part from a place to a later one. -/
def spanTo (c : Cursor) (later : Cursor) : Span := ⟨c.pos, later.pos⟩

/-- The place after a text, if the pattern goes on with it. -/
def after? (c : Cursor) (text : String) : Option Cursor :=
  if text.toList.isPrefixOf c.rest then some (c.skip text.length) else none

/-- The number of characters in the blanks and comments at the start of a text; the flag tells
whether the text starts inside a comment. -/
def layoutLength : Bool → List Char → Nat
  | _, [] => 0
  | true, a :: rest => 1 + layoutLength (a != '\n') rest
  | false, a :: rest =>
    if Unicode.isWhiteSpace a then 1 + layoutLength false rest
    else if a == '#' then 1 + layoutLength true rest
    else 0

/-- The place after blanks and comments, in the extended layout. -/
def skipLayout (extended : Bool) (c : Cursor) : Cursor :=
  if extended then c.skip (layoutLength false c.rest) else c

/-- The place after the next character and the blanks and comments behind it. -/
def advance (extended : Bool) (c : Cursor) : Cursor := c.next.skipLayout extended

/-- The character that follows the next one; in the extended layout the first one behind blanks
and one number sign. -/
def second? (extended : Bool) (c : Cursor) : Option Char :=
  let following := c.rest.tail
  if extended then
    let behind := following.dropWhile Unicode.isWhiteSpace
    let behind :=
      if behind.head? == some '#' then behind.tail.dropWhile Unicode.isWhiteSpace else behind
    if behind.isEmpty then following.head? else behind.head?
  else following.head?

end Cursor

end OfflineManifest.Regex
