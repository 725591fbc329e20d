import OfflineManifest.Toml.Scalar

/-! # TOML documents

A document is a list of lines: blank ones, headers of tables and of arrays of tables, and keys with
values. The lines after a header, up to the next one, belong to its table. Values and keys may be
nested in 79 levels.
-/

namespace OfflineManifest.Toml

/-- How deep arrays and inline tables may nest, and how many parts a key may have. -/
def nestLimit : Nat := 79

/-! ### Keys -/

/-- A character of a key without quotes. -/
def isKeyChar (c : Char) : Bool := c.isAlphanum || c == '_' || c == '-'

/-- A part of a key. -/
def simpleKey? : Reader String := fun text =>
  match text with
  | '"' :: _ | '\'' :: _ => shortString? text
  | text =>
    let name := text.takeWhile isKeyChar
    if name.isEmpty then none else some (String.ofList name, text.drop name.length)

/-- The parts of a key, with dots between them and blanks around them; `limit` bounds their
number. -/
def keyParts : Nat → Reader (List String)
  | 0, _ => none
  | limit + 1, text => do
    let (part, rest) ← simpleKey? (skipBlanks text)
    match skipBlanks rest with
    | '.' :: rest => do
      let (parts, rest) ← keyParts limit rest
      return (part :: parts, rest)
    | rest => return ([part], rest)

/-- A key, as the front of its path and its last part. -/
def key? : Reader (List String × String) := fun text => do
  let (parts, rest) ← keyParts nestLimit text
  let last ← parts.getLast?
  return ((parts.dropLast, last), rest)

/-! ### Values -/

/-- Reads the items of an array behind its opening bracket; `limit` bounds their number. -/
def items (item : Reader Node) : Nat → Reader (List Node)
  | 0, _ => none
  | limit + 1, text =>
    match skipLayout text.length text with
    | ']' :: rest => some ([], rest)
    | text => do
      let (v, rest) ← item text
      match skipLayout rest.length rest with
      | ',' :: rest => do
        let (vs, rest) ← items item limit rest
        return (v :: vs, rest)
      | ']' :: rest => return ([v], rest)
      | _ => none

/-- A key, an equals sign and a value. -/
def pair (item : Reader Node) : Reader (List String × String × Node) := fun text => do
  let ((path, key), rest) ← key? text
  match rest with
  | '=' :: rest => do
    let (v, rest) ← item (skipBlanks rest)
    return ((path, key, v), skipBlanks rest)
  | _ => none

/-- Reads the pairs of an inline table, of which there is one at least; `limit` bounds their
number. -/
def pairs (item : Reader Node) : Nat → Reader (List (List String × String × Node))
  | 0, _ => none
  | limit + 1, text => do
    let (p, rest) ← pair item text
    match rest with
    | ',' :: rest => do
      let (ps, rest) ← pairs item limit rest
      return (p :: ps, rest)
    | '\x7d' :: rest => return ([p], rest)
    | _ => none

/-- A value that may hold values of so many levels. -/
def value? (levels : Nat) : Reader Node := fun text =>
  match text with
  | '"' :: _ | '\'' :: _ => (string? text).map fun (s, rest) => (.string s, rest)
  | '[' :: rest =>
    match levels with
    | 0 => none
    | levels + 1 =>
      (items (value? levels) (rest.length + 1) rest).map fun (vs, rest) => (.array vs, rest)
  | '\x7b' :: rest =>
    match levels with
    | 0 => none
    | levels + 1 =>
      match skipBlanks rest with
      | '\x7d' :: rest => some (.inline {}, rest)
      | rest => do
        let (ps, rest) ← pairs (value? levels) (rest.length + 1) rest
        let t ← inlineTable ps
        return (.inline t, rest)
  | 't' :: 'r' :: 'u' :: 'e' :: rest => some (.boolean true, rest)
  | 'f' :: 'a' :: 'l' :: 's' :: 'e' :: rest => some (.boolean false, rest)
  | text =>
    match datetime text with
    | .found written rest => some (.datetime written, rest)
    | .invalid => none
    | .other => number? text

/-! ### Lines -/

/-- A document of which some lines have been read. -/
structure Document where
  /-- the tables that are finished -/
  root : Table Node := {}
  /-- the table that lines go into -/
  current : Table Node := {}
  /-- the path of its header, if it has one, and whether that starts an item of an array -/
  header : Option ((List String × String) × Bool) := none
  deriving Repr

namespace Document

/-- The tables after the current one is finished. -/
def finish (d : Document) : Option (Table Node) :=
  match d.header with
  | none => some d.current
  | some ((path, key), isItem) =>
    let place := fun (parent : Table Node) =>
      match isItem, parent.get? key with
      | true, some (.tables ts) => some (parent.set key (.tables (ts ++ [d.current])))
      | true, none => some (parent.push key (.tables [d.current]))
      | false, none => some (parent.push key (.table d.current))
      | _, _ => none
    descend false place path d.root

/-- Starts a table with a header. A table that was only mentioned so far is taken up again; one that
has a header or is made by dots is not. -/
def startTable (path : List String) (key : String) (d : Document) : Option Document := do
  let root ← d.finish
  let found ← lookUp root
  match found with
  | none => return { root, header := some ((path, key), false) }
  | some (.table t) =>
    if t.implicit && !t.dotted then
      let root ← descend false (fun parent => some (parent.erase key)) path root
      return { root, current := { t with implicit := false }, header := some ((path, key), false) }
    else none
  | some _ => none
where
  /-- What the key stands for in the table at the end of the path; nothing is changed. -/
  lookUp (root : Table Node) : Option (Option Node) := find path root
  /-- Follows a path. -/
  find : List String → Table Node → Option (Option Node)
    | [], t => some (t.get? key)
    | k :: path, t =>
      match t.get? k with
      | none => some none
      | some (.table sub) => find path sub
      | some (.tables subs) => subs.getLast?.bind (find path)
      | some _ => none

/-- Starts an item of an array of tables. -/
def startItem (path : List String) (key : String) (d : Document) : Option Document := do
  let root ← d.finish
  let reserve := fun (parent : Table Node) =>
    match parent.get? key with
    | none => some (parent.push key (.tables []))
    | some (.tables _) => some parent
    | some _ => none
  let root ← descend false reserve path root
  return { root, header := some ((path, key), true) }

/-- Reads the key of a header behind its opening brackets, up to the end of its line. -/
def readHeader (close : List Char) : Reader (List String × String) := fun text => do
  let (key, rest) ← key? text
  if close.isPrefixOf rest then
    let rest ← lineEnd? (rest.drop close.length)
    return (key, rest)
  else none

/-- Reads one line that is neither blank nor a comment. -/
def line (d : Document) (text : List Char) : Option (Document × List Char) :=
  match text with
  | '[' :: '[' :: rest => do
    let ((path, key), rest) ← readHeader [']', ']'] rest
    return (← d.startItem path key, rest)
  | '[' :: rest => do
    let ((path, key), rest) ← readHeader [']'] rest
    return (← d.startTable path key, rest)
  | text => do
    let ((path, key, v), rest) ← pair (value? nestLimit) text
    let rest ← lineEnd? rest
    let current ← insertValue path key v d.current
    return ({ d with current }, rest)

/-- Reads the lines of a text, of which there are at most `limit`. -/
def lines (limit : Nat) (d : Document) (text : List Char) : Option Document :=
  match limit with
  | 0 => none
  | limit + 1 =>
    match skipBlanks text with
    | [] => some d
    | '#' :: rest => do
      let rest ← lineEnd? ('#' :: rest)
      lines limit d rest
    | '\n' :: rest => lines limit d rest
    | '\r' :: rest => do
      let rest ← newLine? ('\r' :: rest)
      lines limit d rest
    | text => do
      let (d, rest) ← d.line text
      lines limit d rest

end Document

/-- The mark that may stand before a document. -/
def byteOrderMark : Char := '\uFEFF'

/-- **Reads a document.** -/
def parse? (text : String) : Option (Table Node) :=
  let chars := text.toList
  let chars := if chars.head? == some byteOrderMark then chars.tail else chars
  (Document.lines (chars.length + 1) {} chars).bind Document.finish

end OfflineManifest.Toml
