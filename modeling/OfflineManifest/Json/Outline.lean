import OfflineManifest.Json.Token

/-! # The structure of JSON texts

The outline of a text is the tree of its values. A text with a fault has an outline too: it reaches
up to the fault, and every container remembers how it ended. What a reader makes of a fault depends
on what it asks for at that place, and it meets the fault only if nothing else stops it before.

Tokens are put into an outline one by one (`Builder.step`). The builder keeps the containers that
are open, the innermost first, and what may come next.
-/

namespace OfflineManifest.Json

/-- How an array ends. -/
inductive ArrayEnd where
  | closed
  /-- the text ends where an item, a comma or the closing bracket should stand -/
  | textEnd
  /-- something else stands where a comma or the closing bracket should stand -/
  | unexpected
  /-- the closing bracket stands behind a comma -/
  | commaClosed
  /-- the text ends behind a comma -/
  | commaTextEnd
  /-- the fault is in the last item -/
  | inside
  deriving DecidableEq, Repr

/-- How an object ends. -/
inductive ObjectEnd where
  | closed
  | textEnd
  | unexpected
  | commaClosed
  | commaTextEnd
  /-- something else than a string stands where a name should stand -/
  | badName
  | inside
  deriving DecidableEq, Repr

/-- The outline of a value. -/
inductive Outline where
  | null
  | bool (b : Bool)
  | number (n : Numeral)
  | string (s : Lexeme)
  | array (items : List Outline) (stop : ArrayEnd)
  | object (members : List (Lexeme × Outline)) (stop : ObjectEnd)
  /-- no value at all -/
  | broken (b : Broken)
  /-- the text ends where the value should start -/
  | missing
  /-- in an object: no colon stands between the name and the value, maybe because the text ends -/
  | noColon (textEnd : Bool)
  deriving Repr

/-- A container that is open. -/
inductive Frame where
  | array (items : List Outline)
  | object (members : List (Lexeme × Outline)) (name : Lexeme)
  deriving Repr

namespace Frame

/-- The container with one more value, not yet closed. -/
def close (f : Frame) (last : Outline) : Outline :=
  match f with
  | array items => .array (last :: items).reverse .inside
  | object members name => .object ((name, last) :: members).reverse .inside

end Frame

/-- What the builder has seen, with what may come next. Items and members have the last one
first. -/
inductive Builder where
  /-- a value -/
  | value (outer : List Frame)
  /-- a value or the closing bracket, behind the opening one -/
  | firstItem (outer : List Frame)
  /-- a value, behind a comma -/
  | item (items : List Outline) (outer : List Frame)
  /-- a comma or the closing bracket -/
  | itemEnd (items : List Outline) (outer : List Frame)
  /-- a name or the closing brace, behind the opening one -/
  | firstName (outer : List Frame)
  /-- a name, behind a comma -/
  | name (members : List (Lexeme × Outline)) (outer : List Frame)
  /-- a colon -/
  | colon (members : List (Lexeme × Outline)) (name : Lexeme) (outer : List Frame)
  /-- a comma or the closing brace -/
  | memberEnd (members : List (Lexeme × Outline)) (outer : List Frame)
  /-- nothing; the flag tells that more has come -/
  | done (whole : Outline) (more : Bool)
  deriving Repr

namespace Builder

/-- Puts a value into the innermost open container, or ends with it. -/
def put (v : Outline) : List Frame → Builder
  | [] => .done v false
  | .array items :: outer => .itemEnd (v :: items) outer
  | .object members key :: outer => .memberEnd ((key, v) :: members) outer

/-- Ends with a value that has a fault. -/
def abort (v : Outline) (outer : List Frame) : Builder :=
  .done (outer.foldl (fun v f => f.close v) v) false

/-- The outline of a token that stands where a value should stand. -/
def tokenOutline : Token → Outline
  | .null => .null
  | .bool b => .bool b
  | .number n => .number n
  | .string s => .string s
  | .arrayStart => .array [] .inside
  | .objectStart => .object [] .inside
  | .broken b => .broken b
  | .arrayStop | .objectStop | .comma | .colon => .broken .stray

/-- A token where a value should start. -/
def startValue (t : Token) (outer : List Frame) : Builder :=
  match t with
  | .arrayStart => .firstItem outer
  | .objectStart => .firstName outer
  | .null | .bool _ | .number _ => put (tokenOutline t) outer
  | .string s => if s.stop = .closed then put (.string s) outer else abort (.string s) outer
  | t => abort (tokenOutline t) outer

/-- A token where a name should start, behind the given members. -/
def startName (t : Token) (members : List (Lexeme × Outline)) (outer : List Frame) : Builder :=
  match t with
  | .string s =>
    if s.stop = .closed then .colon members s outer
    else abort (.object ((s, .missing) :: members).reverse .inside) outer
  | _ => abort (.object members.reverse .badName) outer

/-- **One token more.** -/
def step (b : Builder) (t : Token) : Builder :=
  match b with
  | .value outer => startValue t outer
  | .firstItem outer =>
    if t = .arrayStop then put (.array [] .closed) outer else startValue t (.array [] :: outer)
  | .item items outer =>
    if t = .arrayStop then abort (.array items.reverse .commaClosed) outer
    else startValue t (.array items :: outer)
  | .itemEnd items outer =>
    match t with
    | .comma => .item items outer
    | .arrayStop => put (.array items.reverse .closed) outer
    | _ => abort (.array items.reverse .unexpected) outer
  | .firstName outer =>
    if t = .objectStop then put (.object [] .closed) outer else startName t [] outer
  | .name members outer =>
    if t = .objectStop then abort (.object members.reverse .commaClosed) outer
    else startName t members outer
  | .colon members key outer =>
    if t = .colon then .value (.object members key :: outer)
    else abort (.object ((key, .noColon false) :: members).reverse .inside) outer
  | .memberEnd members outer =>
    match t with
    | .comma => .name members outer
    | .objectStop => put (.object members.reverse .closed) outer
    | _ => abort (.object members.reverse .unexpected) outer
  | .done whole _ => .done whole true

/-- The outline at the end of a text, and whether anything stands behind it. -/
def finish : Builder → Outline × Bool
  | .value outer => close .missing outer
  | .firstItem outer => close (.array [] .textEnd) outer
  | .item items outer => close (.array items.reverse .commaTextEnd) outer
  | .itemEnd items outer => close (.array items.reverse .textEnd) outer
  | .firstName outer => close (.object [] .textEnd) outer
  | .name members outer => close (.object members.reverse .commaTextEnd) outer
  | .colon members key outer =>
    close (.object ((key, .noColon true) :: members).reverse .inside) outer
  | .memberEnd members outer => close (.object members.reverse .textEnd) outer
  | .done whole more => (whole, more)
where
  /-- Closes the open containers around a value with a fault. -/
  close (v : Outline) (outer : List Frame) : Outline × Bool :=
    (outer.foldl (fun v f => f.close v) v, false)

end Builder

/-- **The outline of a text**, and whether anything stands behind its value. -/
def Outline.ofText (text : String) : Outline × Bool :=
  ((Token.scan text.toList).foldl Builder.step (.value [])).finish

end OfflineManifest.Json
