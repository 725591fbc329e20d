import OfflineManifest.Decimal.Binary64

/-! # TOML data

A document is a table, whose entries are scalars, arrays, tables written inline, tables with a
header of their own, and arrays of such tables. A table remembers how it came about: *implicit*
tables are mentioned on the way to another one, and *dotted* ones are made by keys with dots; both
decide what may still be added to a table.
-/

namespace OfflineManifest.Toml

/-- A table over nodes of some type. -/
structure Table (ν : Type) where
  implicit : Bool := false
  dotted : Bool := false
  entries : List (String × ν) := []
  deriving Repr

/-- A value, or a table or an array of tables with headers. -/
inductive Node where
  | string (s : String)
  | integer (n : Int)
  | float (x : Binary64)
  | boolean (b : Bool)
  /-- a date, a time, or both, in its written form -/
  | datetime (text : String)
  | array (items : List Node)
  | inline (t : Table Node)
  | table (t : Table Node)
  | tables (ts : List (Table Node))
  deriving Repr

namespace Table

variable {ν : Type}

/-- The entry of a key. -/
def get? (t : Table ν) (key : String) : Option ν := t.entries.lookup key

/-- The table with a new entry at its end. -/
def push (t : Table ν) (key : String) (v : ν) : Table ν :=
  { t with entries := t.entries ++ [(key, v)] }

/-- The table with another value for a key that it has. -/
def set (t : Table ν) (key : String) (v : ν) : Table ν :=
  { t with entries := t.entries.map fun (k, w) => if k = key then (k, v) else (k, w) }

/-- The table without a key. -/
def erase (t : Table ν) (key : String) : Table ν :=
  { t with entries := t.entries.filter fun (k, _) => k ≠ key }

/-- The table with a new entry; there is none if the key is taken. -/
def pushNew (t : Table ν) (key : String) (v : ν) : Option (Table ν) :=
  if (t.get? key).isSome then none else some (t.push key v)

end Table

/-- Changes the table at the end of a path of headers or, if `dotted`, of a key with dots. Tables
that do not exist are made; of an array of tables the last one counts. A key with dots must not
lead into a table that has a header. -/
def descend (dotted : Bool) (change : Table Node → Option (Table Node)) :
    List String → Table Node → Option (Table Node)
  | [], t => change t
  | key :: path, t =>
    match t.get? key with
    | none =>
      let made : Table Node := { implicit := true, dotted }
      (descend dotted change path made).map fun sub => t.push key (.table sub)
    | some (.table sub) =>
      if dotted && !sub.implicit then none
      else (descend dotted change path sub).map fun sub => t.set key (.table sub)
    | some (.tables subs) =>
      match subs.getLast? with
      | none => none
      | some last =>
        (descend dotted change path last).map fun last =>
          t.set key (.tables (subs.dropLast ++ [last]))
    | some _ => none

/-- The same within a table written inline, where all keys have dots. -/
def descendInline (change : Table Node → Option (Table Node)) :
    List String → Table Node → Option (Table Node)
  | [], t => change t
  | key :: path, t =>
    match t.get? key with
    | none =>
      (descendInline change path { implicit := true, dotted := true }).map fun sub =>
        t.push key (.inline sub)
    | some (.inline sub) =>
      if !sub.implicit then none
      else (descendInline change path sub).map fun sub => t.set key (.inline sub)
    | some _ => none

/-- Adds a value to the table at the end of a path that is the front of its key. A table made by
dots takes only keys with dots, any other table only single keys. -/
def addEntry (path : List String) (key : String) (v : Node) (t : Table Node) :
    Option (Table Node) :=
  if t.dotted = path.isEmpty then none else t.pushNew key v

/-- The table with headers after a line that gives a key a value. -/
def insertValue (path : List String) (key : String) (v : Node) (t : Table Node) :
    Option (Table Node) :=
  descend true (addEntry path key v) path t

/-- The inline table of a list of keys, each with the front of its path, and values. -/
def inlineTable (pairs : List (List String × String × Node)) : Option (Table Node) :=
  pairs.foldlM (fun t (path, key, v) => descendInline (addEntry path key v) path t) {}

end OfflineManifest.Toml
