/-! # Paths as texts

The last name of a path and its extension. Empty names and single dots in a path do not count.
-/

namespace OfflineManifest.Text

/-- The names between the slashes of a path that lead somewhere. -/
def pathNames (path : String) : List (List Char) :=
  (path.toList.splitOn '/').filter fun name => name ≠ [] && name ≠ ['.']

/-- The last name of a path, unless it leads upwards. -/
def fileName? (path : String) : Option (List Char) :=
  match (pathNames path).getLast? with
  | some name => if name = ['.', '.'] then none else some name
  | none => none

/-- What stands behind the last dot of a name, unless that dot comes first. -/
def extension? (name : List Char) : Option (List Char) :=
  if name.contains '.' then
    let behind := (name.reverse.takeWhile (· != '.')).reverse
    if behind.length + 1 = name.length then none else some behind
  else none

/-- The extension of a path in lower case; the empty text if there is none. -/
def pathExtension (path : String) : String :=
  String.ofList ((((fileName? path).bind extension?).getD []).map Char.toLower)

end OfflineManifest.Text
