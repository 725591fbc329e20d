/-! # Joining URLs

Two parts of a URL are joined by exactly one slash: one is put in where neither side has it, and one
is dropped where both have it.
-/

namespace OfflineManifest.Url

/-- The join of two parts, as lists of characters. -/
def joinChars (a b : List Char) : List Char :=
  match a.getLast? == some '/', b.head? == some '/' with
  | true, true => a ++ b.tail
  | false, false => a ++ '/' :: b
  | _, _ => a ++ b

/-- **The join of two parts of a URL.** -/
def join (a b : String) : String := String.ofList (joinChars a.toList b.toList)

/-- Whether the mark `://` between a scheme and an address stands somewhere in a pattern. -/
def hasSchemeMark : List Char → Bool
  | [] => false
  | c :: rest => "://".toList.isPrefixOf (c :: rest) || hasSchemeMark rest

/-- Whether a pattern stands for itself: it starts at the root or names a scheme. Any other pattern
is relative to a base. -/
def isAbsolute (pattern : List Char) : Bool := pattern.head? == some '/' || hasSchemeMark pattern

/-- A pattern seen from a base. -/
def resolve (base pattern : String) : String :=
  if isAbsolute pattern.toList then pattern else join base pattern

end OfflineManifest.Url
