import OfflineManifest.Json.Printer
import OfflineManifest.Text.Quoted

/-! # Faults in JSON texts

What can be wrong with a text: it ends too early, a character is out of place, a text or number is
badly written, containers are nested too deeply, or a value is not of the kind that is asked for.
-/

namespace OfflineManifest.Json

/-- What stands where something else is asked for. -/
inductive Found where
  | null
  | bool (b : Bool)
  | integer (n : Int)
  | float (x : Binary64)
  | string (s : String)
  | sequence
  | map
  deriving DecidableEq, Repr

/-- How it is named. -/
def Found.describe : Found → String
  | null => "null"
  | bool b => s!"boolean \u0060{b}\u0060"
  | integer n => s!"integer \u0060{n}\u0060"
  | float x => s!"floating point \u0060{String.ofList (floatText x)}\u0060"
  | string s => s!"string {Text.quoted s}"
  | sequence => "sequence"
  | map => "map"

/-- What is wrong with a text. -/
inductive Fault where
  | endInValue
  | endInObject
  | endInArray
  | endInString
  | expectedValue
  | expectedWord
  | expectedColon
  | expectedCommaOrBrace
  | expectedCommaOrBracket
  | keyNoString
  | trailingComma
  | trailingCharacters
  | invalidNumber
  | numberOutOfRange
  | invalidEscape
  | hexEscapeEnd
  | loneSurrogate
  | controlCharacter
  | nestedTooDeep
  | missingField (name : String)
  | duplicateField (name : String)
  | unknownVariant (found : String) (expected : List String)
  | invalidType (found : Found) (expected : String)
  | invalidValue (found : Found) (expected : String)
  | invalidLength (length : Nat) (expected : String)
  deriving DecidableEq, Repr

/-- A list of names, any of which is asked for. -/
def alternatives (names : List String) : String :=
  let ticked := names.map fun n => s!"\u0060{n}\u0060"
  match ticked with
  | [] => ""
  | [a] => a
  | [a, b] => s!"{a} or {b}"
  | _ => "one of " ++ String.intercalate ", " ticked

/-- The wording of a fault. -/
def Fault.message : Fault → String
  | endInValue => "EOF while parsing a value"
  | endInObject => "EOF while parsing an object"
  | endInArray => "EOF while parsing a list"
  | endInString => "EOF while parsing a string"
  | expectedValue => "expected value"
  | expectedWord => "expected ident"
  | expectedColon => "expected \u0060:\u0060"
  | expectedCommaOrBrace => "expected \u0060,\u0060 or \u0060\x7d\u0060"
  | expectedCommaOrBracket => "expected \u0060,\u0060 or \u0060]\u0060"
  | keyNoString => "key must be a string"
  | trailingComma => "trailing comma"
  | trailingCharacters => "trailing characters"
  | invalidNumber => "invalid number"
  | numberOutOfRange => "number out of range"
  | invalidEscape => "invalid escape"
  | hexEscapeEnd => "unexpected end of hex escape"
  | loneSurrogate => "lone leading surrogate in hex escape"
  | controlCharacter => "control character (\\u0000-\\u001F) found while parsing a string"
  | nestedTooDeep => "recursion limit exceeded"
  | missingField name => s!"missing field \u0060{name}\u0060"
  | duplicateField name => s!"duplicate field \u0060{name}\u0060"
  | unknownVariant found expected =>
    s!"unknown variant \u0060{found}\u0060, expected {alternatives expected}"
  | invalidType found expected => s!"invalid type: {found.describe}, expected {expected}"
  | invalidValue found expected => s!"invalid value: {found.describe}, expected {expected}"
  | invalidLength length expected => s!"invalid length {length}, expected {expected}"

end OfflineManifest.Json
