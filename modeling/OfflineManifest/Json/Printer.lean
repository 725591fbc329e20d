import OfflineManifest.Decimal.Shortest
import OfflineManifest.Json.Value

/-! # Writing JSON

A value is written without blanks (`Value.compact`) or with one item per line and two blanks per
level (`Value.pretty`). Floating-point numbers are written with the fewest digits that read back,
with an exponent if they are at least `10 ^ 16` or less than `10 ^ -5`, and with a point otherwise.
-/

namespace OfflineManifest.Json

/-! ### Texts and numbers -/

/-- The last two hexadecimal digits of a code. -/
def hexPair (n : Nat) : List Char :=
  let digit := fun (k : Nat) => "0123456789abcdef".toList.getD k '0'
  [digit (n / 16 % 16), digit (n % 16)]

/-- How a character is written in a text. -/
def escapedChar (c : Char) : List Char :=
  match c with
  | '"' => ['\\', '"']
  | '\\' => ['\\', '\\']
  | '\x08' => ['\\', 'b']
  | '\x0C' => ['\\', 'f']
  | '\n' => ['\\', 'n']
  | '\r' => ['\\', 'r']
  | '\t' => ['\\', 't']
  | c => if c.toNat < 0x20 then ['\\', 'u', '0', '0'] ++ hexPair c.toNat else [c]

/-- A text between double quotes. -/
def stringText (s : String) : List Char := '"' :: s.toList.flatMap escapedChar ++ ['"']

/-- The decimal digits of a natural number. -/
def naturalText (n : Nat) : List Char := Nat.toDigits 10 n

/-- **The text of a finite floating-point number.** -/
def floatText (x : Binary64) : List Char :=
  let d := Decimal.shortest x
  let digits := naturalText d.digits
  let zeros := fun (n : Nat) => List.replicate n '0'
  -- the place of the point, counted from the first digit
  let point := (digits.length : Int) + d.exponent
  let unsigned :=
    if x.isZero then "0.0".toList
    else if 0 ≤ d.exponent && point ≤ 16 then digits ++ zeros d.exponent.toNat ++ ".0".toList
    else if 0 < point && point ≤ 16 then
      digits.take point.toNat ++ '.' :: digits.drop point.toNat
    else if -5 < point && point ≤ 0 then "0.".toList ++ zeros (-point).toNat ++ digits
    else
      let mantissa := digits.take 1 ++ (if digits.length = 1 then [] else '.' :: digits.drop 1)
      let exponent := point - 1
      mantissa ++ (if exponent < 0 then "e-".toList else "e+".toList) ++
        naturalText exponent.natAbs
  if x.isNegative then '-' :: unsigned else unsigned

/-- The text of a number. -/
def Number.text : Number → List Char
  | natural n => naturalText n.toNat
  | negative m _ => '-' :: naturalText m
  | float x _ => floatText x

/-! ### Values -/

namespace Value

mutual

/-- The text of a value without blanks. -/
def compactChars : Value → List Char
  | null => "null".toList
  | bool true => "true".toList
  | bool false => "false".toList
  | number n => n.text
  | string s => stringText s
  | array items => '[' :: compactItems items ++ [']']
  | object members => '\x7b' :: compactMembers members ++ ['\x7d']

/-- The items of an array, with commas between them. -/
def compactItems : List Value → List Char
  | [] => []
  | [v] => compactChars v
  | v :: rest => compactChars v ++ ',' :: compactItems rest

/-- The members of an object, with commas between them. -/
def compactMembers : List (String × Value) → List Char
  | [] => []
  | [(name, v)] => stringText name ++ ':' :: compactChars v
  | (name, v) :: rest => stringText name ++ ':' :: compactChars v ++ ',' :: compactMembers rest

end

/-- A new line at a level. -/
def newLine (level : Nat) : List Char := '\n' :: List.replicate (2 * level) ' '

mutual

/-- The text of a value at a level, with one item per line. -/
def prettyChars (level : Nat) : Value → List Char
  | null => "null".toList
  | bool true => "true".toList
  | bool false => "false".toList
  | number n => n.text
  | string s => stringText s
  | array [] => "[]".toList
  | object [] => ['\x7b', '\x7d']
  | array (v :: items) => '[' :: prettyItems (level + 1) (v :: items) ++ newLine level ++ [']']
  | object (m :: members) =>
    '\x7b' :: prettyMembers (level + 1) (m :: members) ++ newLine level ++ ['\x7d']

/-- The items of an array, each on a line of its own. -/
def prettyItems (level : Nat) : List Value → List Char
  | [] => []
  | [v] => newLine level ++ prettyChars level v
  | v :: rest => newLine level ++ prettyChars level v ++ ',' :: prettyItems level rest

/-- The members of an object, each on a line of its own. -/
def prettyMembers (level : Nat) : List (String × Value) → List Char
  | [] => []
  | [(name, v)] => newLine level ++ stringText name ++ ':' :: ' ' :: prettyChars level v
  | (name, v) :: rest =>
    newLine level ++ stringText name ++ ':' :: ' ' :: prettyChars level v ++
      ',' :: prettyMembers level rest

end

/-- **The text of a value** on one line. -/
def compact (v : Value) : String := String.ofList v.compactChars

/-- **The text of a value** on several lines. -/
def pretty (v : Value) : String := String.ofList (prettyChars 0 v)

end Value

end OfflineManifest.Json
