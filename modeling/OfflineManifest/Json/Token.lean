import OfflineManifest.Json.Fault

/-! # The tokens of JSON texts

A text is cut into marks, words, numbers and strings. Nothing is said yet about what a number or a
string denotes: a number is kept as its digits, a string as its characters and UTF-16 units, since
some faults count only where the value is used. A part that is no token ends the list.

* `Token.scan` cuts a text into tokens.
* `Lexeme.text?` is the text that a string denotes.
* `Numeral.value?` is the number that digits denote.
-/

namespace OfflineManifest.Json

/-! ### Strings -/

/-- A piece of a string: a character, or a UTF-16 unit given by its code. -/
inductive Piece where
  | char (c : Char)
  | unit (n : Nat)
  deriving DecidableEq, Repr

/-- How a string ends: at a quote, with the text, or at a fault. -/
inductive StringEnd where
  | closed
  | textEnd
  | control
  | badEscape
  | badHex
  deriving DecidableEq, Repr

/-- A string as it is written. -/
structure Lexeme where
  pieces : List Piece
  stop : StringEnd
  deriving DecidableEq, Repr

namespace Lexeme

/-- The fault at the end of a string, if it is not closed. -/
def stopFault? : StringEnd → Option Fault
  | .closed => none
  | .textEnd => some .endInString
  | .control => some .controlCharacter
  | .badEscape | .badHex => some .invalidEscape

/-- A hexadecimal digit's value. -/
def hexValue? (c : Char) : Option Nat :=
  if c.isDigit then some (c.toNat - 48)
  else if 'a' ≤ c && c ≤ 'f' then some (c.toNat - 87)
  else if 'A' ≤ c && c ≤ 'F' then some (c.toNat - 55)
  else none

/-- What four hexadecimal digits at the start of a text denote. -/
inductive HexUnit where
  | unit (n : Nat) (rest : List Char)
  | invalid
  | textEnd

/-- Reads four hexadecimal digits. The text is at its end if fewer than four bytes are left. -/
def readUnit (text : List Char) : HexUnit :=
  match text with
  | a :: b :: c :: d :: rest =>
    match hexValue? a, hexValue? b, hexValue? c, hexValue? d with
    | some a, some b, some c, some d => .unit (4096 * a + 256 * b + 16 * c + d) rest
    | _, _, _, _ => .invalid
  | short => if short.foldl (fun n c => n + c.utf8Size) 0 < 4 then .textEnd else .invalid

/-- The character after a backslash, other than `u`, and what it stands for. -/
def escape? (c : Char) : Option Char :=
  match c with
  | '"' => some '"'
  | '\\' => some '\\'
  | '/' => some '/'
  | 'b' => some '\x08'
  | 'f' => some '\x0C'
  | 'n' => some '\n'
  | 'r' => some '\r'
  | 't' => some '\t'
  | _ => none

/-- Reads a string behind its opening quote, onto the pieces read so far (the last one first), and
the text behind the string. -/
def scan (pieces : List Piece) (text : List Char) : Lexeme × List Char :=
  match text with
  | [] => (⟨pieces.reverse, .textEnd⟩, [])
  | '"' :: rest => (⟨pieces.reverse, .closed⟩, rest)
  | ['\\'] => (⟨pieces.reverse, .textEnd⟩, [])
  | '\\' :: 'u' :: rest =>
    match h : readUnit rest with
    | .unit n behind =>
      have : behind.length < rest.length := by
        unfold readUnit at h
        split at h
        · split at h
          · cases h; simp only [List.length_cons]; omega
          · cases h
        · split at h <;> cases h
      scan (.unit n :: pieces) behind
    | .invalid => (⟨pieces.reverse, .badHex⟩, rest)
    | .textEnd => (⟨pieces.reverse, .textEnd⟩, [])
  | '\\' :: c :: rest =>
    match escape? c with
    | some e => scan (.char e :: pieces) rest
    | none => (⟨pieces.reverse, .badEscape⟩, rest)
  | c :: rest =>
    if c.toNat < 0x20 then (⟨pieces.reverse, .control⟩, rest)
    else scan (.char c :: pieces) rest
termination_by text.length
decreasing_by all_goals (simp only [List.length_cons]; omega)

/-- The text that pieces denote, if the string ends as given: a leading surrogate must be followed
by a trailing one, and a trailing one must follow. -/
def decode (stop : StringEnd) (acc : List Char) : List Piece → Except Fault (List Char)
  | [] =>
    match stopFault? stop with
    | none => .ok acc.reverse
    | some fault => .error fault
  | .char c :: rest => decode stop (c :: acc) rest
  | .unit n :: rest =>
    if 0xDC00 ≤ n && n ≤ 0xDFFF then .error .loneSurrogate
    else if 0xD800 ≤ n && n ≤ 0xDBFF then
      match rest with
      | .unit m :: rest =>
        if 0xDC00 ≤ m && m ≤ 0xDFFF then
          decode stop (Char.ofNat (0x10000 + (n - 0xD800) * 0x400 + (m - 0xDC00)) :: acc) rest
        else .error .loneSurrogate
      | .char _ :: _ => .error .hexEscapeEnd
      | [] =>
        match stop with
        | .textEnd => .error .endInString
        | .badHex => .error .invalidEscape
        | _ => .error .hexEscapeEnd
    else decode stop (Char.ofNat n :: acc) rest

/-- **The text that a string denotes.** -/
def text? (s : Lexeme) : Except Fault String := (decode s.stop [] s.pieces).map String.ofList

/-- The fault of a string that is skipped. -/
def skip (s : Lexeme) : Except Fault Unit :=
  match stopFault? s.stop with
  | none => .ok ()
  | some fault => .error fault

end Lexeme

/-! ### Numbers -/

/-- A number as it is written. The fraction is empty if there is none; the exponent has a sign. -/
structure Numeral where
  negative : Bool
  integer : List Char
  fraction : List Char
  exponent : Option (Bool × List Char)
  deriving DecidableEq, Repr

namespace Numeral

/-- The number that decimal digits denote. -/
def decimal (digits : List Char) : Nat := digits.foldl (fun n d => 10 * n + (d.toNat - 48)) 0

/-- Appends digits to a number as long as it stays below `2 ^ 64`: the number, how many digits were
appended, and the digits that are left. -/
def extend (n : Nat) : List Char → Nat × Nat × List Char
  | [] => (n, 0, [])
  | d :: rest =>
    let m := 10 * n + (d.toNat - 48)
    if m < UInt64.size then
      let (n, count, left) := extend m rest
      (n, count + 1, left)
    else (n, 0, d :: rest)

/-- A number divided by a power of ten, in steps of at most `10 ^ 308`. -/
def scaleDown (x : Binary64) (power : Nat) : Binary64 :=
  if power ≤ 308 then x.div (Binary64.ofNat (Nat.pow 10 power))
  else if x.isZero then x
  else scaleDown (x.div (Binary64.ofNat (Nat.pow 10 308))) (power - 308)
termination_by power

/-- The number `significand * 10 ^ exponent`, rounded first in its significand and then with each
power of ten. -/
def scale (significand : Nat) (exponent : Int) : Except Fault Binary64 :=
  let x := Binary64.ofNat significand
  if exponent < 0 then .ok (scaleDown x exponent.natAbs)
  else if x.isZero then .ok x
  else if 308 < exponent then .error .numberOutOfRange
  else
    let y := x.mul (Binary64.ofNat (Nat.pow 10 exponent.toNat))
    if y.isFinite then .ok y else .error .numberOutOfRange

/-- The least and greatest exponents that are told apart. -/
def exponentLimit : Nat := 2147483647

/-- The floating-point number of a significand with a decimal exponent and the exponent that is
written. -/
def floatParts (significand : Nat) (shift : Int) (exponent : Option (Bool × List Char)) :
    Except Fault Binary64 :=
  match exponent with
  | none => scale significand shift
  | some (down, digits) =>
    let e := decimal digits
    if exponentLimit < e then
      if significand ≠ 0 && !down then .error .numberOutOfRange else .ok Binary64.zero
    else
      let sum : Int := if down then shift - e else shift + e
      scale significand (max (-2147483648) (min sum exponentLimit))

/-- A floating-point number with a sign. -/
def signedFloat (negative : Bool) (x : Binary64) : Except Fault Number :=
  let y := if negative then x.neg else x
  if h : y.isFinite = true then .ok (.float y h) else .error .numberOutOfRange

/-- **The number that a numeral denotes.** -/
def value? (n : Numeral) : Except Fault Number :=
  let (whole, _, more) := extend 0 n.integer
  if more.isEmpty && n.fraction.isEmpty && n.exponent.isNone then
    if !n.negative then .ok (.natural (UInt64.ofNat whole))
    else if h : 0 < whole ∧ whole ≤ negativeLimit then .ok (.negative whole h)
    else signedFloat true (Binary64.ofNat whole)
  else
    let (significand, places, _) := extend whole n.fraction
    match floatParts significand ((more.length : Int) - places) n.exponent with
    | .ok x => signedFloat n.negative x
    | .error e => .error e

end Numeral

/-! ### Tokens -/

/-- What is wrong where a value should start. -/
inductive Broken where
  /-- a character that starts no value -/
  | stray
  /-- a word that goes on differently, or ends with the text; `null` may be left undone only where
  its first letter is there -/
  | word (startsNull textEnd : Bool)
  /-- a number without the digits that it needs, maybe because the text ends -/
  | number (textEnd : Bool)
  deriving DecidableEq, Repr

/-- A token. -/
inductive Token where
  | arrayStart | arrayStop | objectStart | objectStop | comma | colon
  | null
  | bool (b : Bool)
  | number (n : Numeral)
  | string (s : Lexeme)
  | broken (b : Broken)
  deriving DecidableEq, Repr

namespace Token

/-- Blanks between tokens. -/
def isBlank (c : Char) : Bool := c == ' ' || c == '\n' || c == '\t' || c == '\r'

/-- The rest of a text behind the letters of a word, or whether the text ended before. -/
def readWord : List Char → List Char → Except Bool (List Char)
  | [], text => .ok text
  | _ :: _, [] => .error true
  | a :: word, c :: text => if a = c then readWord word text else .error false

/-- The digits at the start of a text, and the rest. -/
def digits (text : List Char) : List Char × List Char :=
  (text.takeWhile Char.isDigit, text.dropWhile Char.isDigit)

/-- The digits that must stand at the start of a text. -/
def digits? (text : List Char) : Except Bool (List Char × List Char) :=
  match digits text with
  | ([], rest) => .error rest.isEmpty
  | (ds, rest) => .ok (ds, rest)

/-- The digits before the point: a zero stands alone. -/
def readInteger (text : List Char) : Except Bool (List Char × List Char) :=
  match text with
  | '0' :: rest => if rest.head?.any Char.isDigit then .error false else .ok (['0'], rest)
  | text => digits? text

/-- The digits behind a point, if there is one. -/
def readFraction (text : List Char) : Except Bool (List Char × List Char) :=
  match text with
  | '.' :: rest => digits? rest
  | text => .ok ([], text)

/-- The exponent, if there is one. -/
def readExponent (text : List Char) : Except Bool (Option (Bool × List Char) × List Char) :=
  match text with
  | c :: rest =>
    if c == 'e' || c == 'E' then
      let down := rest.head? == some '-'
      let rest := if down || rest.head? == some '+' then rest.tail else rest
      (digits? rest).map fun (ds, rest) => (some (down, ds), rest)
    else .ok (none, text)
  | [] => .ok (none, [])

/-- A number at the start of a text, behind its sign. -/
def readNumber (negative : Bool) (text : List Char) : Except Bool (Numeral × List Char) := do
  let (integer, rest) ← readInteger text
  let (fraction, rest) ← readFraction rest
  let (exponent, rest) ← readExponent rest
  return (⟨negative, integer, fraction, exponent⟩, rest)

/-- The token of a word, behind its first letter. -/
def ofWord (token : Token) (startsNull : Bool) (word : String) (rest : List Char) :
    Token × List Char :=
  match readWord word.toList rest with
  | .ok rest => (token, rest)
  | .error textEnd => (broken (.word startsNull textEnd), [])

/-- The token of a number. -/
def ofNumber (negative : Bool) (text : List Char) : Token × List Char :=
  match readNumber negative text with
  | .ok (n, rest) => (number n, rest)
  | .error textEnd => (broken (.number textEnd), [])

/-- The token that starts with a character that is no blank, and the text behind it; behind a part
that is no token nothing is left. -/
def next (c : Char) (rest : List Char) : Token × List Char :=
  match c with
  | '[' => (arrayStart, rest)
  | ']' => (arrayStop, rest)
  | '\x7b' => (objectStart, rest)
  | '\x7d' => (objectStop, rest)
  | ',' => (comma, rest)
  | ':' => (colon, rest)
  | 'n' => ofWord null true "ull" rest
  | 't' => ofWord (bool true) false "rue" rest
  | 'f' => ofWord (bool false) false "alse" rest
  | '"' =>
    let (s, rest) := Lexeme.scan [] rest
    (string s, rest)
  | '-' => ofNumber true rest
  | c => if c.isDigit then ofNumber false (c :: rest) else (broken .stray, [])

/-- **The tokens of a text.** -/
def scan (text : List Char) : List Token :=
  match text with
  | [] => []
  | c :: rest =>
    if isBlank c then scan rest
    else
      let (token, behind) := next c rest
      if behind.length ≤ rest.length then token :: scan behind else [token]
termination_by text.length

end Token

end OfflineManifest.Json
