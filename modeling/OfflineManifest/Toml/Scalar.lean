import OfflineManifest.Toml.Node

/-! # Scalars of TOML

Readers of blanks, comments, strings, numbers, dates and times. A reader takes the start of a text
to what it denotes and the text behind it; there is nothing if the text does not start that way.
-/

namespace OfflineManifest.Toml

/-- A way of reading the start of a text. -/
abbrev Reader (α : Type) := List Char → Option (α × List Char)

/-! ### Blanks and lines -/

/-- A blank within a line. -/
def isBlank (c : Char) : Bool := c == ' ' || c == '\t'

/-- A character outside ASCII. -/
def isWide (c : Char) : Bool := 0x80 ≤ c.toNat

/-- The text behind blanks. -/
def skipBlanks (text : List Char) : List Char := text.dropWhile isBlank

/-- The text behind the end of a line. -/
def newLine? : List Char → Option (List Char)
  | '\n' :: rest => some rest
  | '\r' :: '\n' :: rest => some rest
  | _ => none

/-- A character of a comment. -/
def isCommentChar (c : Char) : Bool := c == '\t' || (0x20 ≤ c.toNat && c.toNat ≤ 0x7E) || isWide c

/-- The text behind a comment, if there is one. -/
def skipComment : List Char → List Char
  | '#' :: rest => rest.dropWhile isCommentChar
  | text => text

/-- The text behind the blanks and the comment that end a line. -/
def lineEnd? (text : List Char) : Option (List Char) :=
  match skipComment (skipBlanks text) with
  | [] => some []
  | rest => newLine? rest

/-- The text behind blanks, comments and ends of lines; `limit` bounds their number. -/
def skipLayout (limit : Nat) (text : List Char) : List Char :=
  match limit with
  | 0 => text
  | limit + 1 =>
    let rest := skipComment (skipBlanks text)
    match newLine? rest with
    | some behind => skipLayout limit behind
    | none => rest

/-! ### Strings -/

/-- The value of a hexadecimal digit. -/
def hexValue? (c : Char) : Option Nat :=
  if c.isDigit then some (c.toNat - 48)
  else if 'a' ≤ c && c ≤ 'f' then some (c.toNat - 87)
  else if 'A' ≤ c && c ≤ 'F' then some (c.toNat - 55)
  else none

/-- The character whose code has the given number of hexadecimal digits. -/
def hexChar? (count : Nat) : Reader Char := fun text =>
  let digits := text.take count
  let code := digits.foldl (fun n d => 16 * n + (hexValue? d).getD 0) 0
  if digits.length = count && digits.all (hexValue? · |>.isSome) && code.isValidChar then
    some (Char.ofNat code, text.drop count)
  else none

/-- What stands behind a backslash. -/
def escape? : Reader Char
  | 'b' :: rest => some ('\x08', rest)
  | 'f' :: rest => some ('\x0C', rest)
  | 'n' :: rest => some ('\n', rest)
  | 'r' :: rest => some ('\r', rest)
  | 't' :: rest => some ('\t', rest)
  | '"' :: rest => some ('"', rest)
  | '\\' :: rest => some ('\\', rest)
  | 'u' :: rest => hexChar? 4 rest
  | 'U' :: rest => hexChar? 8 rest
  | _ => none

/-- A character that stands for itself between double quotes. -/
def isBasicChar (c : Char) : Bool :=
  c == '\t' || (0x20 ≤ c.toNat && c.toNat ≤ 0x7E && c != '"' && c != '\\') || isWide c

/-- A character that stands for itself between single quotes. -/
def isLiteralChar (c : Char) : Bool :=
  c == '\t' || (0x20 ≤ c.toNat && c.toNat ≤ 0x7E && c != '\'') || isWide c

/-- Reads a string of one line behind its opening double quote; `acc` has what was read before,
the last character first, and `limit` bounds the characters that are left. -/
def basicString (acc : List Char) : Nat → Reader String
  | 0, _ => none
  | limit + 1, text =>
    match text with
    | '"' :: rest => some (String.ofList acc.reverse, rest)
    | '\\' :: rest =>
      match escape? rest with
      | some (c, rest) => basicString (c :: acc) limit rest
      | none => none
    | c :: rest => if isBasicChar c then basicString (c :: acc) limit rest else none
    | [] => none

/-- Reads a string of one line behind its opening single quote. -/
def literalString : Reader String := fun text =>
  let body := text.takeWhile isLiteralChar
  match text.drop body.length with
  | '\'' :: rest => some (String.ofList body, rest)
  | _ => none

/-- A run of quotes within or at the end of a string of several lines: fewer than three stand for
themselves; three close the string, and up to two before them stand for themselves. -/
def quoteRun (quote : Char) (text : List Char) : Option (List Char × Bool × List Char) :=
  let count := (text.takeWhile (· == quote)).length
  let rest := text.drop count
  if count < 3 then some (List.replicate count quote, false, rest)
  else if count ≤ 5 then some (List.replicate (count - 3) quote, true, rest)
  else none

/-- The text behind a backslash, the end of its line, and all blanks and ends of lines that
follow. -/
def continuation? (limit : Nat) (text : List Char) : Option (List Char) :=
  (newLine? (skipBlanks text)).map (go limit)
where
  /-- Skips blanks and ends of lines. -/
  go : Nat → List Char → List Char
    | 0, text => text
    | limit + 1, text =>
      match newLine? (skipBlanks text) with
      | some rest => go limit rest
      | none => skipBlanks text

/-- Reads a string of several lines behind its opening quotes and the end of line after them. -/
def longString (quote : Char) (acc : List Char) : Nat → Reader String
  | 0, _ => none
  | limit + 1, text =>
    match newLine? text with
    | some rest => longString quote ('\n' :: acc) limit rest
    | none =>
      match text with
      | [] => none
      | c :: rest =>
        if c == quote then
          match quoteRun quote text with
          | some (quotes, true, rest) => some (String.ofList (quotes ++ acc).reverse, rest)
          | some (quotes, false, rest) => longString quote (quotes ++ acc) limit rest
          | none => none
        else if quote == '"' && c == '\\' then
          match continuation? limit rest with
          | some rest => longString quote acc limit rest
          | none =>
            match escape? rest with
            | some (c, rest) => longString quote (c :: acc) limit rest
            | none => none
        else if (if quote == '"' then isBasicChar c else isLiteralChar c) then
          longString quote (c :: acc) limit rest
        else none

/-- A string of one line. -/
def shortString? : Reader String
  | '"' :: rest => basicString [] (rest.length + 1) rest
  | '\'' :: rest => literalString rest
  | _ => none

/-- A string. -/
def string? : Reader String := fun text =>
  let long := fun (quote : Char) (rest : List Char) =>
    longString quote [] (rest.length + 1) ((newLine? rest).getD rest)
  match text with
  | '"' :: '"' :: '"' :: rest => long '"' rest
  | '\'' :: '\'' :: '\'' :: rest => long '\'' rest
  | text => shortString? text

/-! ### Numbers -/

/-- Digits of some kind with single underscores between them. -/
def digitRun (isDigit : Char → Bool) : Reader (List Char) := fun text =>
  match text with
  | d :: rest =>
    if isDigit d then (go rest.length rest).map fun (ds, rest) => (d :: ds, rest) else none
  | [] => none
where
  /-- Reads on behind a digit; the number bounds the characters that are left. -/
  go : Nat → Reader (List Char)
    | 0, text => some ([], text)
    | limit + 1, text =>
      match text with
      | '_' :: d :: rest =>
        if isDigit d then (go limit rest).map fun (ds, rest) => (d :: ds, rest) else none
      | ['_'] => none
      | d :: rest =>
        if isDigit d then (go limit rest).map fun (ds, rest) => (d :: ds, rest)
        else some ([], d :: rest)
      | [] => some ([], [])

/-- The number that digits denote. -/
def numberOf (base : Nat) (digits : List Char) : Nat :=
  digits.foldl (fun n d => base * n + (hexValue? d).getD 0) 0

/-- A sign, if there is one: whether it is a minus. -/
def sign (text : List Char) : Bool × List Char :=
  match text with
  | '+' :: rest => (false, rest)
  | '-' :: rest => (true, rest)
  | text => (false, text)

/-- Decimal digits, of which the first is a zero only if it is the only one. -/
def wholeDigits : Reader (List Char)
  | '0' :: rest => some (['0'], rest)
  | text => digitRun Char.isDigit text

/-- The exponent behind its letter, with its sign. -/
def exponent? : Reader (Bool × List Char)
  | c :: rest =>
    if c == 'e' || c == 'E' then
      let (down, rest) := sign rest
      (digitRun Char.isDigit rest).map fun (ds, rest) => ((down, ds), rest)
    else none
  | [] => none

/-- The floating-point number nearest to `digits * 10 ^ power`. -/
def decimalFloat (negative : Bool) (digits : List Char) (power : Int) : Binary64 :=
  let n := numberOf 10 digits
  -- beyond these powers nothing but zero and infinity is left
  let bound : Int := 400 + digits.length
  let power := max (-bound) (min power bound)
  Binary64.ofRatio negative (n * Nat.pow 10 power.toNat) (Nat.pow 10 (-power).toNat)

/-- What the characters behind the whole part of a number make of it. -/
inductive Tail where
  | none
  | float (fraction : List Char) (exponent : Bool × List Char) (rest : List Char)
  | invalid

/-- Reads a fraction or an exponent or both. -/
def floatTail (text : List Char) : Tail :=
  let withExponent := fun (fraction rest : List Char) =>
    match rest with
    | c :: _ =>
      if c == 'e' || c == 'E' then
        match exponent? rest with
        | some (e, rest) => Tail.float fraction e rest
        | .none => .invalid
      else .float fraction (false, []) rest
    | [] => .float fraction (false, []) []
  match text with
  | '.' :: rest =>
    match digitRun Char.isDigit rest with
    | some (fraction, rest) => withExponent fraction rest
    | .none => .invalid
  | c :: _ => if c == 'e' || c == 'E' then withExponent [] text else .none
  | [] => .none

/-- Infinity, or what is not a number, with a sign; none of these is finite. -/
def special? : Reader Binary64 := fun text =>
  let (negative, rest) := sign text
  match rest with
  | 'i' :: 'n' :: 'f' :: rest => some (Binary64.ofMagnitude negative Binary64.infinityBits, rest)
  | 'n' :: 'a' :: 'n' :: rest =>
    let quiet := Binary64.infinityBits + Binary64.significandSize / 2
    some (Binary64.ofMagnitude negative quiet, rest)
  | _ => none

/-- A whole number in the range of 64 bits with a sign. -/
def inRange (n : Int) : Option Int :=
  if -9223372036854775808 ≤ n ∧ n < 9223372036854775808 then some n else none

/-- A whole number with a base of its own, behind the mark of the base. -/
def basedInteger (base : Nat) (isDigit : Char → Bool) : Reader Node := fun text =>
  match digitRun isDigit text with
  | none => none
  | some (digits, rest) => (inRange (numberOf base digits)).map fun n => (.integer n, rest)

/-- A number. -/
def number? : Reader Node := fun text =>
  match special? text with
  | some (x, rest) => some (.float x, rest)
  | none =>
    let (negative, body) := sign text
    match text with
    | '0' :: 'x' :: rest => basedInteger 16 (hexValue? · |>.isSome) rest
    | '0' :: 'o' :: rest => basedInteger 8 (fun c => '0' ≤ c && c ≤ '7') rest
    | '0' :: 'b' :: rest => basedInteger 2 (fun c => c == '0' || c == '1') rest
    | _ =>
      match wholeDigits body with
      | none => none
      | some (whole, rest) =>
        match floatTail rest with
        | .invalid => none
        | .none =>
          let n : Int := numberOf 10 whole
          (inRange (if negative then -n else n)).map fun n => (.integer n, rest)
        | .float fraction (down, digits) rest =>
          let e : Int := numberOf 10 digits
          let power := (if down then -e else e) - fraction.length
          let x := decimalFloat negative (whole ++ fraction) power
          if x.isFinite || negative then some (.float x, rest) else none

/-! ### Dates and times -/

/-- A number of exactly so many digits, between two bounds, with its digits. -/
def fixedDigits (count lo hi : Nat) : Reader (List Char) := fun text =>
  let digits := text.take count
  if digits.length = count && digits.all Char.isDigit && lo ≤ numberOf 10 digits &&
      numberOf 10 digits ≤ hi then
    some (digits, text.drop count)
  else none

/-- One of some characters. -/
def anyOf (cs : List Char) : Reader Char
  | c :: rest => if cs.contains c then some (c, rest) else none
  | [] => none

/-- The number of days of a month. -/
def daysIn (year month : Nat) : Nat :=
  if month = 2 then
    if year % 4 = 0 && (year % 100 ≠ 0 || year % 400 = 0) then 29 else 28
  else if month = 4 || month = 6 || month = 9 || month = 11 then 30
  else 31

/-- What a part of a text that may be of some kind turns out to be. -/
inductive Trial (α : Type) where
  | other
  | invalid
  | found (value : α) (rest : List Char)

/-- The fraction of a second: nine digits at most count, and zeros at their end do not. -/
def secondFraction : Reader (List Char) := fun text =>
  match text with
  | '.' :: rest =>
    let digits := rest.takeWhile Char.isDigit
    if digits.isEmpty then some ([], text)
    else
      let kept := ((digits.take 9).reverse.dropWhile (· == '0')).reverse
      some (if kept.isEmpty then [] else '.' :: kept, rest.drop digits.length)
  | text => some ([], text)

/-- A time of day. -/
def time (text : List Char) : Trial (List Char) :=
  match fixedDigits 2 0 23 text with
  | none => .other
  | some (hour, rest) =>
    match rest with
    | ':' :: rest =>
      let parts := do
        let (minute, rest) ← fixedDigits 2 0 59 rest
        let (_, rest) ← anyOf [':'] rest
        let (second, rest) ← fixedDigits 2 0 60 rest
        let (fraction, rest) ← secondFraction rest
        return (hour ++ ':' :: minute ++ ':' :: second ++ fraction, rest)
      match parts with
      | some (written, rest) => .found written rest
      | none => .invalid
    | _ => .other

/-- The offset of a time from the universal time. -/
def offset (text : List Char) : Trial (List Char) :=
  match text with
  | c :: rest =>
    if c == 'Z' || c == 'z' then .found ['Z'] rest
    else if c == '+' || c == '-' then
      let parts := do
        let (hour, rest) ← fixedDigits 2 0 23 rest
        let (_, rest) ← anyOf [':'] rest
        let (minute, rest) ← fixedDigits 2 0 59 rest
        return (hour, minute, rest)
      match parts with
      | some (hour, minute, rest) =>
        let sign := if numberOf 10 hour = 0 && numberOf 10 minute = 0 then '+' else c
        .found (sign :: hour ++ ':' :: minute) rest
      | none => .invalid
    else .other
  | [] => .other

/-- A date. -/
def date (text : List Char) : Trial (List Char) :=
  match fixedDigits 4 0 9999 text with
  | none => .other
  | some (year, rest) =>
    match rest with
    | '-' :: rest =>
      let parts := do
        let (month, rest) ← fixedDigits 2 1 12 rest
        let (_, rest) ← anyOf ['-'] rest
        let (day, rest) ← fixedDigits 2 1 31 rest
        if numberOf 10 day ≤ daysIn (numberOf 10 year) (numberOf 10 month) then
          return (year ++ '-' :: month ++ '-' :: day, rest)
        else none
      match parts with
      | some (written, rest) => .found written rest
      | none => .invalid
    | _ => .other

/-- A date, a time, or both, in the written form: a capital letter between date and time. -/
def datetime (text : List Char) : Trial String :=
  match date text with
  | .invalid => .invalid
  | .found day rest =>
    let alone := Trial.found (String.ofList day) rest
    match anyOf ['T', 't', ' '] rest with
    | none => alone
    | some (_, behind) =>
      match time behind with
      | .other => alone
      | .invalid => .invalid
      | .found clock rest =>
        let local_ := day ++ 'T' :: clock
        match offset rest with
        | .other => .found (String.ofList local_) rest
        | .invalid => .invalid
        | .found o rest => .found (String.ofList (local_ ++ o)) rest
  | .other =>
    match time text with
    | .other => .other
    | .invalid => .invalid
    | .found clock rest => .found (String.ofList clock) rest

end OfflineManifest.Toml
