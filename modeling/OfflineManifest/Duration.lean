/-! # Durations

A duration is written as a sequence of *tokens*, a run of ASCII digits followed by a unit: `1d12h`,
`30m`. Text before the first digit and a digit run at the very end, without a unit, say nothing.
The value is a number of milliseconds that fits 64 bits.

* `Duration.tokens` cuts a text into its tokens.
* `Duration.total` adds them up in 64 bits and stops at the first token whose unit is unknown or at
  which a number does not fit.
* `Duration.parse` is both in a row.
-/

namespace OfflineManifest.Duration

/-! ### Numbers of 64 bits -/

/-- A product, if it fits. -/
def mul? (a b : UInt64) : Option UInt64 :=
  if a.toNat * b.toNat < UInt64.size then some (a * b) else none

/-- A sum, if it fits. -/
def add? (a b : UInt64) : Option UInt64 :=
  if a.toNat + b.toNat < UInt64.size then some (a + b) else none

/-- A number with one more digit behind it, if that fits. -/
def appendDigit? (n : UInt64) (digit : Char) : Option UInt64 := do
  let shifted ← mul? n 10
  add? shifted (UInt64.ofNat (digit.toNat - '0'.toNat))

/-! ### Tokens -/

/-- A magnitude and what is written between it and the next digit. -/
structure Token where
  digits : List Char
  unit : List Char
  deriving DecidableEq, Repr

namespace Token

/-- The token as it is written. -/
def text (t : Token) : List Char := t.digits ++ t.unit

/-- The number that the digits denote, if it fits. -/
def magnitude? (t : Token) : Option UInt64 := t.digits.foldlM appendDigit? 0

/-- Milliseconds per unit: days, hours, minutes, seconds, and the millisecond itself. -/
def factor? (t : Token) : Option UInt64 :=
  match t.unit with
  | ['d'] => some 86400000
  | ['h'] => some 3600000
  | ['m'] => some 60000
  | ['s'] => some 1000
  | ['u'] => some 1
  | _ => none

/-- A sum of milliseconds and those that a token stands for, if the unit is known and every number
on the way fits. -/
def addTo? (sum : UInt64) (t : Token) : Option UInt64 := do
  let magnitude ← t.magnitude?
  let factor ← t.factor?
  let milliseconds ← mul? magnitude factor
  add? sum milliseconds

end Token

/-- The tokens of a text, from the left. -/
def tokens (text : List Char) : List Token :=
  match text with
  | [] => []
  | c :: rest =>
    if c.isDigit then
      let digits := c :: rest.takeWhile Char.isDigit
      let afterDigits := rest.dropWhile Char.isDigit
      let unit := afterDigits.takeWhile (!·.isDigit)
      if unit.isEmpty then [] else ⟨digits, unit⟩ :: tokens (afterDigits.dropWhile (!·.isDigit))
    else tokens rest
termination_by text.length
decreasing_by
  · have h₁ := (List.dropWhile_suffix Char.isDigit (l := rest)).length_le
    have h₂ := (List.dropWhile_suffix (!·.isDigit) (l := rest.dropWhile Char.isDigit)).length_le
    simp only [List.length_cons]
    omega
  · simp

/-- The sum of the tokens on top of `sum`, or the first token that cannot be added. -/
def total (sum : UInt64) : List Token → Except Token UInt64
  | [] => .ok sum
  | t :: rest =>
    match t.addTo? sum with
    | some sum => total sum rest
    | none => .error t

/-- A text that is no duration, and the token at which that shows. -/
structure Malformed where
  input : String
  token : String
  deriving DecidableEq, Repr

/-- The wording of the error. -/
def Malformed.message (e : Malformed) : String :=
  s!"not a valid duration: '{e.token}' in '{e.input}'"

/-- **Reads a duration.** -/
def parse (input : String) : Except Malformed UInt64 :=
  (total 0 (tokens input.toList)).mapError fun t => ⟨input, String.ofList t.text⟩

end OfflineManifest.Duration
