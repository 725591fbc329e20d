/-! # Floating-point numbers of 64 bits

A number is given by its bits: a sign, eleven bits of exponent, 52 bits of significand. Arithmetic
is exact on fractions of natural numbers and rounds once, to the nearest number and from the middle
between two numbers to the one with the even significand (`Binary64.ofRatio`).
-/

namespace OfflineManifest

/-- A floating-point number of 64 bits. -/
structure Binary64 where
  bits : UInt64
  deriving DecidableEq, Repr

namespace Binary64

/-- The sign bit, `2 ^ 63`. -/
def signBit : Nat := 9223372036854775808

/-- The number of values of the significand's bits, `2 ^ 52`. -/
def significandSize : Nat := 4503599627370496

/-- Whether the sign bit is set. -/
def isNegative (x : Binary64) : Bool := signBit ≤ x.bits.toNat

/-- The bits without the sign. -/
def magnitudeBits (x : Binary64) : Nat := x.bits.toNat % signBit

/-- The magnitude bits of infinity; those of numbers are smaller. -/
def infinityBits : Nat := 2047 * significandSize

/-- Whether the number is neither infinite nor not a number at all. -/
def isFinite (x : Binary64) : Bool := x.magnitudeBits < infinityBits

/-- Whether the number is zero, of either sign. -/
def isZero (x : Binary64) : Bool := x.magnitudeBits == 0

/-- The number with the given magnitude bits and sign. -/
def ofMagnitude (negative : Bool) (magnitude : Nat) : Binary64 :=
  ⟨UInt64.ofNat (magnitude + if negative then signBit else 0)⟩

/-- The significand `m` and the exponent `e` of the magnitude `m * 2 ^ e`, `e` counted from the
smallest one, -1074. -/
def parts (x : Binary64) : Nat × Nat :=
  let field := x.magnitudeBits / significandSize
  let fraction := x.magnitudeBits % significandSize
  if field = 0 then (fraction, 0) else (fraction + significandSize, field - 1)

/-- The magnitude as a fraction. -/
def ratio (x : Binary64) : Nat × Nat :=
  let (m, e) := x.parts
  (m * Nat.pow 2 e, Nat.pow 2 1074)

/-- A fraction rounded to a natural number, from the middle to the even one. -/
def roundEven (num den : Nat) : Nat :=
  let q := num / den
  let twice := 2 * (num % den)
  if twice < den then q else if den < twice then q + 1 else q + q % 2

/-- **The number nearest to a fraction**, infinity if the fraction is too large. -/
def ofRatio (negative : Bool) (num den : Nat) : Binary64 :=
  -- the fraction in units of the smallest number
  let units := num * Nat.pow 2 1074
  -- the least exponent at which the significand has at most 53 bits
  let e := (units / den).log2 - 52
  let magnitude := roundEven units (den * Nat.pow 2 e) + e * significandSize
  ofMagnitude negative (min magnitude infinityBits)

/-- The natural number `n`, rounded. -/
def ofNat (n : Nat) : Binary64 := ofRatio false n 1

/-- The product of two numbers. -/
def mul (x y : Binary64) : Binary64 :=
  let (a, b) := x.ratio
  let (c, d) := y.ratio
  ofRatio (x.isNegative != y.isNegative) (a * c) (b * d)

/-- The quotient of two numbers, the second one not zero. -/
def div (x y : Binary64) : Binary64 :=
  let (a, b) := x.ratio
  let (c, d) := y.ratio
  ofRatio (x.isNegative != y.isNegative) (a * d) (b * c)

/-- The number with the opposite sign. -/
def neg (x : Binary64) : Binary64 := ofMagnitude (!x.isNegative) x.magnitudeBits

/-- Zero. -/
def zero : Binary64 := ⟨0⟩

end Binary64

end OfflineManifest
