import OfflineManifest.Decimal.Binary64

/-! # Shortest decimals

Of the decimals that round to a floating-point number, the *shortest* has the fewest digits and,
among those, lies nearest to the number; of two that lie equally near, the one with the even last
digit is taken. It is found on the grids of decimals with one, two, … and
seventeen digits: on each grid the two neighbours of the number are tried, in exact arithmetic.
-/

namespace OfflineManifest.Decimal

/-- The decimal `digits * 10 ^ exponent`. -/
structure Scaled where
  digits : Nat
  exponent : Int
  deriving DecidableEq, Repr

/-- A decimal as a fraction. -/
def Scaled.ratio (d : Scaled) : Nat × Nat :=
  (d.digits * Nat.pow 10 d.exponent.toNat, Nat.pow 10 (-d.exponent).toNat)

/-- Whether a decimal rounds to a positive number. -/
def Scaled.readsBack (d : Scaled) (x : Binary64) : Bool :=
  let (num, den) := d.ratio
  (Binary64.ofRatio false num den).magnitudeBits == x.magnitudeBits

/-- The distance of a decimal from a fraction, with the denominators multiplied out. -/
def Scaled.distance (d : Scaled) (num den : Nat) : Nat :=
  let (a, b) := d.ratio
  let (p, q) := (a * den, num * b)
  if p ≤ q then q - p else p - q

/-- The exponent `k` with `10 ^ k ≤ num / den < 10 ^ (k + 1)`, for a positive fraction. -/
def leadingExponent (num den : Nat) : Int :=
  if den ≤ num then
    ((Nat.toDigits 10 (num / den)).length : Int) - 1
  else
    -- the least power of ten that lifts the fraction to at least one
    let digits := (Nat.toDigits 10 (den / num)).length
    if den ≤ num * Nat.pow 10 (digits - 1) then 1 - (digits : Int) else -(digits : Int)

/-- The neighbours of a fraction on the grid of multiples of a power of ten. -/
def neighbours (num den : Nat) (exponent : Int) : Scaled × Scaled :=
  let below := num * Nat.pow 10 (-exponent).toNat / (den * Nat.pow 10 exponent.toNat)
  (⟨below, exponent⟩, ⟨below + 1, exponent⟩)

/-- The nearer one of the neighbours that read back, the even one if both are equally near. -/
def onGrid? (x : Binary64) (num den : Nat) (exponent : Int) : Option Scaled :=
  let (below, above) := neighbours num den exponent
  match below.readsBack x, above.readsBack x with
  | true, true =>
    match compare (below.distance num den) (above.distance num den) with
    | .lt => some below
    | .gt => some above
    | .eq => if below.digits % 2 = 0 then some below else some above
  | true, false => some below
  | false, true => some above
  | false, false => none

/-- A decimal without zeros at the end of its digits. -/
def Scaled.trimmed (d : Scaled) : Scaled :=
  go d d.digits.log2
where
  /-- Drops zeros; the number bounds how many there are. -/
  go (d : Scaled) : Nat → Scaled
    | 0 => d
    | n + 1 => if d.digits % 10 = 0 then go ⟨d.digits / 10, d.exponent + 1⟩ n else d

/-- **The shortest decimal** of the magnitude of a finite number. -/
def shortest (x : Binary64) : Scaled :=
  if x.isZero then ⟨0, 0⟩
  else
    let (num, den) := x.ratio
    let lead := leadingExponent num den
    let found := (List.range 17).findSome? fun (n : Nat) => onGrid? x num den (lead - (n : Int))
    (found.getD ⟨0, 0⟩).trimmed

end OfflineManifest.Decimal
