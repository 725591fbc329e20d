import OfflineManifest.Digest.Mixing

/-! # Stripes and lanes

Longer inputs are cut into stripes of 64 bytes, which are mixed one after the other into eight
lanes. Each stripe uses its own part of the secret, the parts coming round every sixteen stripes;
then the lanes are scrambled. A stripe is absorbed only when a further byte follows it, because the
last 64 bytes of the input are absorbed once more at the end, in a way of their own.
-/

namespace OfflineManifest.Digest

/-- The state between two stripes: eight lanes, and the number of stripes absorbed. -/
structure Lanes where
  values : List UInt64
  count : Nat
  deriving DecidableEq, Repr

/-- The number of bytes of a stripe. -/
def stripeSize : Nat := 64

/-- The 64-bit words of a stripe. -/
def stripeWords (stripe : List UInt8) : List UInt64 :=
  (List.range 8).map fun i => word64 stripe (8 * i)

/-- The words of a stripe with the two of each pair exchanged. -/
def exchanged : List UInt64 → List UInt64
  | a :: b :: rest => b :: a :: exchanged rest
  | rest => rest

namespace Lanes

/-- The lanes before the first stripe. -/
def start : Lanes :=
  ⟨[prime32₃, prime64₁, prime64₂, prime64₃, prime64₄, prime32₂, prime64₅, prime32₁], 0⟩

/-- The eight words of the secret from an offset on. -/
def keys (offset : Nat) : List UInt64 := (List.range 8).map fun i => secretAt (offset + 8 * i)

/-- The product of the two halves of a word. -/
def halvesProduct (k : UInt64) : UInt64 :=
  let low : UInt64 := k &&& 0xffffffff
  let high : UInt64 := k >>> 32
  low * high

/-- The lanes after a stripe, given the offset in the secret. -/
def accumulate (offset : Nat) (values : List UInt64) (stripe : List UInt8) : List UInt64 :=
  let words := stripeWords stripe
  let keyed := List.zipWith (· ^^^ ·) words (keys offset)
  List.zipWith (· + ·) (List.zipWith (· + ·) values (exchanged words)) (keyed.map halvesProduct)

/-- A lane scrambled with a word of the secret. -/
def scrambleLane (v k : UInt64) : UInt64 := (v ^^^ (v >>> 47) ^^^ k) * prime32₁

/-- The scrambling after sixteen stripes. -/
def scramble (values : List UInt64) : List UInt64 := List.zipWith scrambleLane values (keys 128)

/-- **One stripe more.** -/
def absorb (lanes : Lanes) (stripe : List UInt8) : Lanes :=
  let round := lanes.count % 16
  let values := accumulate (8 * round) lanes.values stripe
  ⟨if round = 15 then scramble values else values, lanes.count + 1⟩

/-- One half of a digest, from the lanes. -/
def merge (values : List UInt64) (offset : Nat) (start : UInt64) : UInt64 :=
  let keyed := List.zipWith (· ^^^ ·) values (keys offset)
  let rec pairs : List UInt64 → UInt64
    | a :: b :: rest => foldedProduct a b + pairs rest
    | _ => 0
  avalanche (start + pairs keyed)

/-- The digest of an input of `n` bytes, from the lanes before its last 64 bytes. -/
def finish (lanes : Lanes) (n : Nat) (last : List UInt8) : Digest :=
  let values := accumulate 121 lanes.values last
  let n := UInt64.ofNat n
  ⟨merge values 11 (n * prime64₁), merge values 117 (~~~(n * prime64₂))⟩

theorem length_drop_stripeSize_lt {bytes : List UInt8}
    (h : ¬(bytes.drop stripeSize).isEmpty = true) :
    (bytes.drop stripeSize).length < bytes.length := by
  have following : bytes.drop stripeSize ≠ [] := fun e => h (by rw [e]; rfl)
  have := List.length_pos_iff.mpr following
  simp only [List.length_drop, stripeSize] at this ⊢
  omega

/-- The lanes after all stripes of an input that a further byte follows, and the bytes behind
them. -/
def absorbAll (lanes : Lanes) (bytes : List UInt8) : Lanes × List UInt8 :=
  if h : (bytes.drop stripeSize).isEmpty then (lanes, bytes)
  else
    have := length_drop_stripeSize_lt h
    absorbAll (lanes.absorb (bytes.take stripeSize)) (bytes.drop stripeSize)
termination_by bytes.length
decreasing_by assumption

end Lanes

end OfflineManifest.Digest
