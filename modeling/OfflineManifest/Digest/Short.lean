import OfflineManifest.Digest.Mixing

/-! # Digests of at most 240 bytes

Short inputs have a formula per class of lengths: none, up to 3, 8, 16, 128 and 240 bytes.
-/

namespace OfflineManifest.Digest

/-- The digest of the empty input. -/
def ofNone : Digest :=
  ⟨strongAvalanche (secretAt 64 ^^^ secretAt 72), strongAvalanche (secretAt 80 ^^^ secretAt 88)⟩

/-- The digest of one to three bytes. -/
def ofUpTo3 (bytes : List UInt8) : Digest :=
  let n := bytes.length
  let byte := fun i => (bytes.getD i 0).toUInt64
  let low := (byte 0 <<< 16) ||| (byte (n / 2) <<< 24) ||| byte (n - 1) ||| (UInt64.ofNat n <<< 8)
  let high := rotate32 (swap32 low) 13
  ⟨strongAvalanche (low ^^^ (word32 secret 0 ^^^ word32 secret 4)),
    strongAvalanche (high ^^^ (word32 secret 8 ^^^ word32 secret 12))⟩

/-- The digest of four to eight bytes. -/
def ofUpTo8 (bytes : List UInt8) : Digest :=
  let n := bytes.length
  let input := word32 bytes 0 + (word32 bytes (n - 4) <<< 32)
  let m := product (input ^^^ (secretAt 16 ^^^ secretAt 24)) (prime64₁ + (UInt64.ofNat n <<< 2))
  let high := m.high + (m.low <<< 1)
  let low := m.low ^^^ (high >>> 3)
  let low := (low ^^^ (low >>> 35)) * 0x9FB21C651E98DF25
  ⟨low ^^^ (low >>> 28), avalanche high⟩

/-- The digest of nine to sixteen bytes. -/
def ofUpTo16 (bytes : List UInt8) : Digest :=
  let n := bytes.length
  let first := word64 bytes 0
  let last := word64 bytes (n - 8)
  let m := product (first ^^^ last ^^^ (secretAt 32 ^^^ secretAt 40)) prime64₁
  let low := m.low + (UInt64.ofNat (n - 1) <<< 54)
  let last := last ^^^ (secretAt 48 ^^^ secretAt 56)
  let high := m.high + last + (last &&& 0xffffffff) * (prime32₂ - 1)
  let low := low ^^^ swap64 high
  let h := product low prime64₂
  ⟨avalanche h.low, avalanche (h.high + high * prime64₂)⟩

/-- Sixteen bytes mixed with sixteen of the secret. -/
def mix16 (bytes : List UInt8) (offset key : Nat) : UInt64 :=
  foldedProduct (word64 bytes offset ^^^ secretAt key)
    (word64 bytes (offset + 8) ^^^ secretAt (key + 8))

/-- Twice sixteen bytes mixed into a state. -/
def mix32 (bytes : List UInt8) (state : Digest) (a b key : Nat) : Digest :=
  ⟨(state.low + mix16 bytes a key) ^^^ (word64 bytes b + word64 bytes (b + 8)),
    (state.high + mix16 bytes b (key + 16)) ^^^ (word64 bytes a + word64 bytes (a + 8))⟩

/-- The end of the digest of 17 to 240 bytes. -/
def finishMedium (n : Nat) (state : Digest) : Digest :=
  let high := state.low * prime64₁ + state.high * prime64₄ + UInt64.ofNat n * prime64₂
  ⟨avalanche (state.low + state.high), 0 - avalanche high⟩

/-- The digest of 17 to 128 bytes: pairs from both ends towards the middle, the inner ones first. -/
def ofUpTo128 (bytes : List UInt8) : Digest :=
  let n := bytes.length
  let rounds := (n - 1) / 32
  let step := fun state i => mix32 bytes state (16 * i) (n - 16 * (i + 1)) (32 * i)
  finishMedium n ((List.range (rounds + 1)).reverse.foldl step ⟨UInt64.ofNat n * prime64₁, 0⟩)

/-- The digest of 129 to 240 bytes. -/
def ofUpTo240 (bytes : List UInt8) : Digest :=
  let n := bytes.length
  let early := fun state i => mix32 bytes state (32 * i) (32 * i + 16) (32 * i)
  let late := fun state i => mix32 bytes state (32 * (i + 4)) (32 * (i + 4) + 16) (32 * i + 3)
  let state := (List.range 4).foldl early ⟨UInt64.ofNat n * prime64₁, 0⟩
  let state : Digest := ⟨avalanche state.low, avalanche state.high⟩
  let state := (List.range (n / 32 - 4)).foldl late state
  finishMedium n (mix32 bytes state (n - 16) (n - 32) 103)

/-- The digest of at most 240 bytes. -/
def ofShort (bytes : List UInt8) : Digest :=
  let n := bytes.length
  if n = 0 then ofNone
  else if n ≤ 3 then ofUpTo3 bytes
  else if n ≤ 8 then ofUpTo8 bytes
  else if n ≤ 16 then ofUpTo16 bytes
  else if n ≤ 128 then ofUpTo128 bytes
  else ofUpTo240 bytes

end OfflineManifest.Digest
