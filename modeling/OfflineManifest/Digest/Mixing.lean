/-! # Words and their mixing

The digest is XXH3 with 128 bits and seed zero. It reads its input as little-endian words and mixes
them with words of a fixed *secret* of 192 bytes, which may be read at any offset. A digest has two
64-bit halves.
-/

namespace OfflineManifest

/-- A digest of 128 bits. -/
structure Digest where
  low : UInt64
  high : UInt64
  deriving DecidableEq, Repr

namespace Digest

/-! ### Words -/

/-- The number that bytes denote, the least significant first. -/
def littleEndian (bytes : List UInt8) : UInt64 :=
  bytes.foldr (fun b n => (n <<< 8) ||| b.toUInt64) 0

/-- The 64-bit word at an offset. -/
def word64 (bytes : List UInt8) (offset : Nat) : UInt64 :=
  littleEndian ((bytes.drop offset).take 8)

/-- The 32-bit word at an offset. -/
def word32 (bytes : List UInt8) (offset : Nat) : UInt64 :=
  littleEndian ((bytes.drop offset).take 4)

/-- The secret. -/
def secret : List UInt8 :=
  [0xb8, 0xfe, 0x6c, 0x39, 0x23, 0xa4, 0x4b, 0xbe, 0x7c, 0x01, 0x81, 0x2c, 0xf7, 0x21, 0xad, 0x1c,
   0xde, 0xd4, 0x6d, 0xe9, 0x83, 0x90, 0x97, 0xdb, 0x72, 0x40, 0xa4, 0xa4, 0xb7, 0xb3, 0x67, 0x1f,
   0xcb, 0x79, 0xe6, 0x4e, 0xcc, 0xc0, 0xe5, 0x78, 0x82, 0x5a, 0xd0, 0x7d, 0xcc, 0xff, 0x72, 0x21,
   0xb8, 0x08, 0x46, 0x74, 0xf7, 0x43, 0x24, 0x8e, 0xe0, 0x35, 0x90, 0xe6, 0x81, 0x3a, 0x26, 0x4c,
   0x3c, 0x28, 0x52, 0xbb, 0x91, 0xc3, 0x00, 0xcb, 0x88, 0xd0, 0x65, 0x8b, 0x1b, 0x53, 0x2e, 0xa3,
   0x71, 0x64, 0x48, 0x97, 0xa2, 0x0d, 0xf9, 0x4e, 0x38, 0x19, 0xef, 0x46, 0xa9, 0xde, 0xac, 0xd8,
   0xa8, 0xfa, 0x76, 0x3f, 0xe3, 0x9c, 0x34, 0x3f, 0xf9, 0xdc, 0xbb, 0xc7, 0xc7, 0x0b, 0x4f, 0x1d,
   0x8a, 0x51, 0xe0, 0x4b, 0xcd, 0xb4, 0x59, 0x31, 0xc8, 0x9f, 0x7e, 0xc9, 0xd9, 0x78, 0x73, 0x64,
   0xea, 0xc5, 0xac, 0x83, 0x34, 0xd3, 0xeb, 0xc3, 0xc5, 0x81, 0xa0, 0xff, 0xfa, 0x13, 0x63, 0xeb,
   0x17, 0x0d, 0xdd, 0x51, 0xb7, 0xf0, 0xda, 0x49, 0xd3, 0x16, 0x55, 0x26, 0x29, 0xd4, 0x68, 0x9e,
   0x2b, 0x16, 0xbe, 0x58, 0x7d, 0x47, 0xa1, 0xfc, 0x8f, 0xf8, 0xb8, 0xd1, 0x7a, 0xd0, 0x31, 0xce,
   0x45, 0xcb, 0x3a, 0x8f, 0x95, 0x16, 0x04, 0x28, 0xaf, 0xd7, 0xfb, 0xca, 0xbb, 0x4b, 0x40, 0x7e]

/-- The 64-bit words of the secret, one for each offset. -/
def secretWords : Array UInt64 := ((List.range 185).map (word64 secret)).toArray

/-- The 64-bit word of the secret at an offset. -/
def secretAt (offset : Nat) : UInt64 := secretWords.getD offset 0

/-- The byte of a number at a distance from its right end, in bits. -/
def byteAt (n : UInt64) (shift : UInt64) : UInt64 :=
  let moved : UInt64 := n >>> shift
  moved &&& 0xff

/-- A 32-bit number with its bytes in the opposite order. -/
def swap32 (n : UInt64) : UInt64 :=
  (byteAt n 0 <<< 24) ||| (byteAt n 8 <<< 16) ||| (byteAt n 16 <<< 8) ||| byteAt n 24

/-- A 64-bit number with its bytes in the opposite order. -/
def swap64 (n : UInt64) : UInt64 :=
  let low : UInt64 := n &&& 0xffffffff
  let high : UInt64 := n >>> 32
  (swap32 low <<< 32) ||| swap32 high

/-- A 32-bit number turned to the left by less than 32 bits. -/
def rotate32 (n k : UInt64) : UInt64 :=
  let turned : UInt64 := (n <<< k) ||| (n >>> (32 - k))
  turned &&& 0xffffffff

/-! ### Mixing -/

def prime32₁ : UInt64 := 0x9E3779B1
def prime32₂ : UInt64 := 0x85EBCA77
def prime32₃ : UInt64 := 0xC2B2AE3D
def prime64₁ : UInt64 := 0x9E3779B185EBCA87
def prime64₂ : UInt64 := 0xC2B2AE3D27D4EB4F
def prime64₃ : UInt64 := 0x165667B19E3779F9
def prime64₄ : UInt64 := 0x85EBCA77C2B2AE63
def prime64₅ : UInt64 := 0x27D4EB2F165667C5

/-- The product of two words in full. -/
def product (a b : UInt64) : Digest :=
  let p := a.toNat * b.toNat
  ⟨UInt64.ofNat p, UInt64.ofNat (p / UInt64.size)⟩

/-- The two halves of a product in one word. -/
def foldedProduct (a b : UInt64) : UInt64 :=
  let p := product a b
  p.low ^^^ p.high

/-- The last step of short inputs: every bit of the word comes to depend on every other. -/
def strongAvalanche (h : UInt64) : UInt64 :=
  let h := (h ^^^ (h >>> 33)) * prime64₂
  let h := (h ^^^ (h >>> 29)) * prime64₃
  h ^^^ (h >>> 32)

/-- The last step of longer inputs. -/
def avalanche (h : UInt64) : UInt64 :=
  let h := (h ^^^ (h >>> 37)) * 0x165667919E3779F9
  h ^^^ (h >>> 32)

end Digest

end OfflineManifest
