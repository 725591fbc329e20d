import OfflineManifest.Digest.Short
import OfflineManifest.Digest.Stripes

/-! # Digests of files

`Digest.ofBytes` is the digest of an input at hand. A `Digest.Hasher` takes the input in pieces of
any sizes; it keeps the first 240 bytes, the lanes, the last stripe that went into them, and the
bytes that have not. A digest is written as 32 hexadecimal digits, the least significant byte first.
-/

namespace OfflineManifest.Digest

/-- The length up to which the formulas for short inputs hold. -/
def shortLimit : Nat := 240

/-- **The digest of an input.** -/
def ofList (bytes : List UInt8) : Digest :=
  let n := bytes.length
  if n ≤ shortLimit then ofShort bytes
  else (Lanes.start.absorbAll bytes).1.finish n (bytes.drop (n - stripeSize))

/-- The digest of the contents of a file. -/
def ofBytes (bytes : ByteArray) : Digest := ofList bytes.data.toList

/-! ### Input in pieces -/

/-- What is known of an input of which some pieces have arrived. -/
structure Hasher where
  length : Nat
  /-- the first bytes, as far as the formulas for short inputs need them -/
  head : List UInt8
  lanes : Lanes
  /-- the last stripe in the lanes -/
  recent : List UInt8
  /-- the bytes behind it -/
  pending : List UInt8
  deriving DecidableEq, Repr

namespace Hasher

/-- Nothing has arrived. -/
def empty : Hasher := ⟨0, [], Lanes.start, [], []⟩

/-- **Another piece has arrived.** -/
def update (h : Hasher) (piece : List UInt8) : Hasher :=
  let bytes := h.pending ++ piece
  let (lanes, pending) := h.lanes.absorbAll bytes
  let absorbed := bytes.take (bytes.length - pending.length)
  { length := h.length + piece.length
    head := h.head ++ piece.take (shortLimit - h.head.length)
    lanes
    recent := if absorbed.isEmpty then h.recent else absorbed.drop (absorbed.length - stripeSize)
    pending }

/-- The digest of all that has arrived. -/
def digest (h : Hasher) : Digest :=
  if h.length ≤ shortLimit then ofShort h.head
  else
    let bytes := h.recent ++ h.pending
    h.lanes.finish h.length (bytes.drop (bytes.length - stripeSize))

end Hasher

/-- The digest of an input that arrives in pieces. -/
def ofPieces (pieces : List (List UInt8)) : Digest := (pieces.foldl Hasher.update .empty).digest

/-- An input cut into pieces of a size, the last one shorter if need be. -/
def inPieces (size : Nat) (bytes : List UInt8) : List (List UInt8) :=
  match size, bytes with
  | 0, _ | _, [] => []
  | n + 1, b :: rest => (b :: rest.take n) :: inPieces (n + 1) (rest.drop n)
termination_by bytes.length
decreasing_by simp only [List.length_drop, List.length_cons]; omega

/-- The size of the pieces in which a file is read. -/
def pieceSize : Nat := 65536

/-- The digest of a file that is read in pieces. -/
def ofFile (bytes : ByteArray) : Digest := ofPieces (inPieces pieceSize bytes.data.toList)

/-! ### The written form -/

/-- A hexadecimal digit. -/
def hexDigit (n : Nat) : Char := "0123456789abcdef".toList.getD n '0'

/-- The two hexadecimal digits of a byte. -/
def hexByte (n : Nat) : List Char := [hexDigit (n / 16 % 16), hexDigit (n % 16)]

/-- The bytes of a word, the least significant first. -/
def wordBytes (n : UInt64) : List Nat := (List.range 8).map fun i => n.toNat / Nat.pow 256 i % 256

/-- **The 32 hexadecimal digits of a digest.** -/
def hex (d : Digest) : String :=
  String.ofList ((wordBytes d.low ++ wordBytes d.high).flatMap hexByte)

/-- The first four digits, for display. -/
def abbreviated (d : Digest) : String := s!"ContentHash({(d.hex.take 4).toString}..)"

end OfflineManifest.Digest
