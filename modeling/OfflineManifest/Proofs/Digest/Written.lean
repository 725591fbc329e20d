import Mathlib.Tactic.Ring
import OfflineManifest.Digest.Basic

/-! # The written form of digests

A digest is a number of 128 bits. Its written form has two hexadecimal digits for each of the 16
bytes of that number, the least significant byte first and in each byte the more significant digit
first (`toList_hex`). -/

namespace OfflineManifest.Digest

/-- **The number** that a digest denotes. -/
def value (d : Digest) : ℕ := d.low.toNat + 256 ^ 8 * d.high.toNat

/-- A byte of a number, counted from the least significant one. -/
def byte (n i : ℕ) : ℕ := n / 256 ^ i % 256

/-- The hexadecimal digits of a byte. -/
def digitPair (b : ℕ) : List Char := [Nat.digitChar (b / 16), Nat.digitChar (b % 16)]

theorem byte_add_of_lt (n m : ℕ) {i : ℕ} (hi : i < 8) : byte (n + 256 ^ 8 * m) i = byte n i := by
  have hpow : (256 : ℕ) ^ 8 * m = 256 ^ i * (256 * (256 ^ (7 - i) * m)) := by
    rw [← mul_assoc, ← mul_assoc, ← pow_succ, ← pow_add, show i + 1 + (7 - i) = 8 by omega]
  unfold byte
  rw [hpow, Nat.add_mul_div_left _ _ (Nat.pow_pos (by decide)), Nat.add_mul_mod_self_left]

theorem byte_add_of_le {n : ℕ} (hn : n < 256 ^ 8) (m i : ℕ) :
    byte (n + 256 ^ 8 * m) (8 + i) = byte m i := by
  unfold byte
  rw [pow_add, ← Nat.div_div_eq_div_mul, Nat.add_mul_div_left _ _ (Nat.pow_pos (by decide)),
    Nat.div_eq_of_lt hn, zero_add]

theorem hexByte_byte (n i : ℕ) : hexByte (byte n i) = digitPair (byte n i) := by
  have hdigit : ∀ k : Fin 16, hexDigit k = Nat.digitChar k := by decide
  have hbyte : byte n i < 256 := Nat.mod_lt _ (by decide)
  have hhigh : byte n i / 16 % 16 = byte n i / 16 := Nat.mod_eq_of_lt (by omega)
  have hlow : byte n i % 16 < 16 := Nat.mod_lt _ (by decide)
  unfold hexByte digitPair
  rw [hhigh, hdigit ⟨byte n i / 16, by omega⟩, hdigit ⟨byte n i % 16, hlow⟩]

theorem wordBytes_append (d : Digest) :
    wordBytes d.low ++ wordBytes d.high = (List.range 16).map (byte d.value) := by
  rw [show (16 : ℕ) = 8 + 8 from rfl, List.range_add, List.map_append, List.map_map]
  refine congrArg₂ (· ++ ·) ?_ ?_
  · exact List.map_congr_left fun i hi =>
      (byte_add_of_lt d.low.toNat d.high.toNat (List.mem_range.mp hi)).symm
  · exact List.map_congr_left fun i _ =>
      (byte_add_of_le d.low.toNat_lt d.high.toNat i).symm

/-- **The digits of a digest** are those of the bytes of its number, the least significant first. -/
theorem toList_hex (d : Digest) :
    d.hex.toList = (List.range 16).flatMap fun i => digitPair (byte d.value i) := by
  unfold hex
  rw [String.toList_ofList, wordBytes_append, List.flatMap_map]
  simp only [hexByte_byte]

theorem length_hex (d : Digest) : d.hex.length = 32 := by
  rw [← String.length_toList, toList_hex]
  rfl

end OfflineManifest.Digest
