import Mathlib.Data.List.TakeWhile
import Mathlib.Data.Nat.Digits.Defs

/-! # Runs of digits

A run of characters of a kind ends where a character of another kind comes or nothing does
(`takeWhile_append_of_head?`, `dropWhile_append_of_head?`). The number that a run of digits denotes
only grows with its digits (`le_ofDigitChars`). -/

namespace OfflineManifest.Text

section Spans

variable {p : Char → Bool} {run rest : List Char}

theorem takeWhile_append_of_head? (hrun : ∀ c ∈ run, p c = true)
    (hrest : ∀ c ∈ rest.head?, p c = false) : (run ++ rest).takeWhile p = run := by
  rw [List.takeWhile_append_of_pos hrun]
  cases rest with
  | nil => simp
  | cons c rest => simp [hrest c rfl]

theorem dropWhile_append_of_head? (hrun : ∀ c ∈ run, p c = true)
    (hrest : ∀ c ∈ rest.head?, p c = false) : (run ++ rest).dropWhile p = rest := by
  rw [List.dropWhile_append_of_pos hrun]
  cases rest with
  | nil => rfl
  | cons c rest => simp [hrest c rfl]

end Spans

theorem le_ofDigitChars : ∀ (ds : List Char) (n : ℕ), n ≤ Nat.ofDigitChars 10 ds n
  | [], n => le_rfl
  | d :: ds, n => by
    rw [Nat.ofDigitChars_cons]
    exact le_trans (by omega) (le_ofDigitChars ds _)

end OfflineManifest.Text
