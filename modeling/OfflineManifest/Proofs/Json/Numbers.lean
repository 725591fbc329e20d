import OfflineManifest.Proofs.Json.Grammar
import OfflineManifest.Proofs.Text.Digits

/-! # What numbers denote

A text that spells a number is read as that number, if nothing comes behind that takes it further
(`ofNumber_of_spelledBy`). A natural number is written with its decimal digits, and a negative
number with a sign before them; these digits spell a number (`spelledBy_naturalText`) that denotes
the one that was written (`value?_natural`, `value?_negative`). -/

namespace OfflineManifest.Json

variable {n : ℕ} {ds rest : List Char} {c : Char}

/-- No character comes first that takes a number further. -/
def Token.EndsNumber (rest : List Char) : Prop :=
  ∀ c ∈ rest.head?, c.isDigit = false ∧ c ≠ '.' ∧ c ≠ 'e' ∧ c ≠ 'E'

/-! ### Digits -/

theorem isDigit_of_mem_naturalText (h : c ∈ naturalText n) : c.isDigit = true :=
  Nat.isDigit_of_mem_toDigits (by decide) (by decide) h

theorem naturalText_ne_nil : naturalText n ≠ [] := Nat.toDigits_ne_nil

theorem digitChar_eq_zero : ∀ n < 10, n.digitChar = '0' → n = 0 := by
  decide

/-- Only zero starts with a zero. -/
theorem eq_zero_of_head? (h : (naturalText n).head? = some '0') : n = 0 := by
  unfold naturalText at h
  induction n using Nat.strong_induction_on with
  | _ n ih =>
    rw [Nat.toDigits_eq_if (by decide)] at h
    split at h
    · next hlt => exact digitChar_eq_zero n hlt (Option.some.inj h)
    · next hge =>
      rw [List.head?_append, Option.or_eq_some_iff] at h
      rcases h with h | ⟨hnone, -⟩
      · have := ih (n / 10) (by omega) h
        omega
      · exact absurd (List.head?_eq_none_iff.mp hnone) Nat.toDigits_ne_nil

namespace Numeral

theorem extend_eq : ∀ {ds : List Char} {n : ℕ}, Nat.ofDigitChars 10 ds n < UInt64.size →
    extend n ds = (Nat.ofDigitChars 10 ds n, ds.length, [])
  | [], n, _ => rfl
  | d :: ds, n, h => by
    rw [Nat.ofDigitChars_cons] at h ⊢
    have hstep : 10 * n + (d.toNat - '0'.toNat) < UInt64.size :=
      (Text.le_ofDigitChars ds _).trans_lt h
    have hzero : '0'.toNat = 48 := rfl
    rw [hzero] at h hstep ⊢
    unfold extend
    simp only [if_pos hstep]
    rw [extend_eq h]
    rfl

theorem extend_naturalText (h : n < UInt64.size) :
    extend 0 (naturalText n) = (n, (naturalText n).length, []) := by
  have hvalue : Nat.ofDigitChars 10 (naturalText n) 0 = n := Nat.ofDigitChars_ten_toDigits
  rw [extend_eq (hvalue.symm ▸ h), hvalue]

/-- The number that digits without fraction and exponent denote, if it is below `2 ^ 64`. -/
theorem value?_integer {k : Numeral} {count : ℕ} (h : extend 0 k.integer = (n, count, []))
    (hfraction : k.fraction = []) (hexponent : k.exponent = none) :
    k.value? =
      if !k.negative then .ok (.natural (UInt64.ofNat n))
      else if h : 0 < n ∧ n ≤ negativeLimit then .ok (.negative n h)
      else signedFloat true (Binary64.ofNat n) := by
  unfold value?
  rw [h]
  simp only [hfraction, hexponent, List.isEmpty_nil, Option.isNone_none, Bool.and_self, if_true]

/-- **The digits of a natural number denote it.** -/
theorem value?_natural (n : UInt64) :
    value? ⟨false, naturalText n.toNat, [], none⟩ = .ok (.natural n) := by
  rw [value?_integer (extend_naturalText n.toNat_lt_size) rfl rfl, UInt64.ofNat_toNat]
  exact if_pos rfl

/-- **The digits of a negative number denote it.** -/
theorem value?_negative (m : ℕ) (bounds : 0 < m ∧ m ≤ negativeLimit) :
    value? ⟨true, naturalText m, [], none⟩ = .ok (.negative m bounds) := by
  have hsize : m < UInt64.size := bounds.2.trans_lt (by decide)
  rw [value?_integer (extend_naturalText hsize) rfl rfl, dif_pos bounds]
  exact if_neg Bool.false_ne_true

end Numeral

/-! ### Reading digits -/

namespace Token

/-- No digit comes first. -/
def EndsDigits (rest : List Char) : Prop := ∀ c ∈ rest.head?, c.isDigit = false

theorem EndsNumber.endsDigits (h : EndsNumber rest) : EndsDigits rest := fun c hc => (h c hc).1

theorem digits?_append (hds : Numeral.IsDigits ds) (h : EndsDigits rest) :
    digits? (ds ++ rest) = .ok (ds, rest) := by
  obtain ⟨hne, hdigits⟩ := hds
  have hread : digits (ds ++ rest) = (ds, rest) := by
    unfold digits
    rw [Text.takeWhile_append_of_head? hdigits h, Text.dropWhile_append_of_head? hdigits h]
  rw [digits?, hread]
  cases ds with
  | nil => exact absurd rfl hne
  | cons d ds => rfl

theorem readInteger_append (hds : Numeral.IsInteger ds) (h : EndsDigits rest) :
    readInteger (ds ++ rest) = .ok (ds, rest) := by
  have hread := digits?_append hds.1 h
  obtain ⟨⟨hne, -⟩, hzero⟩ := hds
  obtain ⟨d, ds, rfl⟩ := List.exists_cons_of_ne_nil hne
  by_cases hd : d = '0'
  · obtain ⟨rfl, rfl⟩ : d = '0' ∧ ds = [] := by simpa [hd] using hzero
    have hnone : rest.head?.any Char.isDigit = false := by
      cases rest with
      | nil => rfl
      | cons c rest => exact h c rfl
    rw [List.singleton_append, readInteger, hnone]
    rfl
  · rw [← hread, List.cons_append, readInteger]
    simpa using hd

theorem readFraction_append {point : List Char} (hfraction : Numeral.FractionSpelledBy ds point)
    (h : EndsDigits rest) (hpoint : rest.head? ≠ some '.') :
    readFraction (point ++ rest) = .ok (ds, rest) := by
  cases hfraction with
  | none =>
    rw [List.nil_append]
    unfold readFraction
    split
    · exact absurd rfl hpoint
    · rfl
  | point hds => exact digits?_append hds h

theorem readExponent_append {exponent : Option (Bool × List Char)} {power : List Char}
    (hexponent : Numeral.ExponentSpelledBy exponent power) (h : EndsNumber rest) :
    readExponent (power ++ rest) = .ok (exponent, rest) := by
  -- a sign is no digit, so the digits behind it are found with and without one
  have hsign : ∀ {e : Char}, e = 'e' ∨ e = 'E' → (e == 'e' || e == 'E') = true := by
    rintro e (rfl | rfl) <;> rfl
  cases hexponent with
  | none =>
    rw [List.nil_append]
    unfold readExponent
    split
    · next c rest => simp [(h c rfl).2.2]
    · rfl
  | @plain e ds he hds =>
    have hread := digits?_append hds h.endsDigits
    obtain ⟨d, ds, rfl⟩ := List.exists_cons_of_ne_nil hds.1
    have hd : d.isDigit = true := hds.2 d List.mem_cons_self
    have hminus : d ≠ '-' := by rintro rfl; exact absurd hd (by decide)
    have hplus : d ≠ '+' := by rintro rfl; exact absurd hd (by decide)
    rw [List.cons_append] at hread
    rw [List.cons_append, List.cons_append, readExponent, if_pos (hsign he)]
    simp [hminus, hplus, hread, Except.map]
  | @plus e ds he hds =>
    have hread := digits?_append hds h.endsDigits
    rw [List.cons_append, List.cons_append, readExponent, if_pos (hsign he)]
    simp [hread, Except.map]
  | @minus e ds he hds =>
    have hread := digits?_append hds h.endsDigits
    rw [List.cons_append, List.cons_append, readExponent, if_pos (hsign he)]
    simp [hread, Except.map]

/-- **A text that spells a number** is read as that number, behind its sign. -/
theorem ofNumber_append {negative : Bool} {integer fraction point power : List Char}
    {exponent : Option (Bool × List Char)} (hinteger : Numeral.IsInteger integer)
    (hfraction : Numeral.FractionSpelledBy fraction point)
    (hexponent : Numeral.ExponentSpelledBy exponent power) (h : EndsNumber rest) :
    ofNumber negative (integer ++ (point ++ power) ++ rest) =
      (number ⟨negative, integer, fraction, exponent⟩, rest) := by
  have hpower : EndsDigits (power ++ rest) ∧ (power ++ rest).head? ≠ some '.' := by
    cases hexponent with
    | none => exact ⟨h.endsDigits, fun hpoint => (h '.' hpoint).2.1 rfl⟩
    | plain he | plus he | minus he =>
      refine ⟨fun c hc => ?_, ?_⟩
      · cases hc
        rcases he with rfl | rfl <;> decide
      · rcases he with rfl | rfl <;> simp
  have hpoint : EndsDigits (point ++ (power ++ rest)) := by
    cases hfraction with
    | none => exact hpower.1
    | point => exact fun c hc => by cases hc; decide
  rw [List.append_assoc, List.append_assoc]
  unfold ofNumber readNumber
  simp only [readInteger_append hinteger hpoint, readFraction_append hfraction hpower.1 hpower.2,
    readExponent_append hexponent h, Bind.bind, Except.bind, Pure.pure, Except.pure]

theorem next_of_isDigit (h : c.isDigit = true) : next c rest = ofNumber false (c :: rest) := by
  unfold next
  split <;> first | exact absurd h (by decide) | rw [if_pos h]

end Token

/-! ### Written numbers -/

namespace Numeral

theorem isInteger_naturalText (n : ℕ) : IsInteger (naturalText n) := by
  refine ⟨⟨naturalText_ne_nil, fun _ => isDigit_of_mem_naturalText⟩, fun hzero => ?_⟩
  rw [eq_zero_of_head? hzero]
  rfl

theorem spelledBy_naturalText (negative : Bool) (n : ℕ) :
    SpelledBy ⟨negative, naturalText n, [], none⟩
      ((if negative then ['-'] else []) ++ naturalText n) := by
  have hspelled : SpelledBy ⟨negative, naturalText n, [], none⟩
      ((if negative then ['-'] else []) ++ (naturalText n ++ ([] ++ []))) :=
    .signed (isInteger_naturalText n) .none .none
  rwa [List.append_nil, List.append_nil] at hspelled

end Numeral

end OfflineManifest.Json
