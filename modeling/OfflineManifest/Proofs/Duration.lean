import OfflineManifest.Duration
import OfflineManifest.Proofs.Except
import OfflineManifest.Proofs.Text.Digits

/-! # What durations denote

A text can be cut in exactly one way into text without digits, tokens, and digits without a unit
(`Cut`, `Cut.eq`), and reading a duration finds the tokens of this cut (`Cut.tokens_eq`). A token
*denotes* a number of milliseconds, of any size, if its unit is known (`Token.Denotes`). Reading
adds in 64 bits, where the digits, the product with the unit and the sum may each not fit. As a unit
is at least one millisecond, one of them does not fit exactly if the exact sum does not
(`Token.addTo?_eq_some`). So the value of a duration is the exact sum of its tokens, and a text is
refused at the first token that denotes nothing or takes this sum out of the range
(`parse_exact`). -/

namespace OfflineManifest.Duration

/-! ### Cuts -/

/-- **A token as it is written**: digits and a unit, which has no digits. -/
structure Token.IsWritten (t : Token) : Prop where
  digits_ne_nil : t.digits ≠ []
  digits : ∀ c ∈ t.digits, c.isDigit = true
  unit_ne_nil : t.unit ≠ []
  unit : ∀ c ∈ t.unit, c.isDigit = false

/-- **A text cut** into text without digits, tokens, and digits without a unit. -/
structure Cut (text : List Char) where
  before : List Char
  tokens : List Token
  behind : List Char
  before_no_digit : ∀ c ∈ before, c.isDigit = false
  written : ∀ t ∈ tokens, t.IsWritten
  behind_digits : ∀ c ∈ behind, c.isDigit = true
  text_eq : text = before ++ (tokens.flatMap Token.text ++ behind)

section Cuts

variable {text before rest ds : List Char} {t : Token} {ts : List Token}

theorem not_isDigit (h : ∀ c ∈ before, c.isDigit = false) : ∀ c ∈ before, (!c.isDigit) = true :=
  fun c hc => by rw [h c hc]; rfl

theorem isDigit_of_head? (hwritten : ∀ t ∈ ts, t.IsWritten) (hdigits : ∀ c ∈ ds, c.isDigit = true) :
    ∀ c ∈ (ts.flatMap Token.text ++ ds).head?, c.isDigit = true := by
  intro c hc
  cases ts with
  | nil => exact hdigits c (List.mem_of_mem_head? hc)
  | cons t ts =>
    have ht := hwritten t List.mem_cons_self
    obtain ⟨d, digits, hd⟩ := List.exists_cons_of_ne_nil ht.digits_ne_nil
    rw [List.flatMap_cons, Token.text, hd] at hc
    obtain rfl := Option.some.inj hc
    exact ht.digits _ (hd ▸ List.mem_cons_self)

theorem tokens_append_of_no_digit (h : ∀ c ∈ before, c.isDigit = false) (rest : List Char) :
    tokens (before ++ rest) = tokens rest := by
  induction before with
  | nil => rfl
  | cons c before ih =>
    rw [List.forall_mem_cons] at h
    rw [List.cons_append, tokens, if_neg (by simp [h.1])]
    exact ih h.2

theorem tokens_of_digits (h : ∀ c ∈ ds, c.isDigit = true) : tokens ds = [] := by
  cases ds with
  | nil => rw [tokens]
  | cons d ds =>
    rw [List.forall_mem_cons] at h
    have hall : ds.dropWhile Char.isDigit = [] := List.dropWhile_eq_nil_iff.mpr h.2
    rw [tokens, if_pos h.1]
    simp only [hall]
    rfl

theorem tokens_text_append (ht : t.IsWritten) (hrest : ∀ c ∈ rest.head?, c.isDigit = true) :
    tokens (t.text ++ rest) = t :: tokens rest := by
  obtain ⟨d, digits, hd⟩ := List.exists_cons_of_ne_nil ht.digits_ne_nil
  obtain ⟨u, unit, hu⟩ := List.exists_cons_of_ne_nil ht.unit_ne_nil
  have hdigits := ht.digits
  have hunit := not_isDigit ht.unit
  have hstart : ∀ c ∈ (t.unit ++ rest).head?, c.isDigit = false := by
    rw [hu]
    rintro c ⟨⟩
    exact ht.unit u (hu ▸ List.mem_cons_self)
  have hend : ∀ c ∈ rest.head?, (!c.isDigit) = false := fun c hc => by rw [hrest c hc]; rfl
  rw [hd, List.forall_mem_cons] at hdigits
  rw [Token.text, List.append_assoc, hd, List.cons_append, tokens, if_pos hdigits.1]
  simp only [Text.takeWhile_append_of_head? hdigits.2 hstart,
    Text.dropWhile_append_of_head? hdigits.2 hstart, Text.takeWhile_append_of_head? hunit hend,
    Text.dropWhile_append_of_head? hunit hend]
  rw [if_neg (by simp [hu]), ← hd]

theorem tokens_flatMap_append (hwritten : ∀ t ∈ ts, t.IsWritten)
    (hdigits : ∀ c ∈ ds, c.isDigit = true) : tokens (ts.flatMap Token.text ++ ds) = ts := by
  induction ts with
  | nil => exact tokens_of_digits hdigits
  | cons t ts ih =>
    rw [List.forall_mem_cons] at hwritten
    rw [List.flatMap_cons, List.append_assoc,
      tokens_text_append hwritten.1 (isDigit_of_head? hwritten.2 hdigits), ih hwritten.2]

namespace Cut

/-- **Reading finds the tokens of a cut.** -/
theorem tokens_eq (cut : Cut text) : Duration.tokens text = cut.tokens :=
  calc Duration.tokens text
      = Duration.tokens (cut.before ++ (cut.tokens.flatMap Token.text ++ cut.behind)) :=
        congrArg _ cut.text_eq
    _ = Duration.tokens (cut.tokens.flatMap Token.text ++ cut.behind) :=
        tokens_append_of_no_digit cut.before_no_digit _
    _ = cut.tokens := tokens_flatMap_append cut.written cut.behind_digits

theorem before_eq (cut : Cut text) : text.takeWhile (!·.isDigit) = cut.before := by
  have hstart : ∀ c ∈ (cut.tokens.flatMap Token.text ++ cut.behind).head?,
      (!c.isDigit) = false := fun c hc => by
    rw [isDigit_of_head? cut.written cut.behind_digits c hc]
    rfl
  exact (congrArg _ cut.text_eq).trans
    (Text.takeWhile_append_of_head? (not_isDigit cut.before_no_digit) hstart)

/-- **A text is cut in one way only.** -/
theorem eq (cut other : Cut text) : cut = other := by
  have hbefore : cut.before = other.before := cut.before_eq.symm.trans other.before_eq
  have htokens : cut.tokens = other.tokens := cut.tokens_eq.symm.trans other.tokens_eq
  have hbehind := cut.text_eq.symm.trans other.text_eq
  rw [hbefore, htokens, List.append_cancel_left_eq, List.append_cancel_left_eq] at hbehind
  cases cut
  cases other
  cases hbefore
  cases htokens
  cases hbehind
  rfl

end Cut

/-- **Every text can be cut.** A character put before a text that is cut becomes part of the text
without digits, or of the token or the digits that come first, or it makes a token of the text
without digits. -/
theorem nonempty_cut : ∀ text : List Char, Nonempty (Cut text)
  | [] => ⟨⟨[], [], [], List.forall_mem_nil _, List.forall_mem_nil _, List.forall_mem_nil _, rfl⟩⟩
  | c :: text => by
    obtain ⟨before, ts, behind, hbefore, hwritten, hbehind, htext⟩ := nonempty_cut text
    by_cases hc : c.isDigit = true
    · cases before with
      | cons b before =>
        have ht : Token.IsWritten ⟨[c], b :: before⟩ :=
          ⟨List.cons_ne_nil _ _, List.forall_mem_singleton.mpr hc, List.cons_ne_nil _ _, hbefore⟩
        refine ⟨⟨[], ⟨[c], b :: before⟩ :: ts, behind, List.forall_mem_nil _,
          List.forall_mem_cons.mpr ⟨ht, hwritten⟩, hbehind, ?_⟩⟩
        rw [htext, List.flatMap_cons, Token.text]
        simp only [List.nil_append, List.cons_append, List.append_assoc]
      | nil =>
        rw [List.nil_append] at htext
        cases ts with
        | nil =>
          exact ⟨⟨[], [], c :: behind, List.forall_mem_nil _, List.forall_mem_nil _,
            List.forall_mem_cons.mpr ⟨hc, hbehind⟩, congrArg (c :: ·) htext⟩⟩
        | cons t ts =>
          rw [List.forall_mem_cons] at hwritten
          have ht : Token.IsWritten ⟨c :: t.digits, t.unit⟩ :=
            ⟨List.cons_ne_nil _ _, List.forall_mem_cons.mpr ⟨hc, hwritten.1.digits⟩,
              hwritten.1.unit_ne_nil, hwritten.1.unit⟩
          exact ⟨⟨[], ⟨c :: t.digits, t.unit⟩ :: ts, behind, List.forall_mem_nil _,
            List.forall_mem_cons.mpr ⟨ht, hwritten.2⟩, hbehind, congrArg (c :: ·) htext⟩⟩
    · have hnot : c.isDigit = false := Bool.eq_false_iff.mpr hc
      exact ⟨⟨c :: before, ts, behind, List.forall_mem_cons.mpr ⟨hnot, hbefore⟩, hwritten, hbehind,
        congrArg (c :: ·) htext⟩⟩

end Cuts

/-! ### What tokens denote -/

/-- The units with their milliseconds. -/
def units : List (List Char × ℕ) :=
  [(['d'], 86400000), (['h'], 3600000), (['m'], 60000), (['s'], 1000), (['u'], 1)]

/-- **A token denotes a number of milliseconds**: that of its digits times that of its unit. -/
def Token.Denotes (t : Token) (ms : ℕ) : Prop :=
  ∃ factor, (t.unit, factor) ∈ units ∧ ms = Nat.ofDigitChars 10 t.digits 0 * factor

/-- **A token exceeds** a sum: it denotes nothing, or takes the sum out of the range. -/
def Token.Exceeds (sum : ℕ) (t : Token) : Prop :=
  (¬ ∃ ms, t.Denotes ms) ∨ ∃ ms, t.Denotes ms ∧ 2 ^ 64 - 1 < sum + ms

/-- **The first token that exceeds** the sum of those before it, which is in the range. -/
def FirstExceeds (sum : ℕ) (ts : List Token) (t : Token) : Prop :=
  ∃ before after mss, ts = before ++ t :: after ∧ List.Forall₂ Token.Denotes before mss ∧
    sum + mss.sum ≤ 2 ^ 64 - 1 ∧ t.Exceeds (sum + mss.sum)

section Arithmetic

variable {a b c n sum value : UInt64} {d : Char} {ds : List Char} {t : Token} {ts : List Token}
  {factor : UInt64} {ms k : ℕ}

theorem mul?_eq_some : mul? a b = some c ↔ c.toNat = a.toNat * b.toNat := by
  have hc : c.toNat < UInt64.size := c.toNat_lt_size
  unfold mul?
  constructor
  · intro h
    split at h
    · next hlt =>
      obtain rfl := Option.some.inj h
      rw [UInt64.toNat_mul, Nat.mod_eq_of_lt hlt]
    · cases h
  · intro h
    have hlt : a.toNat * b.toNat < UInt64.size := h ▸ hc
    rw [if_pos hlt, Option.some.injEq, ← UInt64.toNat_inj, UInt64.toNat_mul, h]
    exact Nat.mod_eq_of_lt hlt

theorem add?_eq_some : add? a b = some c ↔ c.toNat = a.toNat + b.toNat := by
  have hc : c.toNat < UInt64.size := c.toNat_lt_size
  unfold add?
  constructor
  · intro h
    split at h
    · next hlt =>
      obtain rfl := Option.some.inj h
      rw [UInt64.toNat_add, Nat.mod_eq_of_lt hlt]
    · cases h
  · intro h
    have hlt : a.toNat + b.toNat < UInt64.size := h ▸ hc
    rw [if_pos hlt, Option.some.injEq, ← UInt64.toNat_inj, UInt64.toNat_add, h]
    exact Nat.mod_eq_of_lt hlt

/-- What is not above a number that fits, fits. -/
theorem exists_toNat_eq (c : UInt64) (h : k ≤ c.toNat) : ∃ w : UInt64, w.toNat = k :=
  ⟨UInt64.ofNat k, UInt64.toNat_ofNat_of_lt' (h.trans_lt c.toNat_lt_size)⟩

theorem appendDigit?_eq_some :
    appendDigit? n d = some c ↔ c.toNat = 10 * n.toNat + (d.toNat - '0'.toNat) := by
  have hd : (UInt64.ofNat (d.toNat - '0'.toNat)).toNat = d.toNat - '0'.toNat := by
    refine UInt64.toNat_ofNat_of_lt' ?_
    have hchar : d.toNat < 2 ^ 32 := d.val.toNat_lt
    have hsize : UInt64.size = 2 ^ 64 := rfl
    omega
  have hten : (10 : UInt64).toNat = 10 := rfl
  unfold appendDigit?
  simp only [Option.bind_eq_bind, Option.bind_eq_some_iff, mul?_eq_some, add?_eq_some, hd, hten]
  constructor
  · rintro ⟨shifted, hshifted, hc⟩
    rw [hc, hshifted, Nat.mul_comm]
  · intro h
    have hle : n.toNat * 10 ≤ c.toNat := by omega
    obtain ⟨shifted, hshifted⟩ := exists_toNat_eq c hle
    exact ⟨shifted, hshifted, by omega⟩

/-- **Digits are read exactly**, if what they denote fits. -/
theorem foldlM_appendDigit?_eq_some :
    ds.foldlM appendDigit? n = some c ↔ c.toNat = Nat.ofDigitChars 10 ds n.toNat := by
  induction ds generalizing n with
  | nil =>
    rw [List.foldlM_nil, Nat.ofDigitChars_nil, UInt64.toNat_inj, eq_comm]
    exact Option.some_inj
  | cons d ds ih =>
    simp only [List.foldlM_cons, Option.bind_eq_bind, Option.bind_eq_some_iff,
      appendDigit?_eq_some, ih, Nat.ofDigitChars_cons]
    constructor
    · rintro ⟨shifted, hshifted, hc⟩
      rw [hc, hshifted]
    -- what is read up to some digit is not more than what is read in the end
    · intro h
      obtain ⟨shifted, hshifted⟩ := exists_toNat_eq c (h ▸ Text.le_ofDigitChars ds _)
      exact ⟨shifted, hshifted, hshifted ▸ h⟩

theorem factor?_eq_some : t.factor? = some factor ↔ (t.unit, factor.toNat) ∈ units := by
  unfold Token.factor? units
  constructor
  · intro h
    split at h <;> cases h <;> simp [*]
  · intro h
    simp only [List.mem_cons, Prod.mk.injEq, List.not_mem_nil, or_false] at h
    rcases h with ⟨hunit, hfactor⟩ | ⟨hunit, hfactor⟩ | ⟨hunit, hfactor⟩ | ⟨hunit, hfactor⟩ |
      ⟨hunit, hfactor⟩ <;>
    · rw [hunit]
      exact congrArg some (UInt64.toNat_inj.mp hfactor.symm)

/-- **A token is added exactly**, if the sum with what it denotes fits. -/
theorem Token.addTo?_eq_some :
    t.addTo? sum = some value ↔ ∃ ms, t.Denotes ms ∧ value.toNat = sum.toNat + ms := by
  unfold Token.addTo? Token.magnitude? Token.Denotes
  simp only [Option.bind_eq_bind, Option.bind_eq_some_iff, foldlM_appendDigit?_eq_some,
    factor?_eq_some, mul?_eq_some, add?_eq_some]
  constructor
  · rintro ⟨magnitude, hmagnitude, factor, hfactor, product, hproduct, hvalue⟩
    refine ⟨product.toNat, ⟨factor.toNat, hfactor, ?_⟩, hvalue⟩
    rw [hproduct, hmagnitude]
    rfl
  -- no number on the way is above the sum, since a unit is at least one millisecond
  · rintro ⟨_, ⟨factor, hfactor, rfl⟩, hvalue⟩
    have hunits : ∀ u ∈ units, 1 ≤ u.2 ∧ u.2 < UInt64.size := by decide
    obtain ⟨hpositive, hfits⟩ := hunits _ hfactor
    have hmagnitude_le := Nat.le_mul_of_pos_right (Nat.ofDigitChars 10 t.digits 0) hpositive
    have hproduct_le : Nat.ofDigitChars 10 t.digits 0 * factor ≤ value.toNat := by omega
    obtain ⟨product, hproduct⟩ := exists_toNat_eq value hproduct_le
    obtain ⟨magnitude, hmagnitude⟩ := exists_toNat_eq value (hmagnitude_le.trans hproduct_le)
    have hword : (UInt64.ofNat factor).toNat = factor := UInt64.toNat_ofNat_of_lt' hfits
    exact ⟨magnitude, hmagnitude, UInt64.ofNat factor, by rwa [hword], product,
      by rw [hproduct, hmagnitude, hword], by rw [hvalue, hproduct]⟩

theorem Token.Denotes.eq {ms' : ℕ} (h : t.Denotes ms) (h' : t.Denotes ms') : ms = ms' := by
  have hunits : ∀ u ∈ units, ∀ v ∈ units, u.1 = v.1 → u.2 = v.2 := by decide
  obtain ⟨factor, hfactor, rfl⟩ := h
  obtain ⟨factor', hfactor', rfl⟩ := h'
  have heq : factor = factor' := hunits _ hfactor _ hfactor' rfl
  rw [heq]

theorem Token.Denotes.not_exceeds (h : t.Denotes ms) (hrange : k + ms ≤ 2 ^ 64 - 1) :
    ¬ t.Exceeds k := by
  rintro (hnot | ⟨ms', hms', hlt⟩)
  · exact hnot ⟨ms, h⟩
  · rw [← h.eq hms'] at hlt
    omega

theorem Token.addTo?_eq_none : t.addTo? sum = none ↔ t.Exceeds sum.toNat := by
  constructor
  · intro hnone
    by_cases hdenotes : ∃ ms, t.Denotes ms
    · obtain ⟨ms, hms⟩ := hdenotes
      refine Or.inr ⟨ms, hms, Nat.lt_of_not_le fun hle => ?_⟩
      obtain ⟨value, hvalue⟩ := exists_toNat_eq (UInt64.ofNat (2 ^ 64 - 1)) hle
      have hsome := addTo?_eq_some.mpr ⟨ms, hms, hvalue⟩
      rw [hnone] at hsome
      cases hsome
    · exact Or.inl hdenotes
  · intro hexceeds
    cases hadd : t.addTo? sum with
    | none => rfl
    | some value =>
      obtain ⟨ms, hms, hvalue⟩ := addTo?_eq_some.mp hadd
      have hrange : sum.toNat + ms ≤ 2 ^ 64 - 1 := hvalue ▸ Nat.le_pred_of_lt value.toNat_lt
      exact absurd hexceeds (hms.not_exceeds hrange)

/-! ### Sums of tokens -/

/-- **Tokens are added exactly**, if their sum fits. -/
theorem total_eq_ok : total sum ts = .ok value ↔
    ∃ mss, List.Forall₂ Token.Denotes ts mss ∧ value.toNat = sum.toNat + mss.sum := by
  induction ts generalizing sum with
  | nil =>
    simp only [total, List.forall₂_nil_left_iff, exists_eq_left, List.sum_nil, Nat.add_zero,
      Except.ok.injEq, UInt64.toNat_inj, eq_comm]
  | cons t ts ih =>
    unfold total
    constructor
    · intro h
      cases hadd : t.addTo? sum with
      | none => rw [hadd] at h; cases h
      | some next =>
        rw [hadd] at h
        obtain ⟨ms, hms, hnext⟩ := Token.addTo?_eq_some.mp hadd
        obtain ⟨mss, hmss, hvalue⟩ := ih.mp h
        exact ⟨ms :: mss, .cons hms hmss, by rw [hvalue, hnext, List.sum_cons, Nat.add_assoc]⟩
    · rintro ⟨_, hmss, hvalue⟩
      obtain ⟨ms, mss, hms, hrest, rfl⟩ := List.forall₂_cons_left_iff.mp hmss
      rw [List.sum_cons, ← Nat.add_assoc] at hvalue
      have hle : sum.toNat + ms ≤ value.toNat := by omega
      obtain ⟨next, hnext⟩ := exists_toNat_eq value hle
      rw [Token.addTo?_eq_some.mpr ⟨ms, hms, hnext⟩]
      exact ih.mpr ⟨mss, hrest, by rw [hvalue, hnext]⟩

theorem firstExceeds_cons_of_exceeds {u : Token} (hrange : k ≤ 2 ^ 64 - 1) (h : u.Exceeds k) :
    FirstExceeds k (u :: ts) t ↔ u = t := by
  constructor
  · rintro ⟨before, after, mss, hts, hmss, hsum, -⟩
    cases before with
    | nil => exact (List.cons.inj hts).1
    | cons v before =>
      obtain ⟨rfl, -⟩ := List.cons.inj hts
      obtain ⟨ms, rest, hms, -, rfl⟩ := List.forall₂_cons_left_iff.mp hmss
      rw [List.sum_cons] at hsum
      exact absurd h (hms.not_exceeds (by omega))
  · rintro rfl
    exact ⟨[], ts, [], rfl, .nil, hrange, h⟩

theorem firstExceeds_cons_of_denotes {u : Token} (h : u.Denotes ms) (hrange : k + ms ≤ 2 ^ 64 - 1) :
    FirstExceeds k (u :: ts) t ↔ FirstExceeds (k + ms) ts t := by
  constructor
  · rintro ⟨before, after, mss, hts, hmss, hsum, hexceeds⟩
    cases before with
    | nil =>
      obtain ⟨rfl, -⟩ := List.cons.inj hts
      cases hmss
      exact absurd hexceeds (h.not_exceeds hrange)
    | cons v before =>
      obtain ⟨rfl, hrest⟩ := List.cons.inj hts
      obtain ⟨ms', rest, hms', hbefore, rfl⟩ := List.forall₂_cons_left_iff.mp hmss
      rw [List.sum_cons, ← Nat.add_assoc, ← h.eq hms'] at hsum hexceeds
      exact ⟨before, after, rest, hrest, hbefore, hsum, hexceeds⟩
  · rintro ⟨before, after, mss, hts, hmss, hsum, hexceeds⟩
    refine ⟨u :: before, after, ms :: mss, congrArg (u :: ·) hts, .cons h hmss, ?_⟩
    rw [List.sum_cons, ← Nat.add_assoc]
    exact ⟨hsum, hexceeds⟩

/-- **The first token that exceeds** the sum of those before it ends the sum. -/
theorem total_eq_error : total sum ts = .error t ↔ FirstExceeds sum.toNat ts t := by
  induction ts generalizing sum with
  | nil =>
    constructor
    · exact fun h => by cases h
    · rintro ⟨before, after, -, hts, -⟩
      exact absurd hts.symm (by simp)
  | cons u ts ih =>
    unfold total
    cases hadd : u.addTo? sum with
    | none =>
      rw [firstExceeds_cons_of_exceeds (Nat.le_pred_of_lt sum.toNat_lt)
        (Token.addTo?_eq_none.mp hadd)]
      rw [Except.error.injEq]
    | some next =>
      obtain ⟨ms, hms, hnext⟩ := Token.addTo?_eq_some.mp hadd
      rw [firstExceeds_cons_of_denotes hms (hnext ▸ Nat.le_pred_of_lt next.toNat_lt), ← hnext]
      exact ih

end Arithmetic

/-- **Durations are read exactly.** A text is cut in exactly one way. It has a value if each of its
tokens denotes a number of milliseconds and their sum is in the range; the value is this sum.
Otherwise the error has the whole text, and the first token that denotes nothing or takes the sum of
the tokens out of the range. -/
theorem parse_exact (input : String) : ∃ cut : Cut input.toList, (∀ other, other = cut) ∧
    (∀ value, parse input = .ok value ↔ ∃ mss, List.Forall₂ Token.Denotes cut.tokens mss ∧
      mss.sum ≤ 2 ^ 64 - 1 ∧ value.toNat = mss.sum) ∧
    ∀ e, parse input = .error e ↔
      ∃ t, FirstExceeds 0 cut.tokens t ∧ e = ⟨input, String.ofList t.text⟩ := by
  obtain ⟨cut⟩ := nonempty_cut input.toList
  have hzero : (0 : UInt64).toNat = 0 := rfl
  refine ⟨cut, fun other => other.eq cut, fun value => ?_, fun e => ?_⟩
  · unfold parse
    rw [mapError_eq_ok, cut.tokens_eq, total_eq_ok, hzero]
    refine exists_congr fun mss => and_congr_right fun _ => ?_
    have hle : value.toNat ≤ 2 ^ 64 - 1 := Nat.le_pred_of_lt value.toNat_lt
    constructor
    · exact fun h => ⟨by omega, by omega⟩
    · exact fun h => by omega
  · unfold parse
    rw [cut.tokens_eq, ← hzero]
    simp only [← total_eq_error]
    cases total 0 cut.tokens with
    | ok value => simp [Except.mapError]
    | error t => simp [Except.mapError, eq_comm]

end OfflineManifest.Duration
