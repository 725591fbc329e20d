import Mathlib.Data.List.Forall2

/-! # Results with a value

A computation in steps has a value if every step has one; that is, if its first step has a value and
the rest has one from there (`except_bind_eq_ok`). A list of computations has the list of their
values (`mapM_eq_ok`), or else the error of the first one without a value (`mapM_eq_error`). If the
computations are made one by one instead, the values are the same in the first case
(`filterMap_toOption`), and that error is the first one in the second case
(`head?_filterMap_of_firstAt`). -/

namespace OfflineManifest

variable {ε ε' α β : Type}

theorem except_bind_eq_ok {x : Except ε α} {f : α → Except ε β} {b : β} :
    (x >>= f) = .ok b ↔ ∃ a, x = .ok a ∧ f a = .ok b := by
  cases x <;> simp [Bind.bind, Except.bind]

instance decidableExistsOk (x : Except ε α) : Decidable (∃ a, x = .ok a) :=
  match x with
  | .ok a => isTrue ⟨a, rfl⟩
  | .error _ => isFalse (by rintro ⟨_, h⟩; cases h)

theorem except_map_eq_ok {x : Except ε α} {f : α → β} {b : β} :
    x.map f = .ok b ↔ ∃ a, x = .ok a ∧ f a = b := by
  cases x <;> simp [Except.map]

theorem mapError_eq_ok {x : Except ε α} {f : ε → ε'} {a : α} :
    x.mapError f = .ok a ↔ x = .ok a := by
  cases x <;> simp [Except.mapError]

theorem except_toOption_eq_some {x : Except ε α} {a : α} : x.toOption = some a ↔ x = .ok a := by
  cases x <;> simp [Except.toOption]

theorem mapM_eq_ok {f : α → Except ε β} : ∀ {l : List α} {k : List β},
    l.mapM f = .ok k ↔ List.Forall₂ (fun a b => f a = .ok b) l k
  | [], k => by
    rw [List.mapM_nil, List.forall₂_nil_left_iff]
    exact ⟨fun h => by cases h; rfl, fun h => by rw [h]; rfl⟩
  | a :: l, k => by
    rw [List.mapM_cons, except_bind_eq_ok, List.forall₂_cons_left_iff]
    constructor
    · rintro ⟨b, hb, h⟩
      obtain ⟨k, hk, h⟩ := except_bind_eq_ok.mp h
      cases h
      exact ⟨b, k, hb, mapM_eq_ok.mp hk, rfl⟩
    · rintro ⟨b, k, hb, hk, rfl⟩
      exact ⟨b, hb, except_bind_eq_ok.mpr ⟨k, mapM_eq_ok.mpr hk, rfl⟩⟩

theorem exists_mapM_eq_ok {f : α → Except ε β} {l : List α} (h : ∀ a ∈ l, ∃ b, f a = .ok b) :
    ∃ k, l.mapM f = .ok k := by
  induction l with
  | nil => exact ⟨[], rfl⟩
  | cons a l ih =>
    obtain ⟨b, hb⟩ := h a List.mem_cons_self
    obtain ⟨k, hk⟩ := ih fun a ha => h a (List.mem_cons_of_mem _ ha)
    exact ⟨b :: k, mapM_eq_ok.mpr (.cons hb (mapM_eq_ok.mp hk))⟩

/-! ### The first computation without a value -/

/-- The element at an index is the first one with a property. -/
structure FirstAt (p : α → Prop) (l : List α) (i : ℕ) (a : α) : Prop where
  getElem : l[i]? = some a
  holds : p a
  before : ∀ j < i, ∀ b, l[j]? = some b → ¬ p b

section FirstAt

variable {p : α → Prop} {a b : α} {l : List α} {i : ℕ}

theorem firstAt_cons_of_holds (h : p a) : FirstAt p (a :: l) i b ↔ i = 0 ∧ b = a := by
  constructor
  · rintro ⟨hi, -, hbefore⟩
    cases i with
    | zero => exact ⟨rfl, (Option.some.inj hi).symm⟩
    | succ i => exact absurd h (hbefore 0 i.succ_pos a rfl)
  · rintro ⟨rfl, rfl⟩
    exact ⟨rfl, h, fun j hj => absurd hj j.not_lt_zero⟩

theorem firstAt_cons_succ (h : ¬ p a) : FirstAt p (a :: l) (i + 1) b ↔ FirstAt p l i b := by
  constructor
  · rintro ⟨hi, hb, hbefore⟩
    exact ⟨hi, hb, fun j hj => hbefore (j + 1) (Nat.succ_lt_succ hj)⟩
  · rintro ⟨hi, hb, hbefore⟩
    refine ⟨hi, hb, fun j hj c hc => ?_⟩
    cases j with
    | zero => exact Option.some.inj hc ▸ h
    | succ j => exact hbefore j (Nat.lt_of_succ_lt_succ hj) c hc

theorem firstAt_cons_of_not (h : ¬ p a) :
    FirstAt p (a :: l) i b ↔ ∃ k, i = k + 1 ∧ FirstAt p l k b := by
  cases i with
  | zero =>
    refine ⟨fun hfirst => absurd (Option.some.inj hfirst.getElem ▸ hfirst.holds) h, ?_⟩
    rintro ⟨k, hk, -⟩
    exact absurd hk k.succ_ne_zero.symm
  | succ i => simp [firstAt_cons_succ h]

theorem exists_firstAt : ∀ {l : List α}, (∃ a ∈ l, p a) → ∃ i a, FirstAt p l i a
  | [], ⟨_, ha, _⟩ => absurd ha List.not_mem_nil
  | a :: l, h => by
    by_cases ha : p a
    · exact ⟨0, a, (firstAt_cons_of_holds ha).mpr ⟨rfl, rfl⟩⟩
    · obtain ⟨b, hb, hpb⟩ := h
      have hne : b ≠ a := fun heq => ha (heq ▸ hpb)
      have hmem : b ∈ l := List.mem_of_ne_of_mem hne hb
      obtain ⟨i, c, hfirst⟩ := exists_firstAt ⟨b, hmem, hpb⟩
      exact ⟨i + 1, c, (firstAt_cons_succ ha).mpr hfirst⟩

end FirstAt

/-- A computation has no value. -/
def Fails (x : Except ε α) : Prop := ∃ e, x = .error e

theorem not_fails_iff {x : Except ε α} : ¬ Fails x ↔ ∃ a, x = .ok a := by
  cases x <;> simp [Fails]

/-- The error of a computation that has no value. -/
def error? : Except ε α → Option ε
  | .ok _ => none
  | .error e => some e

theorem error?_eq_none_iff {x : Except ε α} : error? x = none ↔ ∃ a, x = .ok a := by
  cases x <;> simp [error?]

theorem error?_eq_some_iff {x : Except ε α} {e : ε} : error? x = some e ↔ x = .error e := by
  cases x <;> simp [error?]

/-- **The first computation without a value** decides on the error. -/
theorem mapM_eq_error {f : α → Except ε β} {e : ε} : ∀ {l : List α},
    l.mapM f = .error e ↔ ∃ i a, FirstAt (fun a => Fails (f a)) l i a ∧ f a = .error e
  | [] => by
    rw [List.mapM_nil]
    constructor
    · exact fun h => by cases h
    · rintro ⟨i, a, h, -⟩
      exact absurd h.getElem (by simp)
  | a :: l => by
    rw [List.mapM_cons]
    cases ha : f a with
    | error e' =>
      have hfails : Fails (f a) := ⟨e', ha⟩
      simp only [firstAt_cons_of_holds (p := fun a => Fails (f a)) hfails]
      constructor
      · intro h
        cases h
        exact ⟨0, a, ⟨rfl, rfl⟩, ha⟩
      · rintro ⟨_, _, ⟨rfl, rfl⟩, he⟩
        cases ha.symm.trans he
        rfl
    | ok c =>
      have hnot : ¬ Fails (f a) := not_fails_iff.mpr ⟨c, ha⟩
      have hrest : (Except.ok c >>= fun b => l.mapM f >>= fun bs => pure (b :: bs) :
          Except ε (List β)) = .error e ↔ l.mapM f = .error e := by
        cases l.mapM f <;> simp [Bind.bind, Except.bind, Pure.pure, Except.pure]
      rw [hrest, mapM_eq_error]
      simp only [firstAt_cons_of_not (p := fun a => Fails (f a)) hnot]
      constructor
      · rintro ⟨i, b, hfirst, he⟩
        exact ⟨i + 1, b, ⟨i, rfl, hfirst⟩, he⟩
      · rintro ⟨_, b, ⟨i, rfl, hfirst⟩, he⟩
        exact ⟨i, b, hfirst, he⟩

theorem fails_mapM_iff {f : α → Except ε β} {l : List α} :
    Fails (l.mapM f) ↔ ∃ a ∈ l, Fails (f a) := by
  constructor
  · rintro ⟨e, he⟩
    obtain ⟨i, a, hfirst, -⟩ := mapM_eq_error.mp he
    exact ⟨a, List.mem_of_getElem? hfirst.getElem, hfirst.holds⟩
  · intro h
    obtain ⟨i, a, hfirst⟩ := exists_firstAt h
    obtain ⟨e, he⟩ := hfirst.holds
    exact ⟨e, mapM_eq_error.mpr ⟨i, a, hfirst, he⟩⟩

/-! ### Computations one by one -/

theorem filterMap_toOption {f : α → Except ε β} : ∀ {l : List α} {k : List β},
    l.mapM f = .ok k → l.filterMap (fun a => (f a).toOption) = k
  | [], k, h => by cases h; rfl
  | a :: l, k, h => by
    obtain ⟨b, k, hb, hk, rfl⟩ := List.forall₂_cons_left_iff.mp (mapM_eq_ok.mp h)
    have hrest : l.filterMap (fun a => (f a).toOption) = k := filterMap_toOption (mapM_eq_ok.mpr hk)
    rw [List.filterMap_cons, hb]
    exact congrArg (b :: ·) hrest

/-- What is collected of a list starts with what the first element that gives anything gives. -/
theorem head?_filterMap_of_firstAt {p : α → Prop} {q : α → Option β} (hq : ∀ a, ¬ p a → q a = none) :
    ∀ {l : List α} {i : ℕ} {a : α} {b : β}, FirstAt p l i a → q a = some b →
      (l.filterMap q).head? = some b
  | [], _, _, _, hfirst, _ => absurd hfirst.getElem (by simp)
  | c :: l, i, a, b, hfirst, hb => by
    by_cases hc : p c
    · obtain ⟨-, rfl⟩ := (firstAt_cons_of_holds hc).mp hfirst
      rw [List.filterMap_cons_some hb, List.head?_cons]
    · obtain ⟨k, -, hrest⟩ := (firstAt_cons_of_not hc).mp hfirst
      rw [List.filterMap_cons_none (hq c hc)]
      exact head?_filterMap_of_firstAt hq hrest hb

end OfflineManifest
