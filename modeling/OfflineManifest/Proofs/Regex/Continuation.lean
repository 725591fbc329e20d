import OfflineManifest.Proofs.Except
import OfflineManifest.Regex.Parser

/-! # Reading with more text behind

Whatever the reader takes off the front of a text it also takes if a dollar sign stands behind that
text, wherever both stand: no part of a pattern that is complete reaches to the end of the text and
would go on there.

The two places are in the relation `Extends`. A loop stops at the same place in both texts, since
the dollar sign does not pass its test or the loop stops before it (`Scans.onward`). Only successful
readings are carried over (`Carries`): what is an error at the end of the text may be none if more
text follows. The parts of a pattern are escapes (`Atom.carries_readEscape`) and the counts of
repetitions (`Reader.carries_readBounds`). -/

namespace OfflineManifest.Regex

variable {α α' β β' : Type} {s t u : List Char} {c c' : Cursor} {pos pos' n : ℕ} {a : Char}

/-! ### One reading carried over to another -/

/-- If one computation has a value, the other one has a value in a relation with it. -/
def Carries (R : α → α' → Prop) (x : Except Fault α) (y : Except Fault α') : Prop :=
  ∀ a, x = .ok a → ∃ a', y = .ok a' ∧ R a a'

namespace Carries

variable {R : α → α' → Prop} {S : β → β' → Prop}

theorem error {e : Fault} {y : Except Fault α'} : Carries R (.error e) y := fun _ h => by cases h

theorem ok {a : α} {a' : α'} (h : R a a') : Carries R (.ok a) (.ok a') :=
  fun _ ha => by cases ha; exact ⟨a', rfl, h⟩

theorem pure {a : α} {a' : α'} (h : R a a') :
    Carries R (Pure.pure a : Except Fault α) (Pure.pure a' : Except Fault α') :=
  .ok h

theorem cases {x : Except Fault α} {y : Except Fault α'} (h : Carries R x y) :
    (∃ e, x = .error e) ∨ ∃ a a', x = .ok a ∧ y = .ok a' ∧ R a a' := by
  cases hx : x with
  | error e => exact .inl ⟨e, rfl⟩
  | ok a =>
    obtain ⟨a', hy, ha⟩ := h a hx
    exact .inr ⟨a, a', rfl, hy, ha⟩

theorem bind {x : Except Fault α} {y : Except Fault α'} {f : α → Except Fault β}
    {g : α' → Except Fault β'} (h : Carries R x y)
    (hrest : ∀ a a', R a a' → Carries S (f a) (g a')) : Carries S (x >>= f) (y >>= g) := by
  intro b hb
  obtain ⟨a, hx, hf⟩ := except_bind_eq_ok.mp hb
  obtain ⟨a', hy, ha⟩ := h a hx
  obtain ⟨b', hg, hb'⟩ := hrest a a' ha b hf
  exact ⟨b', except_bind_eq_ok.mpr ⟨a', hy, hg⟩, hb'⟩

theorem guard {p q : Prop} [Decidable p] [Decidable q] {e e' : Fault} {x : Except Fault α}
    {y : Except Fault α'} (hq : ¬ p → ¬ q) (h : ¬ p → Carries R x y) :
    Carries R (if p then .error e else x) (if q then .error e' else y) := by
  by_cases hp : p
  · rw [if_pos hp]
    exact .error
  · rw [if_neg hp, if_neg (hq hp)]
    exact h hp

theorem ite {p : Prop} [Decidable p] {x₁ x₂ : Except Fault α} {y₁ y₂ : Except Fault α'}
    (h₁ : p → Carries R x₁ y₁) (h₂ : ¬ p → Carries R x₂ y₂) :
    Carries R (if p then x₁ else x₂) (if p then y₁ else y₂) := by
  by_cases hp : p
  · rw [if_pos hp, if_pos hp]
    exact h₁ hp
  · rw [if_neg hp, if_neg hp]
    exact h₂ hp

end Carries

/-! ### Places in a longer text -/

namespace Cursor

@[simp] theorem peek?_cons : (⟨pos, a :: s⟩ : Cursor).peek? = some a := rfl

@[simp] theorem atEnd_nil : (⟨pos, []⟩ : Cursor).atEnd = true := rfl

@[simp] theorem atEnd_cons : (⟨pos, a :: s⟩ : Cursor).atEnd = false := rfl

@[simp] theorem next_cons : (⟨pos, a :: s⟩ : Cursor).next = ⟨pos + 1, s⟩ := rfl

@[simp] theorem advance_false (c : Cursor) : c.advance false = c.next := rfl

@[simp] theorem skipLayout_false (c : Cursor) : c.skipLayout false = c := rfl

theorem skip_append (u t : List Char) (pos n : ℕ) :
    (⟨pos, u ++ t⟩ : Cursor).skip (u.length + n) = (⟨pos + u.length, t⟩ : Cursor).skip n := by
  rw [Cursor.skip, Cursor.skip, List.drop_length_add_append, Nat.add_assoc]

end Cursor

/-- **The same place with a dollar sign behind the text.** What is left of the text ends `s`. -/
inductive Extends (s : List Char) : Cursor → Cursor → Prop
  | mk {t : List Char} (pos pos' : ℕ) (h : t <:+ s) : Extends s ⟨pos, t⟩ ⟨pos', t ++ ['$']⟩

/-- What has been read is in a relation, and the places behind it are the same. -/
def Onward (R : α → α' → Prop) (s : List Char) (x : α × Cursor) (y : α' × Cursor) : Prop :=
  R x.1 y.1 ∧ Extends s x.2 y.2

theorem Onward.exists {x y : α × Cursor} (h : Onward Eq s x y) :
    ∃ a d d', x = (a, d) ∧ y = (a, d') ∧ Extends s d d' :=
  ⟨x.1, x.2, y.2, rfl, Prod.ext h.1.symm rfl, h.2⟩

theorem Extends.atEnd (h : Extends s c c') : c'.atEnd = false := by
  obtain @⟨_ | ⟨a, t⟩, pos, pos', hs⟩ := h <;> rfl

theorem Extends.not_atEnd (h : Extends s c c') : ¬ c'.atEnd = true := by
  rw [h.atEnd]
  exact Bool.false_ne_true

theorem Extends.length (h : Extends s c c') : c'.rest.length = c.rest.length + 1 := by
  obtain ⟨pos, pos', hs⟩ := h
  simp

theorem Extends.after? (h : Extends s c c') {text : String} (ht : '$' ∉ text.toList) :
    Option.Rel (Extends s) (c.after? text) (c'.after? text) := by
  obtain @⟨t, pos, pos', hs⟩ := h
  have hprefix : text.toList <+: t ++ ['$'] ↔ text.toList <+: t := by
    rw [List.prefix_concat_iff]
    exact or_iff_right fun h => ht (h ▸ List.mem_append_right t List.mem_cons_self)
  simp only [Cursor.after?, List.isPrefixOf_iff_prefix, hprefix]
  split_ifs with hpre
  · have hlength : text.length ≤ t.length := String.length_toList ▸ hpre.length_le
    simp only [Cursor.skip, List.drop_append_of_le_length hlength]
    exact .some (.mk _ _ ((List.drop_suffix _ t).trans hs))
  · exact .none

theorem Extends.peek?_eq_some (h : Extends s c c') (ha : a ≠ '$') :
    c'.peek? = some a ↔ c.peek? = some a := by
  obtain @⟨_ | ⟨b, t⟩, pos, pos', hs⟩ := h
  · exact ⟨fun h => absurd (Option.some.inj h).symm ha, fun h => by cases h⟩
  · exact Iff.rfl

theorem Extends.second?_eq_some (h : Extends s c c') (ha : a ≠ '$') :
    c'.second? false = some a ↔ c.second? false = some a := by
  obtain @⟨_ | ⟨b, _ | ⟨d, t⟩⟩, pos, pos', hs⟩ := h
  · exact ⟨fun h => (by cases h), fun h => (by cases h)⟩
  · exact ⟨fun h => absurd (Option.some.inj h).symm ha, fun h => by cases h⟩
  · exact Iff.rfl

theorem Extends.next (h : Extends s c c') (hc : c.atEnd = false) : Extends s c.next c'.next := by
  obtain @⟨_ | ⟨a, t⟩, pos, pos', hs⟩ := h
  · cases hc
  · exact .mk (pos + 1) (pos' + 1) ((List.suffix_cons a t).trans hs)

theorem atEnd_of_peek? (h : c.peek? = some a) : c.atEnd = false := by
  obtain ⟨pos, _ | ⟨b, t⟩⟩ := c
  · cases h
  · rfl

/-! ### Reading while a test holds -/

/-- **A loop reads on while a test holds**, and keeps a value: `next` is the value behind one more
character at a place, `last` what is made of it in the end. The number bounds the characters that
are left. -/
structure Scans (test : Char → Bool) (next : β → Char → ℕ → β) (last : β → α)
    (f : β → Cursor → ℕ → α × Cursor) : Prop where
  zero : ∀ x c, f x c 0 = (last x, c)
  nil : ∀ x pos n, f x ⟨pos, []⟩ (n + 1) = (last x, ⟨pos, []⟩)
  cons : ∀ x pos a t n, f x ⟨pos, a :: t⟩ (n + 1) =
    if test a then f (next x a pos) ⟨pos + 1, t⟩ n else (last x, ⟨pos, a :: t⟩)

/-- A loop ends at the same place with more text behind, unless it goes to the end of the text and
would pass the dollar sign there. -/
theorem Scans.onward {test : Char → Bool} {next : β → Char → ℕ → β} {last : β → α}
    {f : β → Cursor → ℕ → α × Cursor} (hf : Scans test next last f) {Q : β → β → Prop}
    {R : α → α → Prop} (hnext : ∀ x y a pos pos', Q x y → Q (next x a pos) (next y a pos'))
    (hlast : ∀ x y, Q x y → R (last x) (last y)) {x y : β} (hxy : Q x y) (h : Extends s c c')
    (hn : c.rest.length ≤ n) (hend : test '$' = false ∨ (f x c n).2.atEnd = false) :
    Onward R s (f x c n) (f y c' (n + 1)) := by
  -- at the end of the text both loops stop, the other one before the dollar sign
  have hnil (n : ℕ) {x y : β} (hxy : Q x y) (hs : [] <:+ s) (pos pos' : ℕ)
      (hx : f x ⟨pos, []⟩ n = (last x, ⟨pos, []⟩))
      (hend : test '$' = false ∨ (f x ⟨pos, []⟩ n).2.atEnd = false) :
      Onward R s (f x ⟨pos, []⟩ n) (f y ⟨pos', ['$']⟩ (n + 1)) := by
    have htest : test '$' = false := hend.resolve_right (by rw [hx]; exact Bool.noConfusion)
    rw [hx, hf.cons, htest]
    exact ⟨hlast x y hxy, .mk pos pos' hs⟩
  induction n generalizing x y c c' with
  | zero =>
    obtain @⟨_ | ⟨a, t⟩, pos, pos', hs⟩ := h
    · exact hnil 0 hxy hs pos pos' (hf.zero x _) hend
    · cases hn
  | succ n ih =>
    obtain @⟨_ | ⟨a, t⟩, pos, pos', hs⟩ := h
    · exact hnil (n + 1) hxy hs pos pos' (hf.nil x pos n) hend
    rw [hf.cons] at hend ⊢
    rw [List.cons_append, hf.cons]
    by_cases ha : test a
    · rw [if_pos ha] at hend
      rw [if_pos ha, if_pos ha]
      exact ih (hnext x y a pos pos' hxy) (.mk _ _ ((List.suffix_cons a t).trans hs))
        (Nat.le_of_succ_le_succ hn) hend
    · rw [if_neg ha, if_neg ha]
      exact ⟨hlast x y hxy, .mk pos pos' hs⟩

/-- A loop that keeps nothing of the places. -/
theorem Scans.onward_eq {test : Char → Bool} {next : β → Char → ℕ → β} {last : β → α}
    {f : β → Cursor → ℕ → α × Cursor} (hf : Scans test next last f)
    (hnext : ∀ x a pos pos', next x a pos = next x a pos') (x : β) (h : Extends s c c')
    (hn : c.rest.length ≤ n) (hend : test '$' = false ∨ (f x c n).2.atEnd = false) :
    Onward Eq s (f x c n) (f x c' (n + 1)) := by
  refine hf.onward (Q := Eq) (fun x y a pos pos' hxy => ?_) (fun x y => congrArg last) rfl h hn hend
  rw [hxy, hnext]

/-- A loop that stops at a dollar sign ends at the same place with more text behind. -/
theorem Scans.exists_onward {test : Char → Bool} {next : β → Char → ℕ → β} {last : β → α}
    {f : β → Cursor → ℕ → α × Cursor} (hf : Scans test next last f)
    (hnext : ∀ x a pos pos', next x a pos = next x a pos') (htest : test '$' = false) (x : β)
    (h : Extends s c c') :
    ∃ a d d', f x c c.rest.length = (a, d) ∧ f x c' c'.rest.length = (a, d') ∧ Extends s d d' := by
  rw [h.length]
  exact (hf.onward_eq hnext x h (Nat.le_refl _) (.inl htest)).exists

namespace Atom

theorem carries_readHexDigits (count : ℕ) (digits : List Char) (h : Extends s c c') :
    Carries (Onward Eq s) (readHexDigits false c digits count)
      (readHexDigits false c' digits count) := by
  induction count generalizing c c' digits with
  | zero => exact .ok ⟨rfl, h⟩
  | succ count ih =>
    obtain @⟨_ | ⟨a, t⟩, pos, pos', hs⟩ := h
    · exact .error
    · simp only [readHexDigits, List.cons_append, Cursor.peek?_cons, Cursor.advance_false,
        Cursor.next_cons]
      exact .ite (fun _ => ih _ (.mk _ _ ((List.suffix_cons a t).trans hs))) fun _ => .error

theorem scans_readBraced : Scans (· != '\x7d') (fun text a _ => a :: text) List.reverse
    (readBraced.go false) where
  zero _ _ := rfl
  nil _ _ _ := rfl
  cons text pos a t n := by
    by_cases ha : a = '\x7d'
    · simp [readBraced.go, ha]
    · simp [readBraced.go, ha]

/-- A text in braces ends with its brace, or it takes all that is left. -/
theorem readBraced_cases (b : Char) (h : t <:+ s) (pos pos' : ℕ) :
    (∃ text close close', readBraced false ⟨pos, b :: t⟩ = (text, close) ∧
      readBraced false ⟨pos', b :: (t ++ ['$'])⟩ = (text, close') ∧ close.atEnd = false ∧
      close'.atEnd = false ∧ Extends s close close') ∨
    ∃ text close, readBraced false ⟨pos, b :: t⟩ = (text, close) ∧ close.atEnd = true := by
  rcases hread : readBraced false ⟨pos, b :: t⟩ with ⟨text, close⟩
  cases hclose : close.atEnd with
  | true => exact .inr ⟨text, close, rfl, hclose⟩
  | false =>
    have hlength : (b :: (t ++ ['$'])).length = t.length + 1 + 1 := by simp
    have hgo := scans_readBraced.onward_eq (fun _ _ _ _ => rfl) [] (.mk (pos + 1) (pos' + 1) h)
      (Nat.le_succ t.length) (.inr (show (readBraced false ⟨pos, b :: t⟩).2.atEnd = false by
        rw [hread]; exact hclose))
    rw [← hlength] at hgo
    obtain ⟨text', close₁, close', hx, hy, hextends⟩ := hgo.exists
    obtain ⟨rfl, rfl⟩ := Prod.ext_iff.mp (hread.symm.trans hx)
    exact .inl ⟨text, close, close', rfl, hy, hclose, hextends.atEnd, hextends⟩

theorem carries_readHex (letter : Char) (h : Extends s c c') :
    Carries (Onward Eq s) (readHex false letter c) (readHex false letter c') := by
  obtain @⟨_ | ⟨x, _ | ⟨b, t⟩⟩, pos, pos', hs⟩ := h
  · exact .error
  · exact .error
  have hbody : b :: t <:+ s := (List.suffix_cons x _).trans hs
  have ht : t <:+ s := (List.suffix_cons b t).trans hbody
  simp only [readHex, List.cons_append, Cursor.advance_false, Cursor.next_cons, Cursor.peek?_cons]
  by_cases hb : b = '\x7b'
  · subst hb
    obtain ⟨digits, close, close', hread, hread', hend, hend', hclose⟩ |
      ⟨digits, close, hread, hend⟩ := readBraced_cases '\x7b' ht (pos + 1) (pos' + 1)
    · simp only [hread, hread', hend, hend', Bool.false_eq_true, if_false]
      cases digits.findIdx? (!isHexDigit ·) with
      | some i => exact .error
      | none =>
        refine .ite (fun _ => .error) fun _ => ?_
        cases ofCode? (hexValue digits) with
        | none => exact .error
        | some a => exact .ok ⟨rfl, hclose.next hend⟩
    · simp only [hread, hend, if_true]
      cases digits.findIdx? (!isHexDigit ·) with
      | some i => exact .error
      | none => exact .error
  · have hdigits := carries_readHexDigits
      (if letter == 'x' then 2 else if letter == 'u' then 4 else 8) []
      (.mk (pos + 1) (pos' + 1) hbody)
    rw [List.cons_append] at hdigits
    split
    · exact .error
    · next heq => exact absurd (Option.some.inj heq) hb
    · obtain ⟨e, hx⟩ | ⟨⟨digits, behind⟩, ⟨_, behind'⟩, hx, hy, rfl, hbehind⟩ := hdigits.cases
      · rw [hx]
        exact .error
      · simp only [hx, hy]
        cases ofCode? (hexValue digits) with
        | none => exact .error
        | some a => exact .ok ⟨rfl, hbehind⟩

theorem carries_readProperty (negated : Bool) (h : Extends s c c') :
    Carries (Onward Eq s) (readProperty false negated c) (readProperty false negated c') := by
  obtain @⟨_ | ⟨x, _ | ⟨b, t⟩⟩, pos, pos', hs⟩ := h
  · exact .error
  · exact .error
  have ht : t <:+ s := (List.suffix_cons b t).trans ((List.suffix_cons x _).trans hs)
  simp only [readProperty, List.cons_append, Cursor.advance_false, Cursor.next_cons,
    Cursor.peek?_cons]
  split
  · exact .error
  · next heq =>
    cases heq
    obtain ⟨digits, close, close', hread, hread', hend, hend', hclose⟩ |
      ⟨digits, close, hread, hend⟩ := readBraced_cases '\x7b' ht (pos + 1) (pos' + 1)
    · simp only [hread, hread', hend, hend', Bool.false_eq_true, if_false]
      exact .ok ⟨rfl, hclose.next hend⟩
    · simp only [hread, hend, if_true]
      exact .error
  · exact .error
  · next heq =>
    cases heq
    exact .ok ⟨rfl, .mk _ _ ht⟩

theorem scans_letters : Scans isBoundaryLetter (fun name a _ => a :: name) List.reverse
    (readBoundary?.letters false) :=
  ⟨fun _ _ => rfl, fun _ _ _ => rfl, fun _ _ _ _ _ => rfl⟩

theorem carries_readBoundary? (escape escape' : Cursor) (h : Extends s c c') :
    Carries (Option.Rel (Onward Eq s)) (readBoundary? false escape c)
      (readBoundary? false escape' c') := by
  obtain @⟨_ | ⟨x, _ | ⟨b, t⟩⟩, pos, pos', hs⟩ := h
  · exact .error
  · exact .error
  have hbody : b :: t <:+ s := (List.suffix_cons x _).trans hs
  simp only [readBoundary?, List.cons_append, Cursor.advance_false, Cursor.next_cons,
    Cursor.peek?_cons]
  refine .ite (fun _ => .ok .none) fun _ => ?_
  obtain ⟨name, close, close', hx, hy, hclose⟩ := scans_letters.exists_onward (fun _ _ _ _ => rfl)
    (by decide) [] (.mk (pos + 1) (pos' + 1) hbody)
  rw [List.cons_append] at hy
  simp only [hx, hy]
  by_cases hbrace : close.peek? = some '\x7d'
  · have hnext := hclose.next (atEnd_of_peek? hbrace)
    simp only [hbrace, (hclose.peek?_eq_some (by decide)).mpr hbrace, bne_self_eq_false,
      Bool.false_eq_true, if_false]
    split
    · exact .ok (.some ⟨rfl, hnext⟩)
    · exact .ok (.some ⟨rfl, hnext⟩)
    · exact .ok (.some ⟨rfl, hnext⟩)
    · exact .ok (.some ⟨rfl, hnext⟩)
    · exact .error
  · rw [if_pos (bne_iff_ne.mpr hbrace)]
    exact .error

/-- **An escape reads the same with more text behind.** -/
theorem carries_readEscape (h : t <:+ s) :
    Carries (Onward Eq s) (readEscape false ⟨pos, a :: t⟩)
      (readEscape false ⟨pos', a :: (t ++ ['$'])⟩) := by
  obtain _ | ⟨b, u⟩ := t
  · exact .error
  have hu : u <:+ s := (List.suffix_cons b u).trans h
  simp only [readEscape, List.cons_append, Cursor.next_cons, Cursor.peek?_cons]
  refine .ite (fun _ => .error) fun _ => .ite (fun _ => ?_) fun _ =>
    .ite (fun _ => ?_) fun _ => .ite (fun _ => ?_) fun _ => ?_
  · exact carries_readHex b (.mk (pos + 1) (pos' + 1) h)
  · exact carries_readProperty _ (.mk (pos + 1) (pos' + 1) h)
  · exact .ok ⟨rfl, .mk _ _ hu⟩
  by_cases hb : b = 'b'
  · subst hb
    have hbehind := Extends.mk (s := s) (pos + 1 + 1) (pos' + 1 + 1) hu
    simp only [beq_iff_eq, hbehind.peek?_eq_some (a := '\x7b') (by decide)]
    refine .ite (fun _ => ?_) fun _ => .ok ⟨rfl, hbehind⟩
    obtain ⟨e, hx⟩ | ⟨edge, edge', hx, hy, hedge⟩ := (carries_readBoundary? _ _ hbehind).cases
    · rw [hx]
      exact .error
    · rw [hx, hy]
      cases hedge with
      | none => exact .ok ⟨rfl, hbehind⟩
      | some hclose => exact .ok ⟨congrArg Atom.anchor hclose.1, hclose.2⟩
  · split <;> first | exact .ok ⟨rfl, .mk _ _ hu⟩ | exact .error | contradiction

end Atom

namespace Reader

theorem scans_skipBlanks : Scans Unicode.isWhiteSpace (fun x _ _ => x) id
    (fun (x : Unit) c n => (x, readCount.skipBlanks c n)) where
  zero _ _ := rfl
  nil _ _ _ := rfl
  cons x pos a t n := by
    by_cases ha : Unicode.isWhiteSpace a
    · simp [readCount.skipBlanks, ha]
    · simp [readCount.skipBlanks, ha]

theorem scans_readDigits : Scans Char.isDigit (fun digits a _ => a :: digits) List.reverse
    (readCount.readDigits false) :=
  ⟨fun _ _ => rfl, fun _ _ _ => rfl, fun _ _ _ _ _ => rfl⟩

theorem extends_skipBlanks (h : Extends s c c') :
    Extends s (readCount.skipBlanks c c.rest.length) (readCount.skipBlanks c' c'.rest.length) := by
  obtain ⟨_, d, d', hx, hy, hd⟩ :=
    scans_skipBlanks.exists_onward (fun _ _ _ _ => rfl) (by decide) () h
  obtain ⟨-, rfl⟩ := Prod.mk.inj hx
  obtain ⟨-, rfl⟩ := Prod.mk.inj hy
  exact hd

theorem onward_readCount (h : Extends s c c') :
    Onward (Carries Eq) s (readCount false c) (readCount false c') := by
  have hstart := extends_skipBlanks h
  obtain ⟨digits, stop, stop', hx, hy, hstop⟩ :=
    scans_readDigits.exists_onward (fun _ _ _ _ => rfl) (by decide) [] hstart
  have hbehind := extends_skipBlanks hstop
  simp only [readCount, hx, hy]
  exact ⟨.ite (fun _ => .error) fun _ => .ite (fun _ => .error) fun _ => .ok rfl, hbehind⟩

theorem extends_skipLazy (h : Extends s c c') : Extends s (skipLazy c) (skipLazy c') := by
  simp only [skipLazy, beq_iff_eq, h.peek?_eq_some (a := '?') (by decide)]
  split_ifs with hlazy
  · exact h.next (atEnd_of_peek? hlazy)
  · exact h

/-- The same counts, and the same place behind them. -/
def Counted (s : List Char) (x y : ℕ × Option ℕ × Cursor) : Prop :=
  x.1 = y.1 ∧ Onward Eq s x.2 y.2

theorem counted (lo : ℕ) (hi : Option ℕ) (h : Extends s c c') :
    Counted s (lo, hi, c) (lo, hi, c') := ⟨rfl, rfl, h⟩

/-- What is read behind the counts of a repetition that starts at a place. -/
def closeBounds (c : Cursor) (x : ℕ × Option ℕ × Cursor) :
    Except Fault (ℕ × Option ℕ × Cursor) :=
  if x.2.2.peek? != some '\x7d' then .error { kind := .countUnclosed, span := c.spanTo x.2.2 }
  else
    let behind := skipLazy x.2.2.next
    if x.2.1.any (· < x.1) then .error { kind := .countOrder, span := c.spanTo behind }
    else .ok (x.1, x.2.1, behind)

theorem readBounds_eq (c : Cursor) :
    readBounds false c =
      if c.next.atEnd then .error { kind := .countUnclosed, span := c.spanTo c.next }
      else
        let (first, behind) := readCount false c.next
        if behind.atEnd then .error { kind := .countUnclosed, span := c.spanTo behind }
        else if behind.peek? == some ',' then
          let second := behind.next
          if second.atEnd then .error { kind := .countUnclosed, span := c.spanTo second }
          else first >>= fun lo =>
            if second.peek? == some '\x7d' then closeBounds c (lo, none, second)
            else
              let (last, close) := readCount false second
              last >>= fun hi => closeBounds c (lo, some hi, close)
        else first >>= fun n => closeBounds c (n, some n, behind) := by
  have hthrow {β γ : Type} (e : Fault) (rest : β → Except Fault γ) :
      (throw e >>= rest : Except Fault γ) = .error e := rfl
  -- each test for an error stands in front of a copy of the rest; the copy behind the error goes
  unfold readBounds
  simp only [hthrow, pure_bind, Cursor.advance_false]
  rfl

theorem carries_closeBounds (c c' : Cursor) {x y : ℕ × Option ℕ × Cursor} (h : Counted s x y) :
    Carries (Counted s) (closeBounds c x) (closeBounds c' y) := by
  obtain ⟨lo, hi, close⟩ := x
  obtain ⟨lo', hi', close'⟩ := y
  obtain ⟨rfl, rfl, hclose⟩ := h
  simp only [closeBounds, bne_iff_ne, ne_eq, hclose.peek?_eq_some (a := '\x7d') (by decide)]
  refine .guard id fun hbrace => .guard id fun _ => .ok ⟨rfl, rfl, ?_⟩
  exact extends_skipLazy (hclose.next (atEnd_of_peek? (not_not.mp hbrace)))

theorem carries_readBounds (h : t <:+ s) :
    Carries (Counted s) (readBounds false ⟨pos, a :: t⟩)
      (readBounds false ⟨pos', a :: (t ++ ['$'])⟩) := by
  have hinner := Extends.mk (pos + 1) (pos' + 1) h
  obtain ⟨hfirst, hbehind⟩ := onward_readCount hinner
  simp only [readBounds_eq, Cursor.next_cons]
  refine .guard (fun _ => hinner.not_atEnd) fun _ => ?_
  refine .guard (fun _ => hbehind.not_atEnd) fun _ => ?_
  simp only [beq_iff_eq, hbehind.peek?_eq_some (a := ',') (by decide)]
  refine .ite (fun hcomma => ?_) fun _ => ?_
  · have hsecond := hbehind.next (atEnd_of_peek? hcomma)
    obtain ⟨hlast, hclose⟩ := onward_readCount hsecond
    refine .guard (fun _ => hsecond.not_atEnd) fun _ => ?_
    refine hfirst.bind fun lo lo' hlo => ?_
    obtain rfl := hlo
    simp only [hsecond.peek?_eq_some (a := '\x7d') (by decide)]
    refine .ite (fun _ => carries_closeBounds _ _ (counted lo none hsecond)) fun _ => ?_
    refine hlast.bind fun hi hi' hhi => ?_
    obtain rfl := hhi
    exact carries_closeBounds _ _ (counted lo (some hi) hclose)
  · refine hfirst.bind fun n n' hn => ?_
    obtain rfl := hn
    exact carries_closeBounds _ _ (counted n (some n) hbehind)

end Reader

end OfflineManifest.Regex
