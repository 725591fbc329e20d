import OfflineManifest.Proofs.Regex.Anchored

/-! # Groups that keep what they match

A group keeps what it matches unless a question mark and a colon stand behind its opening
parenthesis; these groups are numbered in the order in which they open, and one more group in front
moves the numbers of all others. `captures` counts the groups of this kind that the reader opens on
its way through a pattern. A parenthesis in a bracket or behind a backslash opens none. -/

namespace OfflineManifest.Regex

variable {s t : List Char} {a : Char} {pos : ℕ}

/-- **The next part of a pattern opens a group that keeps what it matches**: one without a question
mark, or one with a name. -/
def Cursor.opensCapture (extended : Bool) (c : Cursor) : Bool :=
  let inner := c.advance extended
  c.peek? == some '(' &&
    ((inner.after? "?").isNone || (inner.after? "?P<").isSome || (inner.after? "?<").isSome)

/-- The number of groups that are opened from a place on and keep what they match. -/
def Reader.captures (r : Reader) (c : Cursor) : ℕ :=
  let next := c.skipLayout r.flags.extended
  if next.atEnd then 0
  else
    match r.step next with
    | .error _ => 0
    | .ok (r', behind) =>
      let opened := if next.opensCapture r.flags.extended then 1 else 0
      if behind.rest.length < c.rest.length then opened + r'.captures behind else opened
termination_by c.rest.length

/-- **The number of groups of a pattern that keep what they match.** -/
def captures (pattern : String) : ℕ :=
  Reader.captures { current := Branches.empty 0 } (Cursor.start pattern.toList)

example : captures "(a|(?:(b)))[(]\\(" = 2 := by decide +kernel

/-- **Behind every opening parenthesis** stand a question mark and a colon. -/
def Uncaptured (s : List Char) : Prop := ∀ t, '(' :: t <:+ s → ['?', ':'] <+: t

instance : Decidable (Uncaptured s) :=
  decidable_of_iff (∀ u ∈ s.tails, u.head? = some '(' → ['?', ':'] <+: u.tail) <| by
    simp only [List.mem_tails, List.head?_eq_some_iff, Uncaptured]
    constructor
    · exact fun h t ht => h _ ht ⟨t, rfl⟩
    · rintro h _ ht ⟨t, rfl⟩
      exact h t ht

namespace Uncaptured

theorem of_not_mem (h : '(' ∉ s) : Uncaptured s :=
  fun _ ht => absurd (ht.subset List.mem_cons_self) h

theorem suffix (h : Uncaptured s) (ht : t <:+ s) : Uncaptured t := fun u hu => h u (hu.trans ht)

theorem append (hs : Uncaptured s) (ht : Uncaptured t) : Uncaptured (s ++ t) := by
  induction s with
  | nil => exact ht
  | cons a s ih =>
    intro u hu
    rcases List.suffix_cons_iff.mp hu with heq | hu
    · obtain ⟨rfl, rfl⟩ := List.cons.inj heq
      exact (hs s List.suffix_rfl).trans (List.prefix_append s t)
    · exact ih (hs.suffix (List.suffix_cons a s)) u hu

theorem plainGroups (h : Uncaptured s) : Reader.PlainGroups s := by
  intro t ht
  obtain ⟨u, hu⟩ := h ('?' :: t) ht
  rw [← (List.cons.inj hu).2]
  rfl

theorem not_opensCapture (h : Uncaptured (a :: t)) :
    (⟨pos, a :: t⟩ : Cursor).opensCapture false = false := by
  by_cases ha : a = '('
  · subst ha
    obtain ⟨u, rfl⟩ := h t List.suffix_rfl
    rfl
  · simp [Cursor.opensCapture, ha]

end Uncaptured

/-- The reader opens no group that keeps what it matches. Every step ends at a place of the same
text, so the property of the text is kept. -/
theorem Reader.captures_eq_zero {r r' : Reader} (h : Alike r r') (hs : Uncaptured t) (pos : ℕ) :
    r.captures ⟨pos, t⟩ = 0 := by
  induction hn : t.length using Nat.strongRecOn generalizing r r' t pos with
  | _ n ih =>
    rw [captures, h.left.flags]
    obtain _ | ⟨a, t⟩ := t
    · rfl
    simp only [Cursor.skipLayout_false, Cursor.atEnd_cons, Bool.false_eq_true, if_false,
      hs.not_opensCapture]
    obtain ⟨e, hx⟩ | ⟨⟨r₂, d⟩, ⟨r₂', d'⟩, hx, -, hr, hd⟩ :=
      (carries_step h hs.plainGroups List.suffix_rfl pos 0).cases
    · simp only [hx]
    obtain @⟨u, q, q', hu⟩ := hd
    have hlt : u.length < (a :: t).length := Nat.lt_succ_of_le hu.length_le
    have hrest := ih u.length (hn ▸ hlt) hr (hs.suffix (hu.trans (List.suffix_cons a t))) q rfl
    simp only [hx, if_pos hlt, hrest]

theorem Uncaptured.captures_eq_zero {pattern : String} (h : Uncaptured pattern.toList) :
    captures pattern = 0 :=
  Reader.captures_eq_zero Reader.alike_anchored h 0

end OfflineManifest.Regex
