import OfflineManifest.Proofs.Except
import OfflineManifest.Proofs.Regex.Matching
import OfflineManifest.Regex.Parser

/-! # The alternatives of a pattern

A bar outside of groups and brackets parts a pattern into alternatives (`alternatives?`); any one of
them is what the pattern matches (`alternatives?_of_parse?`).

What the reader keeps of a pattern is sketched as the pieces that it matches (`Branches.sketch`). If
an anchor stands at the start of the same pattern, then the sketch differs only outside of all
groups: the anchor is the first member of the first alternative there (`Opens`, `Stacked`), and no
other alternative has any part of it. So with one more anchor at the end the pattern does not match
whole texts: its first alternative is held at the start alone, and its last one at the end alone
(`Opens.held_iff`). -/

namespace OfflineManifest.Regex

variable {s t : List Char} {c c' : Cursor} {pos pos' n stop : ℕ} {a : Char}

/-! ### The alternatives of a pattern -/

/-- The alternatives in order, if the last one ends at a place. -/
def Branches.alternatives (b : Branches) (stop : ℕ) : List Regex :=
  (b.sequence stop :: b.finished).reverse.map Prod.fst

theorem Branches.exists_alternatives (b : Branches) (stop : ℕ) :
    ∃ first rest, b.alternatives stop = first :: rest ∧
      (b.whole stop).1 = eitherAll first rest := by
  rw [alternatives, whole]
  rcases h : (b.sequence stop :: b.finished).reverse with _ | ⟨first, rest⟩
  · simp at h
  · exact ⟨first.1, rest.map Prod.fst, rfl, rfl⟩

namespace Reader

/-- Reads to the end of a pattern: the reader there, and the place. -/
def readAll (r : Reader) (c : Cursor) : Except Fault (Reader × ℕ) :=
  let next := c.skipLayout r.flags.extended
  if next.atEnd then .ok (r, next.pos)
  else
    match r.step next with
    | .error e => .error e
    | .ok (r', behind) =>
      if behind.rest.length < c.rest.length then readAll r' behind else .ok (r', behind.pos)
termination_by c.rest.length

theorem run_eq_bind (r : Reader) (c : Cursor) :
    r.run c = r.readAll c >>= fun x => x.1.finish x.2 := by
  fun_induction readAll r c with
  | case1 r c next h =>
    rw [run, if_pos h]
    rfl
  | case2 r c next h e hstep =>
    simp only [next] at hstep
    rw [run, if_neg h, hstep]
    rfl
  | case3 r c next h r' behind hstep hlt ih =>
    simp only [next] at hstep
    rw [run, if_neg h, hstep]
    simp only [if_pos hlt]
    exact ih
  | case4 r c next h r' behind hstep hlt =>
    simp only [next] at hstep
    rw [run, if_neg h, hstep]
    simp only [if_neg hlt]
    rfl

theorem finish_eq_ok {r : Reader} {x : Regex} (h : r.finish stop = .ok x) :
    r.groups = [] ∧ x = (r.current.whole stop).1 := by
  rw [finish] at h
  split at h
  · cases h
  · next hgroups =>
    simp only at h
    rcases hdeep : (r.current.whole stop).2.tooDeep? with _ | span <;>
      rcases hfault : r.fault with _ | fault <;> simp [hdeep, hfault] at h
    exact ⟨hgroups, h.symm⟩

end Reader

/-- **The outermost alternatives of a pattern**, in order; no bar in a group or a bracket parts
them. -/
def alternatives? (pattern : String) : Except Fault (List Regex) := do
  let (r, stop) ← Reader.readAll { current := Branches.empty 0 } (Cursor.start pattern.toList)
  let _ ← r.finish stop
  return r.current.alternatives stop

theorem alternatives?_of_parse? {pattern : String} {x : Regex} (h : parse? pattern = .ok x) :
    ∃ first rest, alternatives? pattern = .ok (first :: rest) ∧ x = eitherAll first rest := by
  rw [parse?, Reader.run_eq_bind] at h
  obtain ⟨⟨r, stop⟩, hread, hfinish⟩ := except_bind_eq_ok.mp h
  obtain ⟨first, rest, halternatives, hwhole⟩ := r.current.exists_alternatives stop
  refine ⟨first, rest, ?_, ?_⟩
  · rw [alternatives?, hread]
    simp only [bind, Except.bind, hfinish, halternatives]
    rfl
  · rw [← hwhole]
    exact (Reader.finish_eq_ok hfinish).2

/-! ### What has been read, as pieces -/

namespace Piece

/-- Pieces of several kinds in a row. -/
def inRow : List Piece → Piece
  | [] => fun _ w _ => w = []
  | P :: Ps => P.andThen (inRow Ps)

/-- Nothing, at the start of the text. -/
def atStart : Piece := fun pre w _ => w = [] ∧ pre = []

/-- Nothing, at the end of the text. -/
def atEnd : Piece := fun _ w post => w = [] ∧ post = []

theorem atStart_andThen {P : Piece} {pre w post : List Char} :
    atStart.andThen P pre w post ↔ pre = [] ∧ P pre w post := by
  constructor
  · rintro ⟨u, v, rfl, ⟨rfl, rfl⟩, h⟩
    exact ⟨rfl, h⟩
  · rintro ⟨rfl, h⟩
    exact ⟨[], w, rfl, ⟨rfl, rfl⟩, h⟩

theorem andThen_atEnd {P : Piece} {pre w post : List Char} :
    P.andThen atEnd pre w post ↔ post = [] ∧ P pre w post := by
  constructor
  · rintro ⟨u, v, rfl, h, rfl, rfl⟩
    exact ⟨rfl, by simpa using h⟩
  · rintro ⟨rfl, h⟩
    exact ⟨w, [], by simp, by simpa using h, rfl, rfl⟩

theorem inRow_append (Ps Qs : List Piece) : inRow (Ps ++ Qs) = (inRow Ps).andThen (inRow Qs) := by
  induction Ps with
  | nil => exact (empty_andThen _).symm
  | cons P Ps ih => rw [List.cons_append, inRow, inRow, ih, andThen_assoc]

/-- **A piece of some kind is part of a text**; one of the first kind only at the start of the text,
one of the last kind only at the end. -/
def Held (Ps : List Piece) (text : List Char) : Prop :=
  ∃ before P after pre w post, Ps = before ++ P :: after ∧ text = pre ++ w ++ post ∧ P pre w post ∧
    (before = [] → pre = []) ∧ (after = [] → post = [])

theorem held_singleton {P : Piece} {text : List Char} : Held [P] text ↔ P [] text [] := by
  constructor
  · rintro ⟨before, Q, after, pre, w, post, hsplit, rfl, h, hpre, hpost⟩
    obtain ⟨rfl, rfl, rfl⟩ : before = [] ∧ P = Q ∧ after = [] := by
      cases before <;> simp_all
    rw [hpre rfl, hpost rfl] at h ⊢
    simpa using h
  · exact fun h => ⟨[], P, [], [], text, [], rfl, by simp, h, fun _ => rfl, fun _ => rfl⟩

theorem held_iff {P S : Piece} {Ms : List Piece} {text : List Char} :
    Held (P :: (Ms ++ [S])) text ↔
      ∃ pre w post, text = pre ++ w ++ post ∧
        (pre = [] ∧ P pre w post ∨ (∃ M ∈ Ms, M pre w post) ∨ post = [] ∧ S pre w post) := by
  constructor
  · rintro ⟨before, Q, after, pre, w, post, hsplit, rfl, h, hpre, hpost⟩
    refine ⟨pre, w, post, rfl, ?_⟩
    rcases before with _ | ⟨R, before⟩
    · obtain ⟨rfl, -⟩ := List.cons.inj hsplit
      exact .inl ⟨hpre rfl, h⟩
    have hrest : Ms ++ [S] = before ++ Q :: after := (List.cons.inj hsplit).2
    rcases List.eq_nil_or_concat after with rfl | ⟨after, T, rfl⟩
    · obtain ⟨-, hS⟩ := List.append_inj' hrest rfl
      obtain rfl : S = Q := List.singleton_inj.mp hS
      exact .inr (.inr ⟨hpost rfl, h⟩)
    · rw [List.concat_eq_append, ← List.cons_append, ← List.append_assoc] at hrest
      obtain ⟨rfl, -⟩ := List.append_inj' hrest rfl
      exact .inr (.inl ⟨Q, List.mem_append_right _ List.mem_cons_self, h⟩)
  · rintro ⟨pre, w, post, htext, ⟨rfl, h⟩ | ⟨M, hM, h⟩ | ⟨rfl, h⟩⟩
    · exact ⟨[], P, Ms ++ [S], [], w, post, rfl, htext, h, fun _ => rfl, by simp⟩
    · obtain ⟨before, after, rfl⟩ := List.append_of_mem hM
      exact ⟨P :: before, M, after ++ [S], pre, w, post, by simp, htext, h, by simp, by simp⟩
    · exact ⟨P :: Ms, S, [], pre, w, [], by simp, htext, h, by simp, fun _ => rfl⟩

end Piece

theorem matches_seqAll (rs : List Regex) : (seqAll rs).Matches = Piece.inRow (rs.map Matches) := by
  induction rs with
  | nil => rfl
  | cons r rs ih => rw [matches_seqAll_cons, ih]; rfl

theorem matches_eitherAll (r : Regex) (rs : List Regex) {pre w post : List Char} :
    (eitherAll r rs).Matches pre w post ↔ ∃ P ∈ (r :: rs).map Matches, P pre w post := by
  induction rs generalizing r with
  | nil => simp [eitherAll]
  | cons s rs ih =>
    show r.Matches pre w post ∨ (eitherAll s rs).Matches pre w post ↔ _
    rw [ih]
    simp

/-- What has been read of a group, as pieces: of the finished alternatives and of the members of
the current sequence, the last one first. -/
structure Sketch where
  finished : List Piece
  items : List Piece

namespace Sketch

/-- The current sequence as a whole. -/
def sequence (k : Sketch) : Piece := Piece.inRow k.items.reverse

/-- The pieces of all alternatives, in order. -/
def alternatives (k : Sketch) : List Piece := (k.sequence :: k.finished).reverse

/-- All alternatives as a whole. -/
def whole (k : Sketch) : Piece := fun pre w post => ∃ P ∈ k.alternatives, P pre w post

/-- One more member in the current sequence. -/
def push (k : Sketch) (P : Piece) : Sketch := ⟨k.finished, P :: k.items⟩

/-- What there is behind a bar. -/
def bar (k : Sketch) : Sketch := ⟨k.sequence :: k.finished, []⟩

theorem sequence_push_atEnd (k : Sketch) :
    (k.push Piece.atEnd).sequence = k.sequence.andThen Piece.atEnd := by
  rw [sequence, push, List.reverse_cons, Piece.inRow_append]
  exact congrArg _ (Piece.andThen_empty _)

end Sketch

namespace Branches

/-- What has been read of a group, as pieces. -/
def sketch (b : Branches) : Sketch :=
  ⟨b.finished.map fun x => x.1.Matches, b.items.map fun item => item.regex.Matches⟩

theorem matches_sequence (b : Branches) (stop : ℕ) :
    (b.sequence stop).1.Matches = b.sketch.sequence := by
  simp only [sequence, matches_seqAll, Sketch.sequence, sketch, List.map_map, List.map_reverse]
  rfl

theorem map_matches_alternatives (b : Branches) (stop : ℕ) :
    (b.alternatives stop).map Matches = b.sketch.alternatives := by
  simp only [alternatives, List.map_map, List.map_reverse, List.map_cons,
    matches_sequence, Sketch.alternatives, sketch]
  rfl

theorem matches_whole (b : Branches) (stop : ℕ) : (b.whole stop).1.Matches = b.sketch.whole := by
  obtain ⟨first, rest, halternatives, hwhole⟩ := b.exists_alternatives stop
  funext pre w post
  rw [hwhole, matches_eitherAll, ← halternatives, map_matches_alternatives]
  rfl

theorem sketch_bar (b : Branches) (place : ℕ) : (b.bar place).sketch = b.sketch.bar := by
  simp only [bar, sketch, Sketch.bar, List.map_cons, List.map_nil, matches_sequence]

end Branches

/-! ### The same reading behind an anchor -/

/-- **Outside all groups, one reading starts with an anchor** that the other one does not have. -/
inductive Opens : Sketch → Sketch → Prop
  | first (items : List Piece) : Opens ⟨[], items⟩ ⟨[], items ++ [Piece.atStart]⟩
  | later (finished : List Piece) (P : Piece) (items : List Piece) :
    Opens ⟨finished ++ [P], items⟩ ⟨finished ++ [Piece.atStart.andThen P], items⟩

namespace Opens

variable {k k' : Sketch}

theorem push (h : Opens k k') (P : Piece) : Opens (k.push P) (k'.push P) := by
  cases h with
  | first items => exact .first (P :: items)
  | later finished Q items => exact .later finished Q (P :: items)

theorem bar (h : Opens k k') : Opens k.bar k'.bar := by
  cases h with
  | first items =>
    have : Piece.inRow (items ++ [Piece.atStart]).reverse =
        Piece.atStart.andThen (Piece.inRow items.reverse) := by
      rw [List.reverse_concat]
      rfl
    simp only [Sketch.bar, Sketch.sequence, this]
    exact .later [] _ []
  | later finished P items => exact .later (Piece.inRow items.reverse :: finished) P []

theorem held_iff (h : Opens k k') (text : List Char) :
    (∃ pre w post, text = pre ++ w ++ post ∧ (k'.push Piece.atEnd).whole pre w post) ↔
      Piece.Held k.alternatives text := by
  cases h with
  | first items =>
    have hwhole (pre w post : List Char) :
        (Sketch.push ⟨[], items ++ [Piece.atStart]⟩ Piece.atEnd).whole pre w post ↔
          post = [] ∧ pre = [] ∧ Piece.inRow items.reverse pre w post := by
      rw [Sketch.whole, Sketch.alternatives, Sketch.sequence_push_atEnd]
      simp only [Sketch.push, Sketch.sequence, List.reverse_singleton, List.mem_singleton,
        exists_eq_left, Piece.andThen_atEnd, List.reverse_concat]
      rw [Piece.inRow, Piece.atStart_andThen]
    simp only [hwhole]
    rw [Sketch.alternatives, List.reverse_singleton, Piece.held_singleton]
    constructor
    · rintro ⟨_, w, _, rfl, rfl, rfl, h⟩
      rw [List.nil_append, List.append_nil]
      exact h
    · exact fun h => ⟨[], text, [], by simp, rfl, rfl, h⟩
  | later finished P items =>
    have hwhole (pre w post : List Char) :
        (Sketch.push ⟨finished ++ [Piece.atStart.andThen P], items⟩ Piece.atEnd).whole pre w post ↔
          pre = [] ∧ P pre w post ∨ (∃ M ∈ finished.reverse, M pre w post) ∨
            post = [] ∧ Piece.inRow items.reverse pre w post := by
      rw [Sketch.whole, Sketch.alternatives, Sketch.sequence_push_atEnd]
      simp only [Sketch.push, Sketch.sequence, List.reverse_cons, List.reverse_concat,
        List.cons_append, List.exists_mem_cons_iff, List.mem_append, List.mem_singleton,
        or_and_right, exists_or, exists_eq_left, Piece.atStart_andThen, Piece.andThen_atEnd]
    simp only [hwhole]
    rw [Sketch.alternatives, List.reverse_cons, List.reverse_concat, List.cons_append,
      Piece.held_iff]
    rfl

end Opens

/-- What has been read of all open groups, the innermost first, with and without an anchor at the
start. -/
inductive Stacked : List Sketch → List Sketch → Prop
  | outer {k k' : Sketch} (h : Opens k k') : Stacked [k] [k']
  | inner (k : Sketch) {ks ks' : List Sketch} (h : Stacked ks ks') : Stacked (k :: ks) (k :: ks')

namespace Stacked

variable {k k' l l' : Sketch} {ks ks' : List Sketch}

theorem outermost (h : Stacked [k] [k']) : Opens k k' := by
  cases h with
  | outer h => exact h
  | inner _ h => cases h

theorem replace (h : Stacked (k :: ks) (k' :: ks')) (heq : k = k' → l = l')
    (hopens : Opens k k' → Opens l l') : Stacked (l :: ks) (l' :: ks') := by
  cases h with
  | outer h => exact .outer (hopens h)
  | inner _ h => exact heq rfl ▸ .inner l h

theorem push (h : Stacked (k :: ks) (k' :: ks')) (P : Piece) :
    Stacked (k.push P :: ks) (k'.push P :: ks') :=
  h.replace (fun heq => heq ▸ rfl) fun hopens => hopens.push P

theorem bar (h : Stacked (k :: ks) (k' :: ks')) : Stacked (k.bar :: ks) (k'.bar :: ks') :=
  h.replace (fun heq => heq ▸ rfl) Opens.bar

theorem leave (h : Stacked (k :: l :: ks) (k' :: ks')) :
    ∃ l' ls', ks' = l' :: ls' ∧ Stacked (l.push k.whole :: ks) (l'.push k'.whole :: ls') := by
  cases h with
  | inner _ h =>
    obtain ⟨l', ls', rfl⟩ : ∃ l' ls', ks' = l' :: ls' := by cases h <;> exact ⟨_, _, rfl⟩
    exact ⟨l', ls', rfl, h.push k.whole⟩

/-- The last member can be replaced on both sides. -/
theorem last {P : Piece} {items : List Piece} (h : Stacked (k :: ks) (k' :: ks'))
    (hk : k.items = P :: items) :
    ∃ items', k'.items = P :: items' ∧
      ∀ Q Q', Q = Q' →
        Stacked (⟨k.finished, Q :: items⟩ :: ks) (⟨k'.finished, Q' :: items'⟩ :: ks') := by
  cases h with
  | outer h =>
    cases h with
    | first all =>
      obtain rfl : all = P :: items := hk
      exact ⟨items ++ [Piece.atStart], rfl, fun Q _ h => h ▸ .outer (.first (Q :: items))⟩
    | later finished R all =>
      obtain rfl : all = P :: items := hk
      exact ⟨items, rfl, fun Q _ h => h ▸ .outer (.later finished R (Q :: items))⟩
  | inner _ hrest => exact ⟨items, hk, fun Q _ h => h ▸ .inner _ hrest⟩

end Stacked

end OfflineManifest.Regex
