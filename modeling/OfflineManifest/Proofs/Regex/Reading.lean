import OfflineManifest.Proofs.Regex.Language
import OfflineManifest.Regex.Parser

/-! # What the reader makes of pieces of a pattern

A piece of a pattern *reads as* a language if the reader, whatever it has read before and whatever
follows, steps over the piece and adds members to the current sequence that denote the language in a
row (`Reads`); what follows must not start with a question mark, which would make a repetition at
the end of the piece lazy. A piece *reads as one member* if it adds a single one, to which a
repetition behind it applies (`ReadsNode`). Both go with a bound on the depth of the members.

Pieces in a row read as the product of their languages (`Reads.append`), a single member may be
repeated (`ReadsNode.repeat`), and a piece in a group reads as one member (`Reads.group`).

* `parse?_of_reads`: a piece is a well-formed pattern, which denotes the language of the piece.
* `parse?_anchored`: a piece between anchors is a well-formed pattern, which matches the texts of
  the language of the piece. -/

namespace OfflineManifest.Regex

open Computability

/-! ### Depth -/

namespace Shape

theorem length_mergeLevels_le : ∀ {a b : List Span} {d : ℕ}, a.length ≤ d → b.length ≤ d →
    (mergeLevels a b).length ≤ d
  | [], b, d, _, hb => hb
  | s :: a, [], d, ha, _ => ha
  | s :: a, t :: b, d, ha, hb => by
    obtain ⟨e, rfl⟩ : ∃ e, d = e + 1 := Nat.exists_eq_add_of_le' (by simp at ha; omega)
    have := length_mergeLevels_le (a := a) (b := b) (d := e) (by simpa using ha) (by simpa using hb)
    simpa [mergeLevels] using this

theorem length_levels_around_le {span : Span} {inner : List Shape} {d : ℕ}
    (h : ∀ s ∈ inner, s.levels.length ≤ d) : (around span inner).levels.length ≤ d + 1 := by
  have hfold : (inner.foldr (fun s levels => mergeLevels s.levels levels) []).length ≤ d := by
    induction inner with
    | nil => exact Nat.zero_le d
    | cons s inner ih =>
      exact length_mergeLevels_le (h s List.mem_cons_self)
        (ih fun t ht => h t (List.mem_cons_of_mem _ ht))
  simpa [around] using hfold

theorem length_levels_row_le {span : Span} {inner : List Shape} {d : ℕ}
    (h : ∀ s ∈ inner, s.levels.length ≤ d) : (row span inner).levels.length ≤ d + 1 := by
  match inner with
  | [] => exact Nat.zero_le _
  | [s] => exact (h s List.mem_cons_self).trans (Nat.le_succ d)
  | s :: t :: inner => exact length_levels_around_le h

end Shape

/-! ### Members of a sequence -/

/-- Members of a sequence denote a language in a row and are nested at most to a depth. -/
structure Members (items : List SeqItem) (L : Language Char) (d : ℕ) : Prop where
  denotes : (seqAll (items.map SeqItem.regex)).Denotes L
  depth : ∀ item ∈ items, item.shape.levels.length ≤ d

variable {L M : Language Char} {d e : ℕ} {t u : List Char}

theorem Members.append {items others : List SeqItem} (h : Members items L d)
    (k : Members others M d) : Members (items ++ others) (L * M) d where
  denotes := by
    rw [List.map_append]
    exact h.denotes.seqAll_append k.denotes
  depth item hitem := (List.mem_append.mp hitem).elim (h.depth item) (k.depth item)

theorem Members.mono {items : List SeqItem} (h : Members items L d) (hd : d ≤ e) :
    Members items L e :=
  ⟨h.denotes, fun item hitem => (h.depth item hitem).trans hd⟩

theorem length_levels_row_items_le {items : List SeqItem}
    (h : ∀ item ∈ items, item.shape.levels.length ≤ d) (span : Span) :
    (Shape.row span (items.map SeqItem.shape)).levels.length ≤ d + 1 := by
  refine Shape.length_levels_row_le fun s hs => ?_
  obtain ⟨item, hitem, rfl⟩ := List.mem_map.mp hs
  exact h item hitem

namespace Reader

theorem foldl_push (r : Reader) (items : List SeqItem) :
    items.foldl push r =
      { r with current := { r.current with items := items.reverse ++ r.current.items } } := by
  induction items generalizing r with
  | nil => rfl
  | cons item items ih => simp [ih, push, Branches.push]

/-- **A piece of a pattern reads as a language.** -/
structure Reads (t : List Char) (L : Language Char) (d : ℕ) : Prop where
  head : t.head? ≠ some '?'
  run : ∀ (r : Reader) (pos : ℕ) (rest : List Char), r.flags = {} → rest.head? ≠ some '?' →
    ∃ items, Members items L d ∧
      r.run ⟨pos, t ++ rest⟩ = (items.foldl push r).run ⟨pos + t.length, rest⟩

/-- **A piece of a pattern reads as one member**, whatever follows. -/
structure ReadsNode (t : List Char) (L : Language Char) (d : ℕ) : Prop where
  ne_nil : t ≠ []
  head : t.head? ≠ some '?'
  run : ∀ (r : Reader) (pos : ℕ) (rest : List Char), r.flags = {} →
    ∃ node shape, node.Denotes L ∧ shape.levels.length ≤ d ∧
      r.run ⟨pos, t ++ rest⟩ = (r.push (.node node shape)).run ⟨pos + t.length, rest⟩

/-! ### Pieces in a row -/

theorem reads_nil : Reads [] 1 d where
  head := by simp
  run r pos rest _ _ := ⟨[], ⟨denotes_empty, by simp⟩, rfl⟩

theorem Reads.mono (h : Reads t L d) (hd : d ≤ e) : Reads t L e where
  head := h.head
  run r pos rest hf hrest :=
    let ⟨items, hi, hrun⟩ := h.run r pos rest hf hrest
    ⟨items, hi.mono hd, hrun⟩

theorem Reads.append (h : Reads t L d) (k : Reads u M d) : Reads (t ++ u) (L * M) d where
  head := by
    cases t with
    | nil => exact k.head
    | cons a t => exact h.head
  run r pos rest hf hrest := by
    have hhead : (u ++ rest).head? ≠ some '?' := by
      cases u with
      | nil => exact hrest
      | cons a u => exact k.head
    obtain ⟨items, hi, hrun⟩ := h.run r pos (u ++ rest) hf hhead
    have hflags : (items.foldl push r).flags = {} := by rw [foldl_push]; exact hf
    obtain ⟨others, ho, hrun'⟩ := k.run (items.foldl push r) (pos + t.length) rest hflags hrest
    refine ⟨items ++ others, hi.append ho, ?_⟩
    rw [List.append_assoc, hrun, hrun', List.foldl_append, List.length_append, Nat.add_assoc]

theorem ReadsNode.reads (h : ReadsNode t L d) : Reads t L d where
  head := h.head
  run r pos rest hf _ := by
    obtain ⟨node, shape, hd, hs, hrun⟩ := h.run r pos rest hf
    exact ⟨[.node node shape], ⟨hd, by simpa [SeqItem.shape] using hs⟩, hrun⟩

/-! ### Single steps -/

theorem run_of_step {r r' : Reader} {pos pos' : ℕ} {rest rest' : List Char} (hf : r.flags = {})
    (hs : r.step ⟨pos, rest⟩ = .ok (r', ⟨pos', rest'⟩)) (hlt : rest'.length < rest.length) :
    r.run ⟨pos, rest⟩ = r'.run ⟨pos', rest'⟩ := by
  have hne : rest.isEmpty = false := by
    rw [List.isEmpty_eq_false_iff]
    rintro rfl
    simp at hlt
  rw [Reader.run]
  simp only [hf, Cursor.skipLayout, Cursor.atEnd, hne, Bool.false_eq_true, if_false, hs, if_pos hlt]

/-- One step that adds a member reads a piece as that member. -/
theorem ReadsNode.of_step {a : Char} {node : Regex} (shape : ℕ → Shape) (ha : a ≠ '?')
    (hd : node.Denotes L) (hdepth : ∀ pos, (shape pos).levels.length ≤ d)
    (hs : ∀ (r : Reader) (pos : ℕ) (rest : List Char), r.flags = {} →
      r.step ⟨pos, a :: (t ++ rest)⟩ =
        .ok (r.push (.node node (shape pos)), ⟨pos + (t.length + 1), rest⟩)) :
    ReadsNode (a :: t) L d where
  ne_nil := List.cons_ne_nil a t
  head := by simpa using ha
  run r pos rest hf :=
    ⟨node, shape pos, hd, hdepth pos, run_of_step hf (hs r pos rest hf) (by
      rw [List.length_append, List.length_cons]
      omega)⟩

/-- The characters that do not stand for themselves outside brackets. -/
def syntaxChars : List Char := ['(', ')', '|', '[', '?', '*', '+', '\x7b', '\\', '.', '^', '$']

theorem regex_literal (span : Span) (c : Char) :
    (Atom.literal c false).regex {} span = .ok (.chars (CharSet.single c)) :=
  rfl

theorem regex_dot (span : Span) : Atom.dot.regex {} span = .ok (.chars (· != '\n')) := rfl

theorem step_literal {r : Reader} {c : Char} (hc : c ∉ syntaxChars) (hf : r.flags = {}) (pos : ℕ)
    (rest : List Char) :
    r.step ⟨pos, c :: rest⟩ =
      .ok (r.push (.node (.chars (CharSet.single c)) (Shape.leaf ⟨pos, pos + 1⟩)),
        ⟨pos + 1, rest⟩) := by
  simp only [syntaxChars, List.mem_cons, List.not_mem_nil, or_false, not_or] at hc
  simp [step, readAtom, Cursor.peek?, Cursor.next, hc, hf, regex_literal, pushRegex, Cursor.spanTo,
    bind, Except.bind, pure, Except.pure]

theorem readsNode_literal {c : Char} (hc : c ∉ syntaxChars) :
    ReadsNode [c] (letters (CharSet.single c)) d := by
  have hq : c ≠ '?' := by
    rintro rfl
    exact hc (by decide)
  exact ReadsNode.of_step (fun pos => Shape.leaf ⟨pos, pos + 1⟩) hq (denotes_chars _)
    (fun _ => Nat.zero_le d) fun r pos rest hf => step_literal hc hf pos rest

/-- The characters that a backslash makes stand for themselves. -/
def escapedChars : List Char :=
  ['\\', '.', '+', '?', '*', '^', '$', '|', '(', ')', '[', ']', '\x7b', '\x7d', '#', '&', '-', '~',
    '/']

theorem step_escaped {r : Reader} {c : Char} (hc : c ∈ escapedChars) (hf : r.flags = {}) (pos : ℕ)
    (rest : List Char) :
    r.step ⟨pos, '\\' :: c :: rest⟩ =
      .ok (r.push (.node (.chars (CharSet.single c)) (Shape.leaf ⟨pos, pos + 2⟩)),
        ⟨pos + 2, rest⟩) := by
  have hall : escapedChars.all (fun c => !c.isDigit && !(c == 'x' || c == 'u' || c == 'U') &&
      !(c == 'p' || c == 'P') && Atom.isEscapable c) = true := by
    decide
  obtain ⟨⟨⟨h1, h2⟩, h3⟩, h4⟩ : ((c.isDigit = false ∧ (c == 'x' || c == 'u' || c == 'U') = false) ∧
      (c == 'p' || c == 'P') = false) ∧ Atom.isEscapable c = true := by
    simpa only [Bool.and_eq_true, Bool.not_eq_true'] using List.all_eq_true.mp hall c hc
  simp [step, readAtom, Atom.readEscape, Cursor.peek?, Cursor.next, h1, h2, h3, h4, hf,
    regex_literal, pushRegex, Cursor.spanTo, bind, Except.bind, pure, Except.pure]

theorem readsNode_escaped {c : Char} (hc : c ∈ escapedChars) :
    ReadsNode ['\\', c] (letters (CharSet.single c)) d :=
  ReadsNode.of_step (fun pos => Shape.leaf ⟨pos, pos + 2⟩) (by decide) (denotes_chars _)
    (fun _ => Nat.zero_le d) fun r pos rest hf => step_escaped hc hf pos rest

theorem readsNode_dot : ReadsNode ['.'] (letters (· != '\n')) d := by
  refine ReadsNode.of_step (fun pos => Shape.leaf ⟨pos, pos + 1⟩) (by decide)
    (denotes_chars _) (fun _ => Nat.zero_le d) fun r pos rest hf => ?_
  simp [step, readAtom, regex_dot, Cursor.peek?, Cursor.next, hf, pushRegex, Cursor.spanTo, bind,
    Except.bind, pure, Except.pure]

/-- What is read of the bracket around the characters other than a slash. -/
def notSlash (pos : ℕ) : SetItem where
  set := (CharSet.none.union (CharSet.single '/')).compl
  shape := Shape.around ⟨pos, pos + 4⟩ [Shape.leaf ⟨pos + 2, pos + 3⟩]

theorem readBracketed_notSlash (pos : ℕ) (rest : List Char) :
    readBracketed {} ⟨pos, '[' :: '^' :: '/' :: ']' :: rest⟩ =
      .ok (notSlash pos, none, ⟨pos + 4, rest⟩) := by
  have hopen : Bracket.open? false ⟨pos, '[' :: '^' :: '/' :: ']' :: rest⟩ =
      .ok ({ opened := ⟨pos, pos + 2⟩, negated := true }, ⟨pos + 2, '/' :: ']' :: rest⟩) := rfl
  have hslash (b : Bracket) : BracketState.step {} ⟨b, [], none⟩ ⟨pos + 2, '/' :: ']' :: rest⟩ =
      .ok (.more ⟨b.push ⟨CharSet.single '/', Shape.leaf ⟨pos + 2, pos + 3⟩⟩, [], none⟩
        ⟨pos + 3, ']' :: rest⟩) := rfl
  have hclose : BracketState.step {}
      ⟨{ opened := ⟨pos, pos + 2⟩, negated := true,
          items := [⟨CharSet.single '/', Shape.leaf ⟨pos + 2, pos + 3⟩⟩] }, [], none⟩
      ⟨pos + 3, ']' :: rest⟩ = .ok (.done (notSlash pos) none ⟨pos + 4, rest⟩) := rfl
  unfold readBracketed
  simp only [hopen, bind, Except.bind]
  rw [BracketState.run, hslash]
  simp only [List.length_cons, Nat.lt_add_one, if_true]
  rw [BracketState.run]
  exact hclose ▸ rfl

theorem step_notSlash {r : Reader} (hf : r.flags = {}) (pos : ℕ) (rest : List Char) :
    r.step ⟨pos, '[' :: '^' :: '/' :: ']' :: rest⟩ =
      .ok (r.push (.node (.chars (notSlash pos).set) (notSlash pos).shape), ⟨pos + 4, rest⟩) := by
  obtain ⟨flags, current, groups, names, fault⟩ := r
  obtain rfl : flags = {} := hf
  simp [step, Cursor.peek?, readBracketed_notSlash, bind, Except.bind, pure, Except.pure]

theorem readsNode_notSlash : ReadsNode ['[', '^', '/', ']'] (letters (· != '/')) (d + 1) := by
  have hset (pos : ℕ) : (notSlash pos).set = (· != '/') := by
    funext c
    simp [notSlash, CharSet.compl, CharSet.union, CharSet.none, CharSet.single, bne]
  refine ReadsNode.of_step (fun pos => (notSlash pos).shape) (by decide)
    (denotes_chars _) (fun pos => Shape.length_levels_around_le (by simp [Shape.leaf]))
    fun r pos rest hf => ?_
  rw [← hset pos]
  exact step_notSlash hf pos rest

/-! ### Repetitions and groups -/

theorem ReadsNode.repeat (h : ReadsNode t L d) {q : Char} {lo : ℕ} {hi : Option ℕ}
    (hq : ∀ (r : Reader) (pos : ℕ) (rest : List Char),
      r.step ⟨pos, q :: rest⟩ = r.repeatLast ⟨pos, q :: rest⟩ (fixedBounds lo hi))
    (hM : ∀ node : Regex, node.Denotes L → (times node lo hi).Denotes M) :
    Reads (t ++ [q]) M (d + 1) where
  head := by
    obtain ⟨a, t, rfl⟩ := List.exists_cons_of_ne_nil h.ne_nil
    exact h.head
  run r pos rest hf hrest := by
    obtain ⟨node, shape, hd, hdepth, hrun⟩ := h.run r pos (q :: rest) hf
    let whole := Shape.around ⟨shape.span.start, pos + t.length + 1⟩ [shape]
    have hstep : (r.push (.node node shape)).step ⟨pos + t.length, q :: rest⟩ =
        .ok (r.push (.node (times node lo hi) whole), ⟨pos + t.length + 1, rest⟩) := by
      have hlazy : skipLazy ⟨pos + t.length + 1, rest⟩ = ⟨pos + t.length + 1, rest⟩ := by
        simp [skipLazy, Cursor.peek?, hrest]
      rw [hq]
      simp [repeatLast, fixedBounds, Reader.push, Branches.push, Cursor.next, hlazy, bind,
        Except.bind, pure, Except.pure, whole]
    refine ⟨[.node (times node lo hi) whole], ⟨hM node hd, ?_⟩, ?_⟩
    · simpa [SeqItem.shape, whole] using Shape.length_levels_around_le (by simpa using hdepth)
    · have hrun' := run_of_step (r := r.push (.node node shape)) hf hstep (by simp)
      rw [List.append_assoc, List.singleton_append, hrun, hrun', List.length_append, Nat.add_assoc]
      rfl

theorem ReadsNode.star (h : ReadsNode t L d) : Reads (t ++ ['*']) L∗ (d + 1) :=
  h.repeat (fun _ _ _ => rfl) fun _ => Denotes.star

theorem ReadsNode.plus (h : ReadsNode t L d) : Reads (t ++ ['+']) (L * L∗) (d + 1) :=
  h.repeat (fun _ _ _ => rfl) fun _ => Denotes.plus

theorem ReadsNode.optional (h : ReadsNode t L d) : Reads (t ++ ['?']) (L + 1) (d + 1) :=
  h.repeat (fun _ _ _ => rfl) fun _ => Denotes.optional

theorem step_openGroup {r : Reader} (hf : r.flags = {}) (pos : ℕ) (rest : List Char) :
    r.step ⟨pos, '(' :: '?' :: ':' :: rest⟩ =
      .ok (r.enter ⟨pos, pos + 1⟩ {} ⟨pos + 3, rest⟩, ⟨pos + 3, rest⟩) := by
  obtain ⟨flags, current, groups, names, fault⟩ := r
  obtain rfl : flags = {} := hf
  rfl

/-- The reader that has read members in a group which opened at a place. -/
def inGroup (r : Reader) (pos : ℕ) (rest : List Char) (items : List SeqItem) : Reader :=
  items.foldl push (r.enter ⟨pos, pos + 1⟩ {} ⟨pos + 3, rest⟩)

/-- The shape of a group around members. -/
def groupShape (pos stop : ℕ) (items : List SeqItem) : Shape :=
  Shape.around ⟨pos, stop + 1⟩ [Shape.row ⟨pos + 3, stop⟩ (items.map SeqItem.shape)]

theorem step_closeGroup {r : Reader} (hf : r.flags = {}) (pos stop : ℕ) (inner rest : List Char)
    (items : List SeqItem) :
    (r.inGroup pos inner items).step ⟨stop, ')' :: rest⟩ =
      .ok (r.push (.node (seqAll (items.map SeqItem.regex)) (groupShape pos stop items)),
        ⟨stop + 1, rest⟩) := by
  obtain ⟨flags, current, groups, names, fault⟩ := r
  obtain rfl : flags = {} := hf
  rw [inGroup, foldl_push]
  simp [step, closeGroup, enter, Branches.whole, Branches.sequence, Branches.empty, Cursor.peek?,
    Cursor.next, push, eitherAll, Shape.row, groupShape]

theorem Reads.group (h : Reads t L d) :
    ReadsNode ('(' :: '?' :: ':' :: (t ++ [')'])) L (d + 2) where
  ne_nil := List.cons_ne_nil _ _
  head := by simp
  run r pos rest hf := by
    let inner := t ++ ')' :: rest
    obtain ⟨items, hi, hrun⟩ :=
      h.run (r.inGroup pos inner []) (pos + 3) (')' :: rest) rfl (by simp)
    have hopen := run_of_step hf (step_openGroup hf pos inner) (by simp; omega)
    have hclose := run_of_step (r := r.inGroup pos inner items) (by rw [inGroup, foldl_push]; rfl)
      (step_closeGroup hf pos (pos + 3 + t.length) inner rest items) (by simp)
    have htext : '(' :: '?' :: ':' :: (t ++ [')']) ++ rest = '(' :: '?' :: ':' :: inner := by
      simp [inner]
    have hlen : pos + ('(' :: '?' :: ':' :: (t ++ [')'])).length = pos + 3 + t.length + 1 := by
      simp
      omega
    refine ⟨_, groupShape pos (pos + 3 + t.length) items, hi.denotes, ?_, ?_⟩
    · exact Shape.length_levels_around_le (by simpa using length_levels_row_items_le hi.depth _)
    · rw [htext, hlen, hopen]
      exact hrun.trans hclose

/-! ### Whole patterns -/

theorem run_nil {r : Reader} (hf : r.flags = {}) (pos : ℕ) : r.run ⟨pos, []⟩ = r.finish pos := by
  rw [Reader.run]
  simp [hf, Cursor.skipLayout, Cursor.atEnd]

theorem finish_foldl_push {items : List SeqItem}
    (h : ∀ item ∈ items, item.shape.levels.length ≤ d) (hd : d < nestLimit) (stop : ℕ) :
    (items.foldl push { current := Branches.empty 0 }).finish stop =
      .ok (seqAll (items.map SeqItem.regex)) := by
  have hdeep : (Shape.row ⟨0, stop⟩ (items.map SeqItem.shape)).tooDeep? = none := by
    have := length_levels_row_items_le h ⟨0, stop⟩
    exact List.getElem?_eq_none (by omega)
  rw [foldl_push]
  simp [finish, Branches.whole, Branches.sequence, Branches.empty, eitherAll, Shape.row] at hdeep ⊢
  rw [hdeep]

/-- **A piece is a pattern by itself**, which denotes the language of the piece. -/
theorem parse?_of_reads (h : Reads t L d) (hd : d < nestLimit) :
    ∃ r : Regex, parse? (String.ofList t) = .ok r ∧ r.Denotes L := by
  obtain ⟨items, hi, hrun⟩ := h.run { current := Branches.empty 0 } 0 [] rfl (by simp)
  refine ⟨seqAll (items.map SeqItem.regex), ?_, hi.denotes⟩
  rw [List.append_nil, run_nil (by rw [foldl_push])] at hrun
  rw [parse?, String.toList_ofList]
  exact hrun.trans (finish_foldl_push hi.depth hd _)

/-- The member that an anchor of one character at a place becomes. -/
def anchorItem (a : Anchor) (pos : ℕ) : SeqItem :=
  .node (.place (a.test {})) (Shape.leaf ⟨pos, pos + 1⟩)

theorem step_lineStart {r : Reader} (hf : r.flags = {}) (pos : ℕ) (rest : List Char) :
    r.step ⟨pos, '^' :: rest⟩ = .ok (r.push (anchorItem .lineStart pos), ⟨pos + 1, rest⟩) := by
  obtain ⟨flags, current, groups, names, fault⟩ := r
  obtain rfl : flags = {} := hf
  rfl

theorem step_lineEnd {r : Reader} (hf : r.flags = {}) (pos : ℕ) (rest : List Char) :
    r.step ⟨pos, '$' :: rest⟩ = .ok (r.push (anchorItem .lineEnd pos), ⟨pos + 1, rest⟩) := by
  obtain ⟨flags, current, groups, names, fault⟩ := r
  obtain rfl : flags = {} := hf
  rfl

/-- **A piece between anchors is a pattern that matches the texts of its language.** -/
theorem parse?_anchored (h : Reads t L d) (hd : d < nestLimit) :
    ∃ r : Regex, parse? (String.ofList ('^' :: (t ++ ['$']))) = .ok r ∧
      ∀ text : List Char, r.isMatch text = true ↔ text ∈ L := by
  let start : Reader := { current := Branches.empty 0 }
  let opened := start.push (anchorItem .lineStart 0)
  have hopen : start.run ⟨0, '^' :: (t ++ ['$'])⟩ = opened.run ⟨1, t ++ ['$']⟩ :=
    run_of_step rfl (step_lineStart rfl 0 _) (by simp)
  obtain ⟨items, hi, hrun⟩ := h.run opened 1 ['$'] rfl (by simp)
  have hflags : (items.foldl push opened).flags = {} := by rw [foldl_push]; rfl
  have hclose := run_of_step hflags (step_lineEnd hflags (1 + t.length) []) (by simp)
  let all := anchorItem .lineStart 0 :: (items ++ [anchorItem .lineEnd (1 + t.length)])
  have hall : ∀ item ∈ all, item.shape.levels.length ≤ d := by
    intro item hitem
    simp only [all, List.mem_cons, List.mem_append, List.not_mem_nil, or_false] at hitem
    rcases hitem with rfl | hitem | rfl
    · exact Nat.zero_le d
    · exact hi.depth item hitem
    · exact Nat.zero_le d
  have hfold : (items.foldl push opened).push (anchorItem .lineEnd (1 + t.length)) =
      all.foldl push start := by
    simp [all, opened, List.foldl_append]
  refine ⟨seqAll (all.map SeqItem.regex), ?_, fun text => ?_⟩
  · rw [parse?, String.toList_ofList]
    refine hopen.trans (hrun.trans (hclose.trans ?_))
    rw [hfold, run_nil (by rw [foldl_push])]
    exact finish_foldl_push hall hd _
  · have hfirst : ∀ before after, Anchor.lineStart.test {} before after = before.isNone :=
      fun _ _ => rfl
    have hlast : ∀ before after, Anchor.lineEnd.test {} before after = after.isNone :=
      fun _ _ => rfl
    have := isMatch_anchored hi.denotes hfirst hlast text
    simpa [all, anchorItem, SeqItem.regex] using this

end Reader

end OfflineManifest.Regex
