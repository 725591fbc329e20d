import OfflineManifest.Proofs.Regex.Continuation

/-! # Bracketed sets with more text behind

A bracketed set reads the same with a dollar sign behind the text (`carries_readBracketed`). What
is kept while brackets are open also holds places and shapes, which differ between the two readings;
the brackets are compared by what decides the characters in them (`Bracket.content`,
`BracketState.Alike`), and one step keeps them alike (`BracketState.carries_step`). -/

namespace OfflineManifest.Regex

variable {s t u : List Char} {c c' : Cursor} {pos pos' n : ℕ} {a : Char}

namespace Bracket

/-- What decides which characters a bracket holds. -/
def content (b : Bracket) : Bool × Option (CharSet × SetOp) × List CharSet :=
  (b.negated, b.left.map fun x => (x.1.set, x.2), b.items.map SetItem.set)

theorem operand_set (b : Bracket) :
    b.operand.set = (b.items.map SetItem.set).foldr (fun t s => s.union t) CharSet.none := by
  rw [operand, List.foldr_map]
  split
  · next h => rw [h]; rfl
  · rfl

theorem value_set (flags : Flags) (b : Bracket) :
    (b.value flags).set =
      match b.left.map fun x => (x.1.set, x.2) with
      | none => b.operand.set
      | some (left, op) => op.apply (flags.fold left) (flags.fold b.operand.set) := by
  rw [value]
  cases b.left <;> rfl

theorem value_set_congr {b b' : Bracket} (flags : Flags) (h : b.content = b'.content) :
    (b.value flags).set = (b'.value flags).set := by
  simp only [content, Prod.mk.injEq] at h
  obtain ⟨-, hleft, hitems⟩ := h
  rw [value_set, value_set, operand_set, operand_set, hleft, hitems]

theorem content_push_congr {b b' : Bracket} {item item' : SetItem}
    (h : b.content = b'.content) (hset : item.set = item'.set) :
    (b.push item).content = (b'.push item').content := by
  simp only [content, Prod.mk.injEq, push, List.map_cons] at h ⊢
  simp [h, hset]

theorem content_operator_congr {b b' : Bracket} (op : SetOp) (h : b.content = b'.content) :
    (b.operator {} op).content = (b'.operator {} op).content := by
  have hvalue := value_set_congr {} h
  simp only [content, Prod.mk.injEq, operator, Option.map_some,
    List.map_nil] at h ⊢
  simp [h, hvalue]

theorem scans_hyphens : Scans (· == '-')
    (fun items _ pos => open?.literal '-' ⟨pos, []⟩ :: items) id (open?.hyphens false) :=
  ⟨fun _ _ => rfl, fun _ _ _ => rfl, fun _ _ _ _ _ => rfl⟩

theorem onward_hyphens (h : Extends s c c') :
    Onward (fun x y => x.map SetItem.set = y.map SetItem.set) s
      (open?.hyphens false [] c c.rest.length) (open?.hyphens false [] c' c'.rest.length) := by
  rw [h.length]
  exact scans_hyphens.onward (Q := fun x y => x.map SetItem.set = y.map SetItem.set)
    (fun _ _ _ _ _ hxy => congrArg (CharSet.single '-' :: ·) hxy) (fun _ _ => id) rfl h
    (Nat.le_refl _) (.inl (by decide))

/-- What is read of a bracket behind the complement sign, at a place, if it opened at another. -/
def openBehindSign (c : Cursor) (negated : Bool) (inner : Cursor) :
    Except Fault (Bracket × Cursor) :=
  if inner.atEnd then .error { kind := .classUnclosed, span := c.spanTo inner }
  else
    let x := open?.hyphens false [] inner inner.rest.length
    if x.2.atEnd then .error { kind := .classUnclosed, span := c.spanTo c }
    else if x.1.isEmpty && x.2.peek? == some ']' then
      if x.2.next.atEnd then .error { kind := .classUnclosed, span := c.spanTo x.2.next }
      else
        .ok ({ opened := c.spanTo x.2.next, negated, items := [open?.literal ']' x.2] }, x.2.next)
    else .ok ({ opened := c.spanTo x.2, negated, items := x.1 }, x.2)

theorem open?_eq (c : Cursor) :
    open? false c =
      if c.next.atEnd then .error { kind := .classUnclosed, span := c.spanTo c.next }
      else
        openBehindSign c (c.next.peek? == some '^')
          (if c.next.peek? == some '^' then c.next.next else c.next) :=
  rfl

theorem carries_openBehindSign (negated : Bool) (o o' : Cursor) (h : Extends s c c') :
    Carries (Onward (fun b b' => b.content = b'.content) s) (openBehindSign o negated c)
      (openBehindSign o' negated c') := by
  obtain ⟨hsets, hinner⟩ := onward_hyphens h
  simp only [openBehindSign]
  refine .guard (fun _ => h.not_atEnd) fun _ => ?_
  refine .guard (fun _ => hinner.not_atEnd) fun hend => ?_
  have hempty : (open?.hyphens false [] c' c'.rest.length).1.isEmpty =
      (open?.hyphens false [] c c.rest.length).1.isEmpty := by
    rw [← List.isEmpty_map, ← hsets, List.isEmpty_map]
  simp only [hempty, Bool.and_eq_true, beq_iff_eq, hinner.peek?_eq_some (a := ']') (by decide)]
  refine .ite (fun hfirst => ?_) fun _ => ?_
  · have hbehind := hinner.next (atEnd_of_peek? hfirst.2)
    refine .guard (fun _ => hbehind.not_atEnd) fun _ => .ok ⟨rfl, hbehind⟩
  · exact .ok ⟨by simp [content, hsets], hinner⟩

theorem carries_open? (h : t <:+ s) :
    Carries (Onward (fun b b' => b.content = b'.content) s) (open? false ⟨pos, a :: t⟩)
      (open? false ⟨pos', a :: (t ++ ['$'])⟩) := by
  have hinner := Extends.mk (pos + 1) (pos' + 1) h
  rw [open?_eq, open?_eq, Cursor.next_cons, Cursor.next_cons]
  refine .guard (fun _ => hinner.not_atEnd) fun _ => ?_
  have hsign : ((⟨pos' + 1, t ++ ['$']⟩ : Cursor).peek? == some '^') =
      ((⟨pos + 1, t⟩ : Cursor).peek? == some '^') := by
    rw [Bool.eq_iff_iff, beq_iff_eq, beq_iff_eq, hinner.peek?_eq_some (by decide)]
  rw [hsign]
  split_ifs with hnegated
  · exact carries_openBehindSign _ _ _ (hinner.next (atEnd_of_peek? (beq_iff_eq.mp hnegated)))
  · exact carries_openBehindSign _ _ _ hinner

/-- What is read of a name in brackets, from its first letter on. -/
def named? (negated : Bool) (c : Cursor) : Option (CharSet × Bool × Cursor) :=
  let name := c.rest.takeWhile (· != ':')
  match (c.skip name.length).after? ":]", CharSet.bracketed? (String.ofList name) with
  | some close, some set => some (set, negated, close)
  | _, _ => none

theorem readName?_colon (pos : ℕ) (t : List Char) :
    readName? ⟨pos, '[' :: ':' :: t⟩ =
      if t.head? = some '^' then named? true ⟨pos + 3, t.tail⟩ else named? false ⟨pos + 2, t⟩ := by
  split_ifs with hnegated
  · obtain ⟨t, rfl⟩ : ∃ u, t = '^' :: u := List.head?_eq_some_iff.mp hnegated
    have hskip (n : ℕ) : (⟨pos, '[' :: ':' :: '^' :: t⟩ : Cursor).skip (2 + 1 + n) =
        (⟨pos + 3, t⟩ : Cursor).skip n := Cursor.skip_append ['[', ':', '^'] t pos n
    simp only [readName?, List.head?_cons, BEq.rfl, if_true, List.tail_cons, hskip]
    rfl
  · have hhead : (t.head? == some '^') = false := beq_eq_false_iff_ne.mpr hnegated
    have hskip (n : ℕ) : (⟨pos, '[' :: ':' :: t⟩ : Cursor).skip (2 + 0 + n) =
        (⟨pos + 2, t⟩ : Cursor).skip n := Cursor.skip_append ['[', ':'] t pos n
    simp only [readName?, hhead, Bool.false_eq_true, if_false, hskip]
    rfl

theorem rel_named? (negated : Bool) (h : Extends s c c') :
    Option.Rel (fun x y => x.1 = y.1 ∧ Onward Eq s x.2 y.2) (named? negated c)
      (named? negated c') := by
  obtain @⟨t, pos, pos', hs⟩ := h
  have hskip (pos : ℕ) (t : List Char) :
      (⟨pos, t⟩ : Cursor).skip (t.takeWhile (· != ':')).length =
        ⟨pos + (t.takeWhile (· != ':')).length, t.dropWhile (· != ':')⟩ := by
    have hdrop : t.drop (t.takeWhile (· != ':')).length = t.dropWhile (· != ':') := by
      have := congrArg (List.drop (t.takeWhile (· != ':')).length)
        (List.takeWhile_append_dropWhile (p := (· != ':')) (l := t))
      rw [← this, List.drop_left]
    rw [Cursor.skip, hdrop]
  simp only [named?, hskip]
  rcases ht : t.dropWhile (· != ':') with _ | ⟨a, u⟩
  · rw [List.dropWhile_append, ht]
    exact .none
  · have hname : (t ++ ['$']).takeWhile (· != ':') = t.takeWhile (· != ':') := by
      have hlength := congrArg List.length
        (List.takeWhile_append_dropWhile (p := (· != ':')) (l := t))
      rw [ht, List.length_append, List.length_cons] at hlength
      rw [List.takeWhile_append, if_neg (by omega)]
    have hbehind : Extends s ⟨pos + (t.takeWhile (· != ':')).length, a :: u⟩
        ⟨pos' + (t.takeWhile (· != ':')).length, a :: u ++ ['$']⟩ :=
      .mk _ _ ((ht ▸ List.dropWhile_suffix _).trans hs)
    rw [List.dropWhile_append, ht, hname]
    simp only [List.isEmpty_cons, Bool.false_eq_true, if_false]
    have hafter := hbehind.after? (show '$' ∉ ":]".toList by decide)
    revert hafter
    generalize Cursor.after? ⟨pos + (t.takeWhile (· != ':')).length, a :: u⟩ ":]" = x
    generalize Cursor.after? ⟨pos' + (t.takeWhile (· != ':')).length, a :: u ++ ['$']⟩ ":]" = y
    rintro (hclose | _)
    · cases CharSet.bracketed? (String.ofList (t.takeWhile (· != ':'))) with
      | none => exact .none
      | some set => exact .some ⟨rfl, rfl, hclose⟩
    · exact .none

/-- A name in brackets reads the same with more text behind. -/
theorem rel_readName? (pos pos' : ℕ) (h : t <:+ s) :
    Option.Rel (fun x y => x.1 = y.1 ∧ Onward Eq s x.2 y.2) (readName? ⟨pos, '[' :: t⟩)
      (readName? ⟨pos', '[' :: (t ++ ['$'])⟩) := by
  obtain _ | ⟨a, u⟩ := t
  · exact .none
  by_cases ha : a = ':'
  · subst ha
    have hu := (List.suffix_cons ':' u).trans h
    rw [List.cons_append, readName?_colon, readName?_colon]
    obtain _ | ⟨b, v⟩ := u
    · exact rel_named? false (.mk (pos + 2) (pos' + 2) hu)
    · rw [List.cons_append, List.head?_cons, List.head?_cons]
      by_cases hb : some b = some '^'
      · rw [if_pos hb, if_pos hb]
        exact rel_named? true (.mk _ _ ((List.suffix_cons b v).trans hu))
      · rw [if_neg hb, if_neg hb]
        exact rel_named? false (.mk _ _ hu)
  · have hnone (pos : ℕ) (t : List Char) : readName? ⟨pos, '[' :: a :: t⟩ = none := by
      simp [readName?, ha]
    rw [List.cons_append, hnone, hnone]
    exact .none

end Bracket

namespace BracketState

/-- The same brackets are open and hold the same characters. -/
def Alike (s s' : BracketState) : Prop :=
  s.current.content = s'.current.content ∧
    s.outer.map Bracket.content = s'.outer.map Bracket.content

theorem Alike.push {σ σ' : BracketState} {x y : Except Fault CharSet} (h : Alike σ σ')
    (hxy : x.toOption = y.toOption) (span span' : Span) :
    Alike (σ.push span x) (σ'.push span' y) := by
  cases x <;> cases y
  · exact ⟨Bracket.content_push_congr h.1 rfl, h.2⟩
  · cases hxy
  · cases hxy
  · exact ⟨Bracket.content_push_congr h.1 (Option.some.inj hxy), h.2⟩

theorem toOption_namedSet? (span span' : Span) (atom : Atom) :
    Option.Rel (fun x y => x.toOption = y.toOption) (atom.namedSet? {} span)
      (atom.namedSet? {} span') := by
  cases atom with
  | literal c byte => exact .none
  | dot => exact .none
  | anchor a => exact .none
  | shorthand s negated => exact .some (by cases negated <;> rfl)
  | property negated name =>
    refine .some ?_
    simp only [Bool.not_true, Bool.false_eq_true, if_false]
    cases name.set? with
    | error kind => rfl
    | ok s => cases negated <;> cases name.isUnequal <;> rfl

theorem carries_atomSet (span span' : Span) (atom : Atom) :
    Carries (fun x y => x.toOption = y.toOption) (atomSet {} span atom)
      (atomSet {} span' atom) := by
  cases atom with
  | literal c byte => exact .ok rfl
  | dot => exact .error
  | anchor a => exact .error
  | shorthand s negated => exact .ok (by cases negated <;> rfl)
  | property negated name =>
    obtain h | _ := toOption_namedSet? span span' (.property negated name)
    exact .ok h

theorem carries_readAtom (h : t <:+ s) :
    Carries (Onward Eq s) (readAtom false ⟨pos, a :: t⟩)
      (readAtom false ⟨pos', a :: (t ++ ['$'])⟩) := by
  by_cases ha : a = '\\'
  · subst ha
    exact Atom.carries_readEscape h
  · simp only [readAtom, Cursor.peek?_cons, Cursor.next_cons]
    exact .ok ⟨rfl, .mk _ _ h⟩

theorem carries_readAtom_extends (h : Extends s c c') :
    Carries (Onward Eq s) (readAtom false c) (readAtom false c') := by
  obtain @⟨_ | ⟨a, t⟩, pos, pos', hs⟩ := h
  · exact .error
  · exact carries_readAtom ((List.suffix_cons a t).trans hs)

theorem carries_rangeEnd (span span' : Span) (atom : Atom) :
    Carries Eq (rangeEnd span atom) (rangeEnd span' atom) := by
  cases atom with
  | literal c byte => exact .ok rfl
  | _ => exact .error

theorem carries_readItem {σ σ' : BracketState} (hσ : Alike σ σ') (h : t <:+ s) :
    Carries (Onward Alike s) (readItem {} σ ⟨pos, a :: t⟩)
      (readItem {} σ' ⟨pos', a :: (t ++ ['$'])⟩) := by
  simp only [readItem, Cursor.skipLayout_false]
  refine (carries_readAtom h).bind fun x y hxy => ?_
  obtain ⟨first, behind, behind', rfl, rfl, hbehind⟩ := hxy.exists
  dsimp only
  refine .guard (fun _ => hbehind.not_atEnd) fun hend => ?_
  simp only [Bool.or_eq_true, bne_iff_ne, ne_eq, beq_iff_eq,
    hbehind.peek?_eq_some (a := '-') (by decide), hbehind.second?_eq_some (a := ']') (by decide),
    hbehind.second?_eq_some (a := '-') (by decide)]
  refine .ite (fun _ => ?_) fun _ => ?_
  · exact (carries_atomSet _ _ first).bind fun set set' hset => .pure ⟨hσ.push hset _ _, hbehind⟩
  · have hstart := hbehind.next (Bool.not_eq_true _ ▸ hend)
    refine .guard (fun _ => hstart.not_atEnd) fun _ => ?_
    refine (carries_readAtom_extends hstart).bind fun x y hxy => ?_
    obtain ⟨last, stop, stop', rfl, rfl, hstop⟩ := hxy.exists
    refine (carries_rangeEnd _ _ first).bind fun lo lo' hlo => ?_
    refine (carries_rangeEnd _ _ last).bind fun hi hi' hhi => ?_
    obtain rfl := hlo
    obtain rfl := hhi
    exact .guard id fun _ => .pure ⟨hσ.push rfl _ _, hstop⟩

/-- The same set, or brackets that are open and hold the same; and the same place. -/
inductive Progress.Alike (s : List Char) : Progress → Progress → Prop
  | more {σ σ' : BracketState} {c c' : Cursor} (hσ : σ.Alike σ') (h : Extends s c c') :
    Progress.Alike s (.more σ c) (.more σ' c')
  | done {item item' : SetItem} {fault fault' : Option Fault} {c c' : Cursor}
    (hset : item.set = item'.set) (h : Extends s c c') :
    Progress.Alike s (.done item fault c) (.done item' fault' c')

/-- The item that a closed bracket is. -/
def closed (b : Bracket) (c : Cursor) : SetItem :=
  ⟨if b.negated then (b.value {}).set.compl else (b.value {}).set,
    Shape.around ⟨b.opened.start, c.pos + 1⟩ [(b.value {}).shape]⟩

theorem close_eq (σ : BracketState) (c : Cursor) :
    σ.close {} c =
      match σ.outer with
      | [] => .done (closed σ.current c) σ.fault c.next
      | parent :: outer => .more ⟨parent.push (closed σ.current c), outer, σ.fault⟩ c.next := by
  have hsigned (span : Span) (s : CharSet) :
      Flags.signed {} span σ.current.negated (Flags.fold {} s) =
        .ok (if σ.current.negated then s.compl else s) := by
    cases σ.current.negated <;> simp [Flags.signed, Flags.fold]
  simp only [close, hsigned, note]
  cases σ.outer <;> rfl

theorem alike_close {σ σ' : BracketState} (hσ : σ.Alike σ') (h : t <:+ s) :
    (σ.close {} ⟨pos, a :: t⟩).Alike s (σ'.close {} ⟨pos', a :: (t ++ ['$'])⟩) := by
  have hclosed : (closed σ.current ⟨pos, a :: t⟩).set =
      (closed σ'.current ⟨pos', a :: (t ++ ['$'])⟩).set := by
    have hnegated : σ.current.negated = σ'.current.negated := congrArg Prod.fst hσ.1
    simp only [closed, hnegated, Bracket.value_set_congr {} hσ.1]
  obtain ⟨current, outer, fault⟩ := σ
  obtain ⟨current', outer', fault'⟩ := σ'
  rw [close_eq, close_eq, Cursor.next_cons, Cursor.next_cons]
  have houter : outer.map Bracket.content = outer'.map Bracket.content := hσ.2
  cases outer with
  | nil =>
    obtain rfl := List.map_eq_nil_iff.mp houter.symm
    exact .done hclosed (.mk _ _ h)
  | cons parent outer =>
    obtain ⟨parent', outer', rfl, hparent, houter⟩ := List.map_eq_cons_iff.mp houter.symm
    exact .more ⟨Bracket.content_push_congr hparent.symm hclosed, houter.symm⟩ (.mk _ _ h)

/-- One step by the first characters. -/
theorem step_cons (σ : BracketState) (pos : ℕ) (a : Char) (t : List Char) :
    step {} σ ⟨pos, a :: t⟩ =
      if a = '[' then
        match Bracket.readName? ⟨pos, a :: t⟩ with
        | some (set, negated, behind) =>
          let span := (⟨pos, a :: t⟩ : Cursor).spanTo behind
          .ok (.more (σ.push span (Flags.signed {} span negated (Flags.fold {} set))) behind)
        | none => do
          let (b, behind) ← Bracket.open? false ⟨pos, a :: t⟩
          return .more ⟨b, σ.current :: σ.outer, σ.fault⟩ behind
      else if a = ']' then .ok (σ.close {} ⟨pos, a :: t⟩)
      else if a = '&' ∧ t.head? = some '&' then
        .ok (.more { σ with current := σ.current.operator {} .inter } ⟨pos + 2, t.tail⟩)
      else if a = '-' ∧ t.head? = some '-' then
        .ok (.more { σ with current := σ.current.operator {} .sdiff } ⟨pos + 2, t.tail⟩)
      else if a = '~' ∧ t.head? = some '~' then
        .ok (.more { σ with current := σ.current.operator {} .symmDiff } ⟨pos + 2, t.tail⟩)
      else do
        let (σ, c) ← readItem {} σ ⟨pos, a :: t⟩
        return .more σ c := by
  split_ifs with h1 h2 h3 h4 h5
  · subst h1; rfl
  · subst h2; rfl
  · obtain ⟨rfl, h3⟩ := h3
    obtain ⟨u, rfl⟩ := List.head?_eq_some_iff.mp h3
    rfl
  · obtain ⟨rfl, h4⟩ := h4
    obtain ⟨u, rfl⟩ := List.head?_eq_some_iff.mp h4
    rfl
  · obtain ⟨rfl, h5⟩ := h5
    obtain ⟨u, rfl⟩ := List.head?_eq_some_iff.mp h5
    rfl
  · rw [step]
    dsimp only [Cursor.skipLayout_false]
    split <;> simp_all

theorem alike_operator {σ σ' : BracketState} {p : Prop} (op : SetOp) (hσ : σ.Alike σ')
    (h : t <:+ s) (ht : p ∧ t.head? = some a) :
    Progress.Alike s (.more { σ with current := σ.current.operator {} op } ⟨pos, t.tail⟩)
      (.more { σ' with current := σ'.current.operator {} op } ⟨pos', (t ++ ['$']).tail⟩) := by
  obtain ⟨u, rfl⟩ := List.head?_eq_some_iff.mp ht.2
  exact .more ⟨Bracket.content_operator_congr op hσ.1, hσ.2⟩
    (.mk _ _ ((List.suffix_cons _ u).trans h))

/-- **A step in a bracket is the same with more text behind.** -/
theorem carries_step {σ σ' : BracketState} (hσ : σ.Alike σ') (h : Extends s c c') :
    Carries (Progress.Alike s) (step {} σ c) (step {} σ' c') := by
  obtain @⟨_ | ⟨a, t⟩, pos, pos', hs⟩ := h
  · exact .error
  have ht : t <:+ s := (List.suffix_cons a t).trans hs
  have hhead (b : Char) (hb : b ≠ '$') : (t ++ ['$']).head? = some b ↔ t.head? = some b :=
    (Extends.mk pos pos' ht).peek?_eq_some hb
  rw [List.cons_append, step_cons, step_cons]
  simp only [hhead '&' (by decide), hhead '-' (by decide), hhead '~' (by decide)]
  refine .ite (fun ha => ?_) fun _ => .ite (fun _ => .ok (alike_close hσ ht)) fun _ =>
    .ite (fun h => .ok (alike_operator .inter hσ ht h)) fun _ =>
    .ite (fun h => .ok (alike_operator .sdiff hσ ht h)) fun _ =>
    .ite (fun h => .ok (alike_operator .symmDiff hσ ht h)) fun _ => ?_
  · subst ha
    have hname := Bracket.rel_readName? pos pos' ht
    revert hname
    generalize Bracket.readName? ⟨pos, '[' :: t⟩ = x
    generalize Bracket.readName? ⟨pos', '[' :: (t ++ ['$'])⟩ = y
    rintro (@⟨⟨set, negated, behind⟩, ⟨_, _, behind'⟩, rfl, rfl, hbehind⟩ | _)
    · exact .ok (.more (hσ.push (by cases negated <;> rfl) _ _) hbehind)
    · exact (Bracket.carries_open? ht).bind fun x y h =>
        .pure (.more ⟨h.1, congrArg₂ List.cons hσ.1 hσ.2⟩ h.2)
  · exact (carries_readItem hσ ht).bind fun x y h => .pure (.more h.1 h.2)

/-- The same set, and the same place behind it. -/
def SameSet (s : List Char) (x y : SetItem × Option Fault × Cursor) : Prop :=
  x.1.set = y.1.set ∧ Extends s x.2.2 y.2.2

theorem carries_run {σ σ' : BracketState} (hσ : σ.Alike σ') (h : Extends s c c') :
    Carries (SameSet s) (run {} σ c) (run {} σ' c') := by
  induction hn : c.rest.length using Nat.strongRecOn generalizing σ σ' c c' with
  | _ n ih =>
    rw [run, run]
    obtain ⟨e, hx⟩ | ⟨x, y, hx, hy, hxy⟩ := (carries_step hσ h).cases
    · rw [hx]
      exact .error
    rw [hx, hy]
    cases hxy with
    | done hset h => exact .ok ⟨hset, h⟩
    | @more τ τ' d d' hτ hd =>
      have hlt : d'.rest.length < c'.rest.length ↔ d.rest.length < c.rest.length := by
        rw [hd.length, h.length]
        omega
      simp only [hlt]
      exact .ite (fun hlt => ih _ (hn ▸ hlt) hτ hd rfl) fun _ => .error

end BracketState

/-- **A bracketed set reads the same with more text behind.** -/
theorem carries_readBracketed (h : t <:+ s) :
    Carries (BracketState.SameSet s) (readBracketed {} ⟨pos, a :: t⟩)
      (readBracketed {} ⟨pos', a :: (t ++ ['$'])⟩) :=
  (Bracket.carries_open? h).bind fun _ _ hb => BracketState.carries_run ⟨hb.1, rfl⟩ hb.2

end OfflineManifest.Regex
