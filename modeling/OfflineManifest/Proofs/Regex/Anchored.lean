import OfflineManifest.Proofs.Regex.Alternatives
import OfflineManifest.Proofs.Regex.BracketContinuation
import OfflineManifest.Proofs.Regex.Reading

/-! # Patterns between anchors

A pattern is set between anchors by writing a character in front of it and one behind it. The
reader then goes over the same text behind the first anchor, and with a dollar sign behind the text.
Step by step it reads the same (`Reader.carries_step`, `Reader.run_dollar`), so that the two
readings differ by the anchors alone; and these belong to the outer alternatives at both ends, not
to the pattern as a whole (`isMatch_anchored_iff`). In all this no flags are set and no groups have
names (`Reader.PlainGroups`). -/

namespace OfflineManifest.Regex

variable {s t : List Char} {c c' : Cursor} {pos pos' : ℕ} {a : Char}

/-- All members of the current sequence are expressions. -/
def Branches.Plain (b : Branches) : Prop := ∀ item ∈ b.items, ∃ node shape, item = .node node shape

namespace Reader

theorem plain_nil {start seqStart : ℕ} {finished : List (Regex × Shape)} :
    (⟨start, finished, seqStart, []⟩ : Branches).Plain :=
  fun _ h => (List.not_mem_nil h).elim

/-- No flags are set anywhere, and all members of sequences are expressions. -/
structure Plain (r : Reader) : Prop where
  flags : r.flags = {}
  current : r.current.Plain
  groups : ∀ g ∈ r.groups, g.flags = {} ∧ g.before.Plain

/-- What has been read of all open groups, the innermost first. -/
def sketches (r : Reader) : List Sketch := r.current.sketch :: r.groups.map fun g => g.before.sketch

/-- **Two readers have read the same**, one of them behind an anchor. -/
structure Alike (r r' : Reader) : Prop where
  left : r.Plain
  right : r'.Plain
  stacked : Stacked r.sketches r'.sketches

variable {r r' : Reader}

theorem Plain.push (h : r.Plain) (node : Regex) (shape : Shape) :
    (r.push (.node node shape)).Plain where
  flags := h.flags
  current := List.forall_mem_cons.mpr ⟨⟨node, shape, rfl⟩, h.current⟩
  groups := h.groups

theorem Alike.push (h : Alike r r') (node : Regex) (shape shape' : Shape) :
    Alike (r.push (.node node shape)) (r'.push (.node node shape')) :=
  ⟨h.left.push node shape, h.right.push node shape', h.stacked.push node.Matches⟩

theorem Alike.withFault (h : Alike r r') (fault fault' : Option Fault) :
    Alike { r with fault } { r' with fault := fault' } :=
  ⟨⟨h.left.flags, h.left.current, h.left.groups⟩, ⟨h.right.flags, h.right.current, h.right.groups⟩,
    h.stacked⟩

theorem Alike.pushRegex (h : Alike r r') {x y : Except Fault Regex} (hxy : x.toOption = y.toOption)
    (shape shape' : Shape) : Alike (r.pushRegex shape x) (r'.pushRegex shape' y) := by
  cases x <;> cases y
  · exact (h.withFault _ _).push .empty shape shape'
  · cases hxy
  · cases hxy
  · obtain rfl := Option.some.inj hxy
    exact h.push _ shape shape'

theorem Alike.bar (h : Alike r r') (place place' : ℕ) :
    Alike { r with current := r.current.bar place }
      { r' with current := r'.current.bar place' } where
  left := ⟨h.left.flags, plain_nil, h.left.groups⟩
  right := ⟨h.right.flags, plain_nil, h.right.groups⟩
  stacked := by
    simp only [sketches, Branches.sketch_bar]
    exact h.stacked.bar

theorem Alike.enter (h : Alike r r') (opened opened' : Span) (c c' : Cursor) :
    Alike (r.enter opened {} c) (r'.enter opened' {} c') where
  left := ⟨rfl, plain_nil, List.forall_mem_cons.mpr ⟨⟨h.left.flags, h.left.current⟩, h.left.groups⟩⟩
  right :=
    ⟨rfl, plain_nil, List.forall_mem_cons.mpr ⟨⟨h.right.flags, h.right.current⟩, h.right.groups⟩⟩
  stacked := .inner _ h.stacked

theorem carries_closeGroup (h : Alike r r') (ht : t <:+ s) :
    Carries (Onward Alike s) (r.closeGroup ⟨pos, a :: t⟩)
      (r'.closeGroup ⟨pos', a :: (t ++ ['$'])⟩) := by
  obtain ⟨⟨-, -, hleft⟩, ⟨-, -, hright⟩, hstacked⟩ := h
  obtain ⟨flags, current, groups, names, fault⟩ := r
  obtain ⟨flags', current', groups', names', fault'⟩ := r'
  obtain _ | ⟨g, groups⟩ := groups
  · exact .error
  obtain ⟨_, _, hgroups, hstacked⟩ := hstacked.leave
  obtain ⟨g', groups', rfl, rfl, rfl⟩ := List.map_eq_cons_iff.mp hgroups
  obtain ⟨⟨hflags, hplain⟩, hleft⟩ := List.forall_mem_cons.mp hleft
  obtain ⟨⟨hflags', hplain'⟩, hright⟩ := List.forall_mem_cons.mp hright
  refine .ok ⟨⟨⟨hflags, ?_, hleft⟩, ⟨hflags', ?_, hright⟩, ?_⟩, .mk _ _ ht⟩
  · exact List.forall_mem_cons.mpr ⟨⟨_, _, rfl⟩, hplain⟩
  · exact List.forall_mem_cons.mpr ⟨⟨_, _, rfl⟩, hplain'⟩
  · rw [← current.matches_whole pos, ← current'.matches_whole pos'] at hstacked
    exact hstacked

theorem matches_times_congr {node node' : Regex} (h : node.Matches = node'.Matches) (lo : ℕ)
    (hi : Option ℕ) : (times node lo hi).Matches = (times node' lo hi).Matches := by
  simp only [Matches, h]

theorem carries_repeatLast (h : Alike r r')
    {bounds bounds' : Cursor → Except Fault (ℕ × Option ℕ × Cursor)}
    (hbounds : Carries (Counted s) (bounds c) (bounds' c')) :
    Carries (Onward Alike s) (r.repeatLast c bounds) (r'.repeatLast c' bounds') := by
  obtain ⟨⟨hflags, hplain, hgroups⟩, ⟨hflags', hplain', hgroups'⟩, hstacked⟩ := h
  obtain ⟨flags, ⟨start, finished, seqStart, items⟩, groups, names, fault⟩ := r
  obtain ⟨flags', ⟨start', finished', seqStart', items'⟩, groups', names', fault'⟩ := r'
  obtain _ | ⟨_ | ⟨node, shape⟩, items⟩ := items
  · exact .error
  · exact .error
  obtain ⟨pieces, hpieces, hstacked⟩ := hstacked.last rfl
  obtain ⟨item, items', rfl, hitem, rfl⟩ := List.map_eq_cons_iff.mp hpieces
  obtain ⟨⟨node', shape', rfl⟩, hitems'⟩ := List.forall_mem_cons.mp hplain'
  refine hbounds.bind fun x y hxy => ?_
  obtain ⟨lo, hi, behind⟩ := x
  obtain ⟨lo', hi', behind'⟩ := y
  obtain ⟨rfl, rfl, hbehind⟩ := hxy
  refine .pure ⟨⟨⟨hflags, ?_, hgroups⟩, ⟨hflags', ?_, hgroups'⟩, ?_⟩, hbehind⟩
  · exact List.forall_mem_cons.mpr ⟨⟨_, _, rfl⟩, (List.forall_mem_cons.mp hplain).2⟩
  · exact List.forall_mem_cons.mpr ⟨⟨_, _, rfl⟩, hitems'⟩
  · exact hstacked _ _ (matches_times_congr hitem.symm lo hi)

theorem regex_property (span : Span) (negated : Bool) (name : PropertyName) :
    (Atom.property negated name).regex {} span =
      match Atom.namedSet? {} span (.property negated name) with
      | some (.ok s) => .ok (.chars s)
      | some (.error e) => .error e
      | none => .ok .empty :=
  rfl

theorem toOption_regex (span span' : Span) (atom : Atom) :
    (atom.regex {} span).toOption = (atom.regex {} span').toOption := by
  cases atom with
  | literal c byte => rfl
  | dot => rfl
  | anchor a => rfl
  | shorthand s negated => cases negated <;> rfl
  | property negated name =>
    have h := BracketState.toOption_namedSet? span span' (.property negated name)
    rw [regex_property, regex_property]
    revert h
    generalize Atom.namedSet? {} span (.property negated name) = x
    generalize Atom.namedSet? {} span' (.property negated name) = y
    rintro (@⟨x, y, h⟩ | _)
    · cases x <;> cases y <;> first | cases h; rfl | cases h
    · rfl

theorem carries_readAtom (h : Alike r r') (ht : t <:+ s) :
    Carries (Onward Alike s) (r.readAtom ⟨pos, a :: t⟩)
      (r'.readAtom ⟨pos', a :: (t ++ ['$'])⟩) := by
  have hpush (x y : Atom × Cursor) (hxy : Onward Eq s x y) (span span' : Span) :
      Onward Alike s (r.pushRegex (Shape.leaf span) (x.1.regex {} span), x.2)
        (r'.pushRegex (Shape.leaf span') (y.1.regex {} span'), y.2) :=
    ⟨h.pushRegex (hxy.1 ▸ toOption_regex span span' x.1) _ _, hxy.2⟩
  have hsingle (atom : Atom) : Onward Eq s (atom, ⟨pos + 1, t⟩) (atom, ⟨pos' + 1, t ++ ['$']⟩) :=
    ⟨rfl, .mk _ _ ht⟩
  simp only [readAtom, Cursor.peek?_cons, Cursor.next_cons, h.left.flags, h.right.flags]
  split
  · next heq =>
    cases heq
    exact (Atom.carries_readEscape ht).bind fun x y hxy => .pure (hpush x y hxy _ _)
  · exact .pure (hpush _ _ (hsingle .dot) _ _)
  · exact .pure (hpush _ _ (hsingle (.anchor .lineStart)) _ _)
  · exact .pure (hpush _ _ (hsingle (.anchor .lineEnd)) _ _)
  · next heq =>
    cases heq
    exact .pure (hpush _ _ (hsingle (.literal a false)) _ _)
  · exact .error

/-- After an opening parenthesis a question mark only stands before a colon. -/
def PlainGroups (s : List Char) : Prop := ∀ t, '(' :: '?' :: t <:+ s → t.head? = some ':'

theorem after?_eq_none {text : String} (htext : text.toList.head? = some a)
    (ht : t.head? ≠ some a) : (⟨pos, t⟩ : Cursor).after? text = none := by
  rw [Cursor.after?, if_neg]
  rw [List.isPrefixOf_iff_prefix]
  rintro ⟨u, rfl⟩
  exact ht (by rw [List.head?_append, htext, Option.some_or])

theorem openGroup_of_head (hf : r.flags = {}) (ht : t.head? ≠ some '?') :
    r.openGroup ⟨pos, '(' :: t⟩ = .ok (r.enter ⟨pos, pos + 1⟩ {} ⟨pos + 1, t⟩, ⟨pos + 1, t⟩) := by
  obtain ⟨flags, current, groups, names, fault⟩ := r
  obtain rfl : flags = {} := hf
  have hafter (text : String) (htext : text.toList.head? = some '?') :
      (⟨pos + 1, t⟩ : Cursor).after? text = none := after?_eq_none htext ht
  simp only [openGroup, Cursor.advance_false, Cursor.next_cons, hafter "?=" (by decide),
    hafter "?!" (by decide), hafter "?<=" (by decide), hafter "?<!" (by decide),
    hafter "?P<" (by decide), hafter "?<" (by decide), hafter "?" (by decide), Option.none_or]
  rfl

theorem carries_openGroup (h : Alike r r') (hs : PlainGroups ('(' :: t)) (ht : t <:+ s) :
    Carries (Onward Alike s) (r.openGroup ⟨pos, '(' :: t⟩)
      (r'.openGroup ⟨pos', '(' :: (t ++ ['$'])⟩) := by
  by_cases hq : t.head? = some '?'
  · obtain ⟨u, rfl⟩ := List.head?_eq_some_iff.mp hq
    obtain ⟨v, rfl⟩ := List.head?_eq_some_iff.mp (hs u List.suffix_rfl)
    have hv : v <:+ s := ((List.suffix_cons ':' v).trans (List.suffix_cons '?' _)).trans ht
    have hopen : r.openGroup ⟨pos, '(' :: '?' :: ':' :: v⟩ = _ := step_openGroup h.left.flags pos v
    have hopen' : r'.openGroup ⟨pos', '(' :: '?' :: ':' :: (v ++ ['$'])⟩ = _ :=
      step_openGroup h.right.flags pos' (v ++ ['$'])
    rw [List.cons_append, List.cons_append, hopen, hopen']
    exact .ok ⟨h.enter _ _ _ _, .mk _ _ hv⟩
  · have hq' : (t ++ ['$']).head? ≠ some '?' := by
      cases t with
      | nil => decide
      | cons b u => exact hq
    rw [openGroup_of_head h.left.flags hq, openGroup_of_head h.right.flags hq']
    exact .ok ⟨h.enter _ _ _ _, .mk _ _ ht⟩

/-- **A step is the same with more text behind.** -/
theorem carries_step (h : Alike r r') (hs : PlainGroups (a :: t)) (ht : t <:+ s) (pos pos' : ℕ) :
    Carries (Onward Alike s) (r.step ⟨pos, a :: t⟩) (r'.step ⟨pos', a :: (t ++ ['$'])⟩) := by
  have hbehind := Extends.mk (s := s) (pos + 1) (pos' + 1) ht
  have hfixed (lo : ℕ) (hi : Option ℕ) : Carries (Counted s) (fixedBounds lo hi ⟨pos, a :: t⟩)
      (fixedBounds lo hi ⟨pos', a :: (t ++ ['$'])⟩) :=
    .ok (counted lo hi (extends_skipLazy hbehind))
  have hbounds : Carries (Counted s) (readBounds r.flags.extended ⟨pos, a :: t⟩)
      (readBounds r'.flags.extended ⟨pos', a :: (t ++ ['$'])⟩) := by
    rw [h.left.flags, h.right.flags]
    exact carries_readBounds ht
  have hbracketed : Carries (BracketState.SameSet s) (readBracketed r.flags ⟨pos, a :: t⟩)
      (readBracketed r'.flags ⟨pos', a :: (t ++ ['$'])⟩) := by
    rw [h.left.flags, h.right.flags]
    exact carries_readBracketed ht
  simp only [step, Cursor.peek?_cons, Cursor.next_cons]
  split
  · next heq =>
    cases heq
    exact carries_openGroup h hs ht
  · exact carries_closeGroup h ht
  · exact .ok ⟨h.bar _ _, hbehind⟩
  · refine hbracketed.bind fun x y hxy => .pure ⟨?_, hxy.2⟩
    rw [hxy.1]
    exact (h.withFault _ _).push _ _ _
  · exact carries_repeatLast h (hfixed 0 (some 1))
  · exact carries_repeatLast h (hfixed 0 none)
  · exact carries_repeatLast h (hfixed 1 none)
  · exact carries_repeatLast h hbounds
  · exact carries_readAtom h ht

theorem readAll_nil (hf : r.flags = {}) (pos : ℕ) : r.readAll ⟨pos, []⟩ = .ok (r, pos) := by
  rw [readAll]
  simp [hf, Cursor.skipLayout]

theorem readAll_of_step {r₂ : Reader} {d : Cursor} (hf : r.flags = {})
    (hs : r.step ⟨pos, a :: t⟩ = .ok (r₂, d)) (hlt : d.rest.length < (a :: t).length) :
    r.readAll ⟨pos, a :: t⟩ = r₂.readAll d := by
  rw [readAll]
  simp only [hf, Cursor.skipLayout_false, Cursor.atEnd_cons, Bool.false_eq_true, if_false, hs,
    if_pos hlt]

/-- **A reading to the end of a text goes to the same place if a dollar sign stands behind.** -/
theorem run_dollar (h : Alike r r') (hs : PlainGroups t) {e : Reader} {stop : ℕ}
    (hread : r.readAll ⟨pos, t⟩ = .ok (e, stop)) (pos' : ℕ) :
    ∃ e' q, r'.run ⟨pos', t ++ ['$']⟩ = e'.run ⟨q, ['$']⟩ ∧ Alike e e' := by
  induction hn : t.length using Nat.strongRecOn generalizing r r' t pos pos' with
  | _ n ih =>
    obtain _ | ⟨a, t⟩ := t
    · rw [readAll_nil h.left.flags] at hread
      cases hread
      exact ⟨r', pos', rfl, h⟩
    obtain ⟨x, hx⟩ | ⟨⟨r₂, d⟩, ⟨r₂', d'⟩, hx, hy, hr, hd⟩ :=
      (carries_step h hs List.suffix_rfl pos pos').cases
    · rw [readAll] at hread
      simp [h.left.flags, hx] at hread
    obtain @⟨u, q, q', hu⟩ := hd
    have hlt : u.length < (a :: t).length := Nat.lt_succ_of_le hu.length_le
    rw [readAll_of_step h.left.flags hx hlt] at hread
    have hlt' : (u ++ ['$']).length < (a :: (t ++ ['$'])).length := by simpa using hlt
    obtain ⟨e', q'', hrun, he⟩ := ih u.length (hn ▸ hlt) hr
      (fun v hv => hs v (hv.trans (hu.trans (List.suffix_cons a t)))) hread q' rfl
    exact ⟨e', q'', (run_of_step h.right.flags hy hlt').trans hrun, he⟩

end Reader

/-! ### What the anchors hold -/

theorem matches_lineStart : (place (Anchor.lineStart.test {})).Matches = Piece.atStart := by
  funext pre w post
  have htest : Anchor.lineStart.test {} pre.getLast? post.head? = pre.getLast?.isNone := rfl
  simp [Matches, Piece.atStart, htest]

theorem matches_lineEnd : (place (Anchor.lineEnd.test {})).Matches = Piece.atEnd := by
  funext pre w post
  have htest : Anchor.lineEnd.test {} pre.getLast? post.head? = post.head?.isNone := rfl
  simp [Matches, Piece.atEnd, htest]

namespace Reader

theorem alike_anchored : Alike { current := Branches.empty 0 }
    (push { current := Branches.empty 0 } (anchorItem .lineStart 0)) where
  left := ⟨rfl, plain_nil, fun _ h => (List.not_mem_nil h).elim⟩
  right := ⟨rfl, List.forall_mem_singleton.mpr ⟨_, _, rfl⟩, fun _ h => (List.not_mem_nil h).elim⟩
  stacked := by
    have hopens := Opens.first []
    rw [← matches_lineStart] at hopens
    exact .outer hopens

/-- The pattern between anchors, from what is read of the pattern alone. -/
theorem parse?_anchored_of_readAll (hs : PlainGroups s) {e : Reader} {stop : ℕ} {y x : Regex}
    (hread : readAll { current := Branches.empty 0 } ⟨0, s⟩ = .ok (e, stop))
    (hfinish : e.finish stop = .ok y)
    (hx : parse? (String.ofList ('^' :: (s ++ ['$']))) = .ok x) :
    ∃ k', Opens e.current.sketch k' ∧ x.Matches = (k'.push Piece.atEnd).whole := by
  obtain ⟨e', q, hrun, he⟩ := run_dollar alike_anchored hs hread 1
  have hstart := run_of_step (r := { current := Branches.empty 0 }) rfl
    (step_lineStart rfl 0 (s ++ ['$'])) (Nat.lt_succ_self _)
  have hend := run_of_step he.right.flags (step_lineEnd he.right.flags q []) Nat.one_pos
  rw [parse?, String.toList_ofList] at hx
  have hlast := hstart.symm.trans hx
  have hflags : (e'.push (anchorItem .lineEnd q)).flags = {} := he.right.flags
  rw [hrun, hend, run_nil hflags] at hlast
  obtain ⟨hgroups, -⟩ := finish_eq_ok hfinish
  obtain ⟨hgroups', rfl⟩ := finish_eq_ok hlast
  have hgroups' : e'.groups = [] := hgroups'
  have hstacked := he.stacked
  rw [sketches, sketches, hgroups, hgroups'] at hstacked
  refine ⟨e'.current.sketch, hstacked.outermost, ?_⟩
  rw [Branches.matches_whole, ← matches_lineEnd]
  rfl

end Reader

/-- **Anchors hold the outer alternatives.** Between anchors a pattern matches the texts that have a
part which one of its alternatives matches; the first alternative only at the start, the last one
only at the end. -/
theorem isMatch_anchored_iff {alts : List Regex} {x : Regex} (hs : Reader.PlainGroups s)
    (halts : alternatives? (String.ofList s) = .ok alts)
    (hx : parse? (String.ofList ('^' :: (s ++ ['$']))) = .ok x) (text : List Char) :
    x.isMatch text = true ↔ Piece.Held (alts.map Matches) text := by
  rw [alternatives?, String.toList_ofList] at halts
  obtain ⟨⟨e, stop⟩, hread, hrest⟩ := except_bind_eq_ok.mp halts
  obtain ⟨y, hfinish, h⟩ := except_bind_eq_ok.mp hrest
  obtain rfl : e.current.alternatives stop = alts := Except.ok.inj h
  obtain ⟨k', hopens, hmatches⟩ := Reader.parse?_anchored_of_readAll hs hread hfinish hx
  rw [isMatch_iff, hmatches, hopens.held_iff, Branches.map_matches_alternatives]

end OfflineManifest.Regex
