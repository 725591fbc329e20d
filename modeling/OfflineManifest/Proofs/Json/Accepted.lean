import OfflineManifest.Proofs.Json.Documents
import OfflineManifest.Proofs.Json.Tokens

/-! # Texts that are read over

What a builder holds is spelled by the text that was read into it (`Builder.SpelledBy`): an open
container by what stands before the next value in it, and what is in it by items or members. A token
without a fault keeps this, or leads to a fault that nothing behind it mends (`Builder.sound_step`);
so it holds behind any text (`Builder.sound_read`). A text is a document, therefore, exactly if its
outline can be read over and nothing stands behind it (`Outline.isDocument_iff`). -/

namespace OfflineManifest.Json

open Builder (Blank)

variable {text before blanks : List Char} {c : Char} {t : Token} {o : Outline} {b : Builder}
  {outer : List Frame}

/-! ### What stands before a value -/

namespace Outline

/-- A text spells the items before another one: with a comma behind them, if there are any. -/
inductive ItemsBefore : List Outline → List Char → Prop
  | nil : ItemsBefore [] []
  | comma {os : List Outline} {text : List Char} (h : ItemsSpelledBy os text) :
    ItemsBefore os (text ++ [','])

/-- A text spells the members before another one. -/
inductive MembersBefore : List (Lexeme × Outline) → List Char → Prop
  | nil : MembersBefore [] []
  | comma {ms : List (Lexeme × Outline)} {text : List Char} (h : MembersSpelledBy ms text) :
    MembersBefore ms (text ++ [','])

theorem ItemsBefore.concat {os : List Outline} (h : ItemsBefore os before) (hb : Blank blanks)
    (ho : o.SpelledBy text) : ItemsSpelledBy (os ++ [o]) (before ++ (blanks ++ text)) := by
  have hone := ItemsSpelledBy.single hb ho blank_nil
  rw [List.append_nil] at hone
  cases h with
  | nil => exact hone
  | comma h =>
    rw [List.append_assoc]
    exact .append h hone

theorem MembersBefore.concat {ms : List (Lexeme × Outline)} {key : Lexeme}
    {name between between' : List Char} (h : MembersBefore ms before) (hb : Blank blanks)
    (hname : key.SpelledBy name) (hbetween : Blank between) (hbetween' : Blank between')
    (ho : o.SpelledBy text) : MembersSpelledBy (ms ++ [(key, o)])
      (before ++ (blanks ++ (name ++ (between ++ ':' :: (between' ++ text))))) := by
  have hone := MembersSpelledBy.single hb hname hbetween hbetween' ho blank_nil
  rw [List.append_nil] at hone
  cases h with
  | nil => exact hone
  | comma h =>
    rw [List.append_assoc]
    exact .append h hone

end Outline

open Outline (ItemsSpelledBy MembersSpelledBy ItemsBefore MembersBefore blank_concat)

/-- **A text spells open containers**, up to where the next value stands. -/
inductive Frame.AllSpelledBy : List Frame → List Char → Prop
  | nil {blanks : List Char} (hb : Blank blanks) : AllSpelledBy [] blanks
  | array {outer : List Frame} {items : List Outline} {start before blanks : List Char}
    (h : AllSpelledBy outer start) (hitems : ItemsBefore items.reverse before)
    (hb : Blank blanks) : AllSpelledBy (.array items :: outer) (start ++ '[' :: (before ++ blanks))
  | object {outer : List Frame} {members : List (Lexeme × Outline)} {key : Lexeme}
    {start before blanks name between between' : List Char}
    (h : AllSpelledBy outer start) (hmembers : MembersBefore members.reverse before)
    (hb : Blank blanks) (hname : key.SpelledBy name) (hbetween : Blank between)
    (hbetween' : Blank between') : AllSpelledBy (.object members key :: outer)
      (start ++ '\x7b' :: (before ++ (blanks ++ (name ++ (between ++ ':' :: between')))))

theorem Frame.AllSpelledBy.concat (h : AllSpelledBy outer text) (hc : Token.isBlank c = true) :
    AllSpelledBy outer (text ++ [c]) := by
  cases h with
  | nil hb => exact .nil (blank_concat hb hc)
  | array h hitems hb => simpa using AllSpelledBy.array h hitems (blank_concat hb hc)
  | object h hmembers hb hname hbetween hbetween' =>
    simpa using AllSpelledBy.object h hmembers hb hname hbetween (blank_concat hbetween' hc)

/-! ### Outlines that cannot be read over -/

namespace Outline

theorem skip_array_ne {os : List Outline} {stop : ArrayEnd} (h : stop.skip ≠ .ok ()) :
    (array os stop).skip ≠ .ok () := fun hskip => h (skip_array_eq_ok.mp hskip).2

theorem skip_object_ne {ms : List (Lexeme × Outline)} {stop : ObjectEnd} (h : stop.skip ≠ .ok ()) :
    (object ms stop).skip ≠ .ok () := fun hskip => h (skip_object_eq_ok.mp hskip).2

theorem skip_noColon_ne (ms : List (Lexeme × Outline)) (key : Lexeme) (textEnd : Bool) :
    (object ((key, .noColon textEnd) :: ms).reverse .inside).skip ≠ .ok () := by
  intro hskip
  have hvalue := ((skip_object_eq_ok.mp hskip).1 (key, .noColon textEnd) (by simp)).2
  rw [skip] at hvalue
  cases hvalue

/-- What stands around a value cannot be read over if the value cannot. -/
theorem skip_close_ne (f : Frame) (h : o.skip ≠ .ok ()) : (f.close o).skip ≠ .ok () := by
  cases f with
  | array items => exact fun hskip => h ((skip_array_eq_ok.mp hskip).1 o (by simp))
  | object members key =>
    exact fun hskip => h ((skip_object_eq_ok.mp hskip).1 (key, o) (by simp)).2

theorem skip_foldl_close_ne (h : o.skip ≠ .ok ()) (outer : List Frame) :
    (outer.foldl (fun v f => f.close v) o).skip ≠ .ok () := by
  induction outer generalizing o with
  | nil => exact h
  | cons f outer ih => exact ih (skip_close_ne f h)

end Outline

namespace Builder

/-! ### What builders hold -/

/-- **A text spells what a builder holds.** -/
inductive SpelledBy : Builder → List Char → Prop
  | value {outer : List Frame} {start : List Char} (h : Frame.AllSpelledBy outer start) :
    SpelledBy (.value outer) start
  | firstItem {outer : List Frame} {start blanks : List Char} (h : Frame.AllSpelledBy outer start)
    (hb : Blank blanks) : SpelledBy (.firstItem outer) (start ++ '[' :: blanks)
  | item {outer : List Frame} {items : List Outline} {start : List Char}
    (h : Frame.AllSpelledBy (.array items :: outer) start) : SpelledBy (.item items outer) start
  | itemEnd {outer : List Frame} {items : List Outline} {start text : List Char}
    (h : Frame.AllSpelledBy outer start) (hitems : ItemsSpelledBy items.reverse text) :
    SpelledBy (.itemEnd items outer) (start ++ '[' :: text)
  | firstName {outer : List Frame} {start blanks : List Char} (h : Frame.AllSpelledBy outer start)
    (hb : Blank blanks) : SpelledBy (.firstName outer) (start ++ '\x7b' :: blanks)
  | name {outer : List Frame} {members : List (Lexeme × Outline)} {start before blanks : List Char}
    (h : Frame.AllSpelledBy outer start) (hmembers : MembersBefore members.reverse before)
    (hb : Blank blanks) : SpelledBy (.name members outer) (start ++ '\x7b' :: (before ++ blanks))
  | colon {outer : List Frame} {members : List (Lexeme × Outline)} {key : Lexeme}
    {start before blanks name between : List Char} (h : Frame.AllSpelledBy outer start)
    (hmembers : MembersBefore members.reverse before) (hb : Blank blanks)
    (hname : key.SpelledBy name) (hbetween : Blank between) :
    SpelledBy (.colon members key outer)
      (start ++ '\x7b' :: (before ++ (blanks ++ (name ++ between))))
  | memberEnd {outer : List Frame} {members : List (Lexeme × Outline)} {start text : List Char}
    (h : Frame.AllSpelledBy outer start) (hmembers : MembersSpelledBy members.reverse text) :
    SpelledBy (.memberEnd members outer) (start ++ '\x7b' :: text)
  | done {o : Outline} {before text behind : List Char} (hbefore : Blank before)
    (h : o.SpelledBy text) (hbehind : Blank behind) :
    SpelledBy (.done o false) (before ++ text ++ behind)

/-- **A builder is spoilt**: its outline cannot be read over, or something stands behind it. -/
def Spoilt : Builder → Prop
  | .done whole more => whole.skip ≠ .ok () ∨ more = true
  | _ => False

/-- A text spells what a builder holds, or the builder is spoilt. -/
def Sound (b : Builder) (text : List Char) : Prop := b.SpelledBy text ∨ b.Spoilt

theorem SpelledBy.concat (h : b.SpelledBy text) (hc : Token.isBlank c = true) :
    b.SpelledBy (text ++ [c]) := by
  cases h with
  | value h => exact .value (h.concat hc)
  | item h => exact .item (h.concat hc)
  | firstItem h hb => simpa using SpelledBy.firstItem h (blank_concat hb hc)
  | itemEnd h hitems => simpa using SpelledBy.itemEnd h (hitems.concat hc)
  | firstName h hb => simpa using SpelledBy.firstName h (blank_concat hb hc)
  | name h hmembers hb => simpa using SpelledBy.name h hmembers (blank_concat hb hc)
  | colon h hmembers hb hname hbetween =>
    simpa using SpelledBy.colon h hmembers hb hname (blank_concat hbetween hc)
  | memberEnd h hmembers => simpa using SpelledBy.memberEnd h (hmembers.concat hc)
  | done hbefore h hbehind =>
    rw [List.append_assoc]
    exact .done hbefore h (blank_concat hbehind hc)

/-! ### Faults -/

/-- Nothing mends a builder that is spoilt. -/
theorem spoilt_step (h : b.Spoilt) : (b.step t).Spoilt := by
  cases b with
  | done whole more => exact .inr rfl
  | _ => cases h

theorem spoilt_foldl (h : b.Spoilt) (ts : List Token) : (ts.foldl step b).Spoilt := by
  induction ts generalizing b with
  | nil => exact h
  | cons t ts ih => exact ih (spoilt_step h)

theorem spoilt_abort (h : o.skip ≠ .ok ()) : (abort o outer).Spoilt :=
  .inl (Outline.skip_foldl_close_ne h outer)

theorem spoilt_array {os : List Outline} {stop : ArrayEnd} (h : stop.skip ≠ .ok ()) :
    (abort (.array os stop) outer).Spoilt :=
  spoilt_abort (Outline.skip_array_ne h)

theorem spoilt_object {ms : List (Lexeme × Outline)} {stop : ObjectEnd} (h : stop.skip ≠ .ok ()) :
    (abort (.object ms stop) outer).Spoilt :=
  spoilt_abort (Outline.skip_object_ne h)

theorem step_itemEnd (hcomma : t ≠ .comma) (hstop : t ≠ .arrayStop) (items : List Outline)
    (outer : List Frame) :
    step (.itemEnd items outer) t = abort (.array items.reverse .unexpected) outer := by
  cases t <;> first | rfl | exact absurd rfl hcomma | exact absurd rfl hstop

theorem step_memberEnd (hcomma : t ≠ .comma) (hstop : t ≠ .objectStop)
    (members : List (Lexeme × Outline)) (outer : List Frame) :
    step (.memberEnd members outer) t = abort (.object members.reverse .unexpected) outer := by
  cases t <;> first | rfl | exact absurd rfl hcomma | exact absurd rfl hstop

/-- A token with a fault spoils a builder where a value should start. -/
theorem spoilt_startValue (h : t.Faulty) (outer : List Frame) : (startValue t outer).Spoilt := by
  cases t with
  | broken e => exact spoilt_abort (by simp [tokenOutline, Outline.skip])
  | string s =>
    rw [startValue, if_neg h]
    refine spoilt_abort fun hskip => h ?_
    rw [Outline.skip] at hskip
    exact Lexeme.skip_eq_ok.mp hskip
  | _ => cases h

theorem spoilt_startName (h : t.Faulty) (members : List (Lexeme × Outline)) (outer : List Frame) :
    (startName t members outer).Spoilt := by
  cases t with
  | string s =>
    rw [startName, if_neg h]
    refine spoilt_abort fun hskip => h ?_
    exact Lexeme.skip_eq_ok.mp
      ((Outline.skip_object_eq_ok.mp hskip).1 (s, .missing) (by simp)).1
  | broken e => exact spoilt_object (by simp [ObjectEnd.skip])
  | _ => cases h

/-- **A token with a fault** spoils any builder. -/
theorem spoilt_of_faulty (h : t.Faulty) (b : Builder) : (b.step t).Spoilt := by
  have harray : t ≠ .arrayStop := by rintro rfl; exact h
  have hobject : t ≠ .objectStop := by rintro rfl; exact h
  have hcomma : t ≠ .comma := by rintro rfl; exact h
  have hcolon : t ≠ .colon := by rintro rfl; exact h
  cases b with
  | value outer => exact spoilt_startValue h outer
  | firstItem outer =>
    rw [step, if_neg harray]
    exact spoilt_startValue h _
  | item items outer =>
    rw [step, if_neg harray]
    exact spoilt_startValue h _
  | itemEnd items outer =>
    rw [step_itemEnd hcomma harray]
    exact spoilt_array (by simp [ArrayEnd.skip])
  | firstName outer =>
    rw [step, if_neg hobject]
    exact spoilt_startName h _ _
  | name members outer =>
    rw [step, if_neg hobject]
    exact spoilt_startName h _ _
  | colon members key outer =>
    rw [step, if_neg hcolon]
    exact spoilt_abort (Outline.skip_noColon_ne members key false)
  | memberEnd members outer =>
    rw [step_memberEnd hcomma hobject]
    exact spoilt_object (by simp [ObjectEnd.skip])
  | done whole more => exact .inr rfl

/-! ### One token -/

/-- A value is put behind what stands before it. -/
theorem spelledBy_put (h : Frame.AllSpelledBy outer before) (ho : o.SpelledBy text) :
    (put o outer).SpelledBy (before ++ text) := by
  cases h with
  | nil hb =>
    have hdone := SpelledBy.done hb ho blank_nil
    rwa [List.append_nil] at hdone
  | array h hitems hb =>
    -- a builder keeps the last item first
    have hitems := hitems.concat hb ho
    rw [← List.reverse_cons] at hitems
    rw [put]
    simpa using SpelledBy.itemEnd h hitems
  | object h hmembers hb hname hbetween hbetween' =>
    have hmembers := hmembers.concat hb hname hbetween hbetween' ho
    rw [← List.reverse_cons] at hmembers
    rw [put]
    simpa using SpelledBy.memberEnd h hmembers

theorem sound_startValue (h : Frame.AllSpelledBy outer before) (ht : t.SpelledBy text) :
    (startValue t outer).Sound (before ++ text) := by
  have hput : ∀ {o : Outline}, o.SpelledBy text → (put o outer).Sound (before ++ text) :=
    fun ho => .inl (spelledBy_put h ho)
  have hstray : (Outline.broken .stray).skip ≠ .ok () := by simp [Outline.skip]
  cases ht with
  | arrayStart => exact .inl (.firstItem h blank_nil)
  | objectStart => exact .inl (.firstName h blank_nil)
  | null => exact hput .null
  | bool b => exact hput (.bool b)
  | number hn => exact hput (.number hn)
  | string hs =>
    rw [startValue, if_pos (stop_of_spelledBy hs)]
    exact hput (.string hs)
  | arrayStop | objectStop | comma | colon => exact .inr (spoilt_abort hstray)

theorem sound_startName {members : List (Lexeme × Outline)} {start : List Char}
    (h : Frame.AllSpelledBy outer start) (hmembers : MembersBefore members.reverse before)
    (hb : Blank blanks) (ht : t.SpelledBy text) :
    (startName t members outer).Sound (start ++ '\x7b' :: (before ++ blanks) ++ text) := by
  cases ht with
  | string hs =>
    rw [startName, if_pos (stop_of_spelledBy hs)]
    refine .inl ?_
    simpa using SpelledBy.colon h hmembers hb hs blank_nil
  | _ => exact .inr (spoilt_object (by simp [ObjectEnd.skip]))

/-- **One token** keeps what a builder holds spelled, or spoils the builder. -/
theorem sound_step (h : b.SpelledBy before) (ht : t.SpelledBy text) :
    (b.step t).Sound (before ++ text) := by
  cases h with
  | value h => exact sound_startValue h ht
  | firstItem h hb =>
    by_cases hstop : t = .arrayStop
    · subst hstop
      cases ht
      rw [step, if_pos rfl]
      refine .inl ?_
      simpa using spelledBy_put h (.emptyArray hb)
    · have hnone : ItemsBefore (List.reverse []) [] := .nil
      rw [step, if_neg hstop]
      exact sound_startValue (.array h hnone hb) ht
  | item h =>
    by_cases hstop : t = .arrayStop
    · rw [step, if_pos hstop]
      exact .inr (spoilt_array (by simp [ArrayEnd.skip]))
    · rw [step, if_neg hstop]
      exact sound_startValue h ht
  | itemEnd h hitems =>
    by_cases hcomma : t = .comma
    · subst hcomma
      cases ht
      refine .inl (.item ?_)
      simpa using Frame.AllSpelledBy.array h (.comma hitems) blank_nil
    by_cases hstop : t = .arrayStop
    · subst hstop
      cases ht
      refine .inl ?_
      simpa [step] using spelledBy_put h (.array hitems)
    · rw [step_itemEnd hcomma hstop]
      exact .inr (spoilt_array (by simp [ArrayEnd.skip]))
  | firstName h hb =>
    by_cases hstop : t = .objectStop
    · subst hstop
      cases ht
      rw [step, if_pos rfl]
      refine .inl ?_
      simpa using spelledBy_put h (.emptyObject hb)
    · have hnone : MembersBefore (List.reverse []) [] := .nil
      rw [step, if_neg hstop]
      exact sound_startName h hnone hb ht
  | name h hmembers hb =>
    by_cases hstop : t = .objectStop
    · rw [step, if_pos hstop]
      exact .inr (spoilt_object (by simp [ObjectEnd.skip]))
    · rw [step, if_neg hstop]
      exact sound_startName h hmembers hb ht
  | colon h hmembers hb hname hbetween =>
    by_cases hcolon : t = .colon
    · subst hcolon
      cases ht
      rw [step, if_pos rfl]
      refine .inl (.value ?_)
      simpa using Frame.AllSpelledBy.object h hmembers hb hname hbetween blank_nil
    · rw [step, if_neg hcolon]
      exact .inr (spoilt_abort (Outline.skip_noColon_ne _ _ false))
  | memberEnd h hmembers =>
    by_cases hcomma : t = .comma
    · subst hcomma
      cases ht
      refine .inl ?_
      simpa [step] using SpelledBy.name h (.comma hmembers) blank_nil
    by_cases hstop : t = .objectStop
    · subst hstop
      cases ht
      refine .inl ?_
      simpa [step] using spelledBy_put h (.object hmembers)
    · rw [step_memberEnd hcomma hstop]
      exact .inr (spoilt_object (by simp [ObjectEnd.skip]))
  | done => exact .inr (.inr rfl)

/-! ### Any text -/

theorem exists_read_eq (hblank : Token.isBlank c = false) (b : Builder) (text : List Char) :
    ∃ ts : List Token, read b (c :: text) = ts.foldl step (b.step (Token.next c text).1) := by
  rw [read, Token.scan, hblank]
  simp only [Bool.false_eq_true, if_false]
  split
  · exact ⟨_, rfl⟩
  · exact ⟨[], rfl⟩

/-- **Behind any text** that is read, what a builder holds is spelled, or the builder is spoilt. -/
theorem sound_read (h : b.SpelledBy before) : (read b text).Sound (before ++ text) := by
  -- a token takes any number of characters, so the induction is on how many are left
  induction hlength : text.length using Nat.strong_induction_on generalizing b before text with
  | _ n ih =>
    cases text with
    | nil =>
      rw [read_nil, List.append_nil]
      exact .inl h
    | cons c text =>
      rw [List.length_cons] at hlength
      cases hblank : Token.isBlank c with
      | true =>
        rw [read_blank hblank, ← List.singleton_append, ← List.append_assoc]
        exact ih text.length (by omega) (h.concat hblank) rfl
      | false =>
        obtain ⟨ts, hts⟩ := exists_read_eq hblank b text
        generalize hnext : Token.next c text = next at hts
        obtain ⟨t, rest⟩ := next
        rcases Token.next_cases hnext with hfault | ⟨body, ht, hbody⟩
        · rw [hts]
          exact .inr (spoilt_foldl (spoilt_of_faulty hfault b) ts)
        · have hshort : rest.length ≤ text.length := by
            have hpos := List.length_pos_iff.mpr ht.ne_nil
            have hwhole := congrArg List.length hbody
            rw [List.length_append, List.length_cons] at hwhole
            omega
          rw [read_next hblank hnext hshort, ← hbody, ← List.append_assoc]
          rcases sound_step h ht with hstep | hspoilt
          · exact ih rest.length (by omega) hstep rfl
          · exact .inr (spoilt_foldl hspoilt _)

/-- Only a builder with a whole value has an outline that can be read over. -/
theorem exists_done (h : b.finish.1.skip = .ok ()) : ∃ whole more, b = .done whole more := by
  cases b with
  | done whole more => exact ⟨whole, more, rfl⟩
  | value outer => exact absurd h (Outline.skip_foldl_close_ne (by simp [Outline.skip]) outer)
  | firstItem outer | item _ outer | itemEnd _ outer =>
    exact absurd h
      (Outline.skip_foldl_close_ne (Outline.skip_array_ne (by simp [ArrayEnd.skip])) outer)
  | firstName outer | name _ outer | memberEnd _ outer =>
    exact absurd h
      (Outline.skip_foldl_close_ne (Outline.skip_object_ne (by simp [ObjectEnd.skip])) outer)
  | colon members key outer =>
    exact absurd h (Outline.skip_foldl_close_ne (Outline.skip_noColon_ne _ _ true) outer)

end Builder

open Builder

/-- **A text is a document** exactly if its outline can be read over, and nothing stands behind
it. -/
theorem Outline.isDocument_iff {text : String} :
    IsDocument text o ↔ ofText text = (o, false) ∧ o.skip = .ok () := by
  refine ⟨fun h => ⟨h.ofText, h.skip⟩, fun ⟨htext, hskip⟩ => ?_⟩
  have hsound : (read (.value []) text.toList).Sound ([] ++ text.toList) :=
    sound_read (.value (.nil blank_nil))
  have hfinish : (read (.value []) text.toList).finish = (o, false) := htext
  obtain ⟨whole, more, hdone⟩ := exists_done (by rw [hfinish]; exact hskip)
  rw [hdone] at hsound hfinish
  obtain ⟨rfl, rfl⟩ := Prod.mk.inj hfinish
  generalize hchars : text.toList = chars at hsound
  rcases hsound with hspelled | hspoilt | hmore
  · cases hspelled with
    | done hbefore hvalue hbehind => exact ⟨_, _, _, hbefore, hvalue, hbehind, hchars⟩
  · exact absurd hskip hspoilt
  · cases hmore

end OfflineManifest.Json
