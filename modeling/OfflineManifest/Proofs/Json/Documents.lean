import OfflineManifest.Json.Decode
import OfflineManifest.Proofs.Json.Numbers
import OfflineManifest.Proofs.Json.Strings

/-! # Documents

A builder goes through a text token by token, and the text takes it to another builder
(`Builder.Takes`). The text of a value takes every builder that asks for a value to the one that has
put the outline of the value into the innermost open container (`TakesValue`); texts of items and of
members are put together in the same way, with blanks anywhere between them. So whatever outline a
text spells is found by reading it (`Outline.SpelledBy.takes`, `Outline.IsDocument.ofText`), and is
read over without a fault where no one asks for it (`Outline.SpelledBy.skip`). -/

namespace OfflineManifest.Json

/-! ### Builders and texts -/

namespace Builder

open Token

variable {b b' b'' : Builder} {t : Token} {c : Char} {text text' rest blanks : List Char}

/-- **The builder behind a text.** -/
def read (b : Builder) (text : List Char) : Builder := (Token.scan text).foldl step b

theorem read_nil : read b [] = b := by
  rw [read, Token.scan, List.foldl_nil]

theorem read_blank (h : isBlank c = true) : read b (c :: text) = read b text := by
  rw [read, Token.scan, if_pos h, read]

theorem read_next (hblank : isBlank c = false) (h : next c text = (t, rest))
    (hlength : rest.length ≤ text.length) : read b (c :: text) = read (b.step t) rest := by
  rw [read, Token.scan, hblank]
  simp only [Bool.false_eq_true, if_false, h, if_pos hlength, List.foldl_cons, read]

/-- Two builders that the first token takes to the same one. -/
theorem read_congr (hblank : isBlank c = false)
    (h : b.step (next c text).1 = b'.step (next c text).1) :
    read b (c :: text) = read b' (c :: text) := by
  rw [read, read, Token.scan, hblank]
  simp only [Bool.false_eq_true, if_false]
  split <;> simp only [List.foldl_cons, List.foldl_nil, h]

theorem next_ne_arrayStop (h : c ≠ ']') : (next c text).1 ≠ .arrayStop := by
  unfold next
  split
  case h_2 => exact absurd rfl h
  case h_7 | h_8 | h_9 => unfold ofWord; split <;> simp
  case h_11 => unfold ofNumber; split <;> simp
  case h_12 =>
    split
    · unfold ofNumber; split <;> simp
    · simp
  all_goals simp

/-- A text that may stand behind a number. -/
def Closing (text : List Char) : Prop := ∀ rest, EndsNumber rest → EndsNumber (text ++ rest)

theorem closing_cons (h : c.isDigit = false ∧ c ≠ '.' ∧ c ≠ 'e' ∧ c ≠ 'E') :
    Closing (c :: text) := by
  rintro rest - d ⟨⟩
  exact h

theorem closing_of_isBlank (h : isBlank c = true) : Closing (c :: text) := by
  simp only [isBlank, Bool.or_eq_true, beq_iff_eq] at h
  obtain ((rfl | rfl) | rfl) | rfl := h <;> exact closing_cons (by decide)

theorem Blank.closing (h : Blank blanks) (htext : Closing text) : Closing (blanks ++ text) := by
  cases blanks with
  | nil => exact htext
  | cons c blanks => exact closing_of_isBlank (h c List.mem_cons_self)

/-- **A text takes a builder to another one**, whatever comes behind that takes no number
further. -/
def Takes (text : List Char) (b b' : Builder) : Prop :=
  ∀ rest, EndsNumber rest → read b (text ++ rest) = read b' rest

namespace Takes

theorem nil : Takes [] b b := fun _ _ => rfl

theorem append (h : Takes text b b') (h' : Takes text' b' b'') (hclosing : Closing text') :
    Takes (text ++ text') b b'' := fun rest hrest => by
  rw [List.append_assoc, h _ (hclosing rest hrest), h' rest hrest]

theorem token (hblank : isBlank c = false)
    (hnext : ∀ rest, EndsNumber rest → next c (text ++ rest) = (t, rest)) :
    Takes (c :: text) b (b.step t) := fun rest hrest =>
  read_next hblank (hnext rest hrest) (by simp)

/-- A mark may have anything behind it. -/
theorem mark (hblank : isBlank c = false) (hnext : ∀ text, next c text = (t, text))
    (h : Takes text (b.step t) b') : Takes (c :: text) b b' := fun rest hrest =>
  (read_next hblank (hnext _) le_rfl).trans (h rest hrest)

theorem blank (hb : Blank blanks) (h : Takes text b b') : Takes (blanks ++ text) b b' := by
  induction blanks with
  | nil => exact h
  | cons c blanks ih =>
    intro rest hrest
    rw [← ih (fun d hd => hb d (List.mem_cons_of_mem _ hd)) rest hrest]
    exact read_blank (hb c List.mem_cons_self)

/-- Another builder that goes on in the same way. -/
theorem congr (h : Takes (c :: text) b' b'') (hblank : isBlank c = false)
    (hstep : ∀ text, b.step (next c text).1 = b'.step (next c text).1) :
    Takes (c :: text) b b'' := fun rest hrest =>
  (read_congr hblank (hstep _)).trans (h rest hrest)

end Takes

end Builder

/-! ### Values, items and members -/

open Builder Token

variable {text text' blanks blanks' between name : List Char} {c : Char} {o : Outline}
  {os os' : List Outline} {t : Lexeme} {ms ms' : List (Lexeme × Outline)}

/-- **A text is read as a value**: it starts with neither a blank nor the end of an array, and puts
the outline where a value is asked for. -/
structure TakesValue (text : List Char) (o : Outline) : Prop where
  start : ∃ c rest, text = c :: rest ∧ isBlank c = false ∧ c ≠ ']'
  takes : ∀ outer, Takes text (.value outer) (put o outer)

/-- A text is read as items: behind an opening bracket, and behind other items and a comma. -/
def TakesItems (text : List Char) (os : List Outline) : Prop :=
  ∀ outer, Takes text (.firstItem outer) (.itemEnd os.reverse outer) ∧
    ∀ items, Takes text (.item items outer) (.itemEnd (os.reverse ++ items) outer)

/-- A text is read as members: behind an opening brace, and behind other members and a comma. -/
def TakesMembers (text : List Char) (ms : List (Lexeme × Outline)) : Prop :=
  ∀ outer, Takes text (.firstName outer) (.memberEnd ms.reverse outer) ∧
    ∀ before, Takes text (.name before outer) (.memberEnd (ms.reverse ++ before) outer)

theorem Builder.Closing.nil : Closing [] := fun _ h => h

/-- Blanks behind a text change nothing. -/
theorem Builder.Takes.append_blank {b b' : Builder} (h : Takes text b b') (hb : Blank blanks) :
    Takes (text ++ blanks) b b' := by
  have hblanks : Takes (blanks ++ []) b' b' := .blank hb .nil
  have hclosing : Closing (blanks ++ []) := hb.closing .nil
  rw [List.append_nil] at hblanks hclosing
  exact h.append hblanks hclosing

namespace TakesItems

theorem single (hb : Blank blanks) (h : TakesValue text o) : TakesItems (blanks ++ text) [o] := by
  obtain ⟨⟨c, body, rfl, hblank, hstop⟩, htakes⟩ := h
  intro outer
  have hitem : ∀ items, Takes (c :: body) (.value (.array items :: outer))
      (.itemEnd (o :: items) outer) := fun items => htakes _
  -- the text of a value does not start like the end of the array
  have hstep : ∀ rest, (next c rest).1 ≠ .arrayStop := fun _ => next_ne_arrayStop hstop
  exact ⟨.blank hb ((hitem []).congr hblank fun rest => if_neg (hstep rest)), fun items =>
    .blank hb ((hitem items).congr hblank fun rest => if_neg (hstep rest))⟩

theorem append_blank (h : TakesItems text os) (hb : Blank blanks) :
    TakesItems (text ++ blanks) os := fun outer =>
  ⟨(h outer).1.append_blank hb, fun items => ((h outer).2 items).append_blank hb⟩

theorem append (h : TakesItems text os) (h' : TakesItems text' os') :
    TakesItems (text ++ ',' :: text') (os ++ os') := by
  intro outer
  have hcomma : ∀ items, Takes (',' :: text') (.itemEnd items outer)
      (.itemEnd (os'.reverse ++ items) outer) := fun items =>
    .mark (t := .comma) rfl (fun _ => rfl) ((h' outer).2 items)
  have hclosing : Closing (',' :: text') := closing_cons (by decide)
  rw [List.reverse_append]
  refine ⟨(h outer).1.append (hcomma _) hclosing, fun items => ?_⟩
  rw [List.append_assoc]
  exact ((h outer).2 items).append (hcomma _) hclosing

end TakesItems

/-- The text of a string is one token. -/
theorem takes_string (h : t.SpelledBy text) (b : Builder) : Takes text b (b.step (.string t)) := by
  cases h with
  | quoted h =>
    refine .token rfl fun rest _ => ?_
    rw [List.append_assoc, List.singleton_append, next, Lexeme.scan_of_spelledBy h]
    rfl

theorem stop_of_spelledBy (h : t.SpelledBy text) : t.stop = .closed := by
  cases h
  rfl

namespace TakesMembers

theorem single (hb : Blank blanks) (ht : t.SpelledBy name) (hbetween : Blank between)
    (hb' : Blank blanks') (h : TakesValue text o) :
    TakesMembers (blanks ++ (name ++ (between ++ ':' :: (blanks' ++ text)))) [(t, o)] := by
  intro outer
  have hvalue : ∀ before, Takes (':' :: (blanks' ++ text)) (.colon before t outer)
      (.memberEnd ((t, o) :: before) outer) := fun before =>
    .mark (t := .colon) rfl (fun _ => rfl) (.blank hb' (h.takes (.object before t :: outer)))
  have hclosing : Closing (between ++ ':' :: (blanks' ++ text)) :=
    hbetween.closing (closing_cons (by decide))
  have hmember : ∀ b before, b.step (.string t) = .colon before t outer →
      Takes (name ++ (between ++ ':' :: (blanks' ++ text))) b (.memberEnd ((t, o) :: before) outer) :=
    fun b before hb => by
      have hname := takes_string ht b
      rw [hb] at hname
      exact hname.append (.blank hbetween (hvalue before)) hclosing
  have hclosed := stop_of_spelledBy ht
  exact ⟨.blank hb (hmember _ [] (if_pos hclosed)), fun before =>
    .blank hb (hmember _ before (if_pos hclosed))⟩

theorem append_blank (h : TakesMembers text ms) (hb : Blank blanks) :
    TakesMembers (text ++ blanks) ms := fun outer =>
  ⟨(h outer).1.append_blank hb, fun before => ((h outer).2 before).append_blank hb⟩

theorem append (h : TakesMembers text ms) (h' : TakesMembers text' ms') :
    TakesMembers (text ++ ',' :: text') (ms ++ ms') := by
  intro outer
  have hcomma : ∀ before, Takes (',' :: text') (.memberEnd before outer)
      (.memberEnd (ms'.reverse ++ before) outer) := fun before =>
    .mark (t := .comma) rfl (fun _ => rfl) ((h' outer).2 before)
  have hclosing : Closing (',' :: text') := closing_cons (by decide)
  rw [List.reverse_append]
  refine ⟨(h outer).1.append (hcomma _) hclosing, fun before => ?_⟩
  rw [List.append_assoc]
  exact ((h outer).2 before).append (hcomma _) hclosing

end TakesMembers

namespace TakesValue

theorem null : TakesValue "null".toList .null :=
  ⟨⟨'n', _, rfl, rfl, by decide⟩, fun _ => .token (t := .null) rfl fun _ _ => rfl⟩

theorem bool (b : Bool) : TakesValue (if b then "true" else "false").toList (.bool b) := by
  cases b
  · exact ⟨⟨'f', _, rfl, rfl, by decide⟩, fun _ =>
      .token (t := .bool false) rfl fun _ _ => rfl⟩
  · exact ⟨⟨'t', _, rfl, rfl, by decide⟩, fun _ =>
      .token (t := .bool true) rfl fun _ _ => rfl⟩

theorem start_of_isDigit (h : c.isDigit = true) : isBlank c = false ∧ c ≠ ']' := by
  constructor
  · refine Bool.eq_false_iff.mpr fun hblank => ?_
    have hclosing : Closing [c] := closing_of_isBlank hblank
    have hends : EndsNumber [c] := hclosing [] fun _ h => by cases h
    exact Bool.false_ne_true ((hends c rfl).1.symm.trans h)
  · rintro rfl
    exact absurd h (by decide)

theorem number {n : Numeral} (h : n.SpelledBy text) : TakesValue text (.number n) := by
  cases h with
  | @signed negative integer fraction point power exponent hinteger hfraction hexponent =>
    have hread : ∀ rest, EndsNumber rest →
        ofNumber negative (integer ++ (point ++ power) ++ rest) = (.number _, rest) :=
      fun rest hrest => ofNumber_append hinteger hfraction hexponent hrest
    cases negative with
    | true =>
      exact ⟨⟨'-', _, rfl, rfl, by decide⟩, fun _ => .token (t := .number _) rfl hread⟩
    | false =>
      obtain ⟨⟨hne, hdigits⟩, -⟩ := hinteger
      obtain ⟨d, ds, rfl⟩ := List.exists_cons_of_ne_nil hne
      have hd : d.isDigit = true := hdigits d List.mem_cons_self
      refine ⟨⟨d, _, rfl, start_of_isDigit hd⟩, fun _ => ?_⟩
      refine .token (t := .number _) (start_of_isDigit hd).1 fun rest hrest => ?_
      rw [next_of_isDigit hd]
      exact hread rest hrest

theorem string (h : t.SpelledBy text) : TakesValue text (.string t) := by
  have hclosed := stop_of_spelledBy h
  refine ⟨?_, fun outer => ?_⟩
  · cases h
    exact ⟨'"', _, rfl, rfl, by decide⟩
  · have htakes := takes_string h (.value outer)
    have hput : step (.value outer) (.string t) = put (.string t) outer := if_pos hclosed
    rwa [hput] at htakes

theorem emptyArray (hb : Blank blanks) : TakesValue ('[' :: (blanks ++ [']'])) (.array [] .closed) :=
  ⟨⟨'[', _, rfl, rfl, by decide⟩, fun _ =>
    .mark (t := .arrayStart) rfl (fun _ => rfl)
      (.blank hb (.mark (t := .arrayStop) rfl (fun _ => rfl) .nil))⟩

theorem array (h : TakesItems text os) : TakesValue ('[' :: (text ++ [']'])) (.array os .closed) := by
  refine ⟨⟨'[', _, rfl, rfl, by decide⟩, fun outer => ?_⟩
  have hstop : Takes [']'] (.itemEnd os.reverse outer) (put (.array os .closed) outer) := by
    refine .mark (t := .arrayStop) rfl (fun _ => rfl) ?_
    rw [step, List.reverse_reverse]
    exact .nil
  exact .mark (t := .arrayStart) rfl (fun _ => rfl)
    ((h outer).1.append hstop (closing_cons (by decide)))

theorem emptyObject (hb : Blank blanks) :
    TakesValue ('\x7b' :: (blanks ++ ['\x7d'])) (.object [] .closed) :=
  ⟨⟨'\x7b', _, rfl, rfl, by decide⟩, fun _ =>
    .mark (t := .objectStart) rfl (fun _ => rfl)
      (.blank hb (.mark (t := .objectStop) rfl (fun _ => rfl) .nil))⟩

theorem object (h : TakesMembers text ms) :
    TakesValue ('\x7b' :: (text ++ ['\x7d'])) (.object ms .closed) := by
  refine ⟨⟨'\x7b', _, rfl, rfl, by decide⟩, fun outer => ?_⟩
  have hstop : Takes ['\x7d'] (.memberEnd ms.reverse outer) (put (.object ms .closed) outer) := by
    refine .mark (t := .objectStop) rfl (fun _ => rfl) ?_
    rw [step, List.reverse_reverse]
    exact .nil
  exact .mark (t := .objectStart) rfl (fun _ => rfl)
    ((h outer).1.append hstop (closing_cons (by decide)))

end TakesValue

/-! ### Documents -/

namespace Outline

mutual

/-- **What a text spells is read.** -/
theorem SpelledBy.takes : ∀ {o : Outline} {text : List Char}, o.SpelledBy text → TakesValue text o
  | _, _, .null => .null
  | _, _, .bool b => .bool b
  | _, _, .number h => .number h
  | _, _, .string h => .string h
  | _, _, .emptyArray hb => .emptyArray hb
  | _, _, .array h => .array h.takes
  | _, _, .emptyObject hb => .emptyObject hb
  | _, _, .object h => .object h.takes

theorem ItemsSpelledBy.takes : ∀ {os : List Outline} {text : List Char},
    ItemsSpelledBy os text → TakesItems text os
  | _, _, .single hb h hb' => (TakesItems.single hb h.takes).append_blank hb'
  | _, _, .append h h' => h.takes.append h'.takes

theorem MembersSpelledBy.takes : ∀ {ms : List (Lexeme × Outline)} {text : List Char},
    MembersSpelledBy ms text → TakesMembers text ms
  | _, _, .single hb ht hbetween hb' h hbehind =>
    (TakesMembers.single hb ht hbetween hb' h.takes).append_blank hbehind
  | _, _, .append h h' => h.takes.append h'.takes

end

/-- **The outline of a document** is found, and nothing stands behind it. -/
theorem IsDocument.ofText {text : String} (h : IsDocument text o) : ofText text = (o, false) := by
  obtain ⟨before, value, behind, hbefore, hvalue, hbehind, htext⟩ := h
  have hends : EndsNumber [] := fun _ hc => by cases hc
  have hwhole := (Takes.blank hbefore (hvalue.takes.takes [])).append_blank hbehind [] hends
  rw [List.append_nil, read_nil, ← htext] at hwhole
  rw [Outline.ofText]
  exact congrArg Builder.finish hwhole

/-! ### Skipping -/

theorem skipItems_eq_ok : ∀ {os : List Outline},
    skipItems os = .ok () ↔ ∀ o ∈ os, o.skip = .ok ()
  | [] => by simp [skipItems]
  | o :: os => by
    rw [skipItems, List.forall_mem_cons, ← skipItems_eq_ok]
    cases o.skip <;> simp

theorem skipMembers_eq_ok : ∀ {ms : List (Lexeme × Outline)},
    skipMembers ms = .ok () ↔ ∀ m ∈ ms, m.1.skip = .ok () ∧ m.2.skip = .ok ()
  | [] => by simp [skipMembers]
  | (t, o) :: ms => by
    rw [skipMembers, List.forall_mem_cons, ← skipMembers_eq_ok]
    cases t.skip <;> cases o.skip <;> simp

theorem skip_array_eq_ok {stop : ArrayEnd} : (array os stop).skip = .ok () ↔
    (∀ o ∈ os, o.skip = .ok ()) ∧ stop.skip = .ok () := by
  rw [skip, ← skipItems_eq_ok]
  cases skipItems os <;> simp

theorem skip_object_eq_ok {stop : ObjectEnd} : (object ms stop).skip = .ok () ↔
    (∀ m ∈ ms, m.1.skip = .ok () ∧ m.2.skip = .ok ()) ∧ stop.skip = .ok () := by
  rw [skip, ← skipMembers_eq_ok]
  cases skipMembers ms <;> simp

mutual

/-- **What a text spells is read over** without a fault. -/
theorem SpelledBy.skip : ∀ {o : Outline} {text : List Char}, o.SpelledBy text → o.skip = .ok ()
  | _, _, .null => rfl
  | _, _, .bool _ => rfl
  | _, _, .number _ => rfl
  | _, _, .string h => by rw [Outline.skip, Lexeme.skip, stop_of_spelledBy h]; rfl
  | _, _, .emptyArray _ => rfl
  | _, _, .array h => skip_array_eq_ok.mpr ⟨h.skip, rfl⟩
  | _, _, .emptyObject _ => rfl
  | _, _, .object h => skip_object_eq_ok.mpr ⟨h.skip, rfl⟩

theorem ItemsSpelledBy.skip : ∀ {os : List Outline} {text : List Char}, ItemsSpelledBy os text →
    ∀ o ∈ os, o.skip = .ok ()
  | _, _, .single _ h _ => List.forall_mem_singleton.mpr h.skip
  | _, _, .append h h' => List.forall_mem_append.mpr ⟨h.skip, h'.skip⟩

theorem MembersSpelledBy.skip : ∀ {ms : List (Lexeme × Outline)} {text : List Char},
    MembersSpelledBy ms text → ∀ m ∈ ms, m.1.skip = .ok () ∧ m.2.skip = .ok ()
  | _, _, .single _ ht _ _ h _ => List.forall_mem_singleton.mpr
    ⟨by rw [Lexeme.skip, stop_of_spelledBy ht]; rfl, h.skip⟩
  | _, _, .append h h' => List.forall_mem_append.mpr ⟨h.skip, h'.skip⟩

end

theorem IsDocument.skip {text : String} (h : IsDocument text o) : o.skip = .ok () := by
  obtain ⟨_, _, _, _, hvalue, _⟩ := h
  exact hvalue.skip

/-! ### Blanks behind a text -/

theorem blank_concat (h : Blank blanks) (hc : Token.isBlank c = true) : Blank (blanks ++ [c]) :=
  List.forall_mem_append.mpr ⟨h, List.forall_mem_singleton.mpr hc⟩

theorem ItemsSpelledBy.concat (hc : Token.isBlank c = true) : ∀ {os : List Outline}
    {text : List Char}, ItemsSpelledBy os text → ItemsSpelledBy os (text ++ [c])
  | _, _, .single hbefore h hbehind => by
    rw [List.append_assoc]
    exact .single hbefore h (blank_concat hbehind hc)
  | _, _, .append h h' => by
    rw [List.append_assoc, List.cons_append]
    exact .append h (h'.concat hc)

theorem MembersSpelledBy.concat (hc : Token.isBlank c = true) : ∀ {ms : List (Lexeme × Outline)}
    {text : List Char}, MembersSpelledBy ms text → MembersSpelledBy ms (text ++ [c])
  | _, _, .single hbefore hname hbetween hbetween' h hbehind => by
    rw [List.append_assoc]
    exact .single hbefore hname hbetween hbetween' h (blank_concat hbehind hc)
  | _, _, .append h h' => by
    rw [List.append_assoc, List.cons_append]
    exact .append h (h'.concat hc)

end Outline

end OfflineManifest.Json
