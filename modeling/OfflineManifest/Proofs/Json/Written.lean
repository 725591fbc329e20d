import OfflineManifest.Proofs.Json.Denotation
import OfflineManifest.Proofs.Json.Documents

/-! # What written values denote

The text of a value is read as an outline that denotes the value (`Writes`). Texts of items and of
members are put together in the same way, with blanks between them, so that the outline of a whole
written text denotes the value (`ofText_of_writes`).

Floating-point numbers are left out: to read their digits back is a matter of rounding. -/

namespace OfflineManifest.Json

/-- **No number in a value is a floating-point number.** -/
inductive Value.Exact : Value → Prop where
  | null : Exact .null
  | bool (b : Bool) : Exact (.bool b)
  | natural (n : UInt64) : Exact (.number (.natural n))
  | negative (m : ℕ) (bounds : 0 < m ∧ m ≤ negativeLimit) : Exact (.number (.negative m bounds))
  | string (s : String) : Exact (.string s)
  | array {items : List Value} (h : ∀ v ∈ items, Exact v) : Exact (.array items)
  | object {members : List (String × Value)} (h : ∀ m ∈ members, Exact m.2) :
    Exact (.object members)

namespace Value.Exact

attribute [simp] Exact.bool Exact.string

@[simp] theorem ofUInt64 (n : UInt64) : (Value.ofUInt64 n).Exact := .natural n

@[simp] theorem ofUInt32 (n : UInt32) : (Value.ofUInt32 n).Exact := .natural n.toUInt64

theorem array_map {α : Type} {f : α → Value} {as : List α} (h : ∀ a ∈ as, (f a).Exact) :
    (Value.array (as.map f)).Exact :=
  .array (List.forall_mem_map.mpr h)

@[simp] theorem ofStrings (texts : List String) : (Value.ofStrings texts).Exact :=
  array_map fun s _ => .string s

theorem member? {α : Type} {f : α → Value} {value : Option α} {name : String}
    (h : ∀ a ∈ value, (f a).Exact) : ∀ m ∈ Value.member? name (value.map f), m.2.Exact := by
  cases value with
  | none => exact fun _ hm => absurd hm List.not_mem_nil
  | some a => exact fun m hm => List.mem_singleton.mp hm ▸ h a rfl

end Value.Exact

/-! ### Texts of values, items and members -/

open Builder Token

variable {text text' blanks blanks' : List Char} {v : Value} {vs ws : List Value} {name : String}
  {members members' : List (String × Value)}

/-- **A text writes a value**: it is read as an outline of the value. -/
structure Writes (text : List Char) (v : Value) : Prop where
  start : ∃ c rest, text = c :: rest ∧ isBlank c = false ∧ c ≠ ']'
  takes : ∃ o : Outline, o.Denotes v ∧ ∀ outer, Takes text (.value outer) (put o outer)

/-- A text writes items: behind an opening bracket, and behind other items and a comma. -/
def WritesItems (text : List Char) (vs : List Value) : Prop :=
  ∃ os, Outline.ItemsDenote os vs ∧ ∀ outer,
    Takes text (.firstItem outer) (.itemEnd os.reverse outer) ∧
    ∀ items, Takes text (.item items outer) (.itemEnd (os.reverse ++ items) outer)

/-- A text writes members: behind an opening brace, and behind other members and a comma. -/
def WritesMembers (text : List Char) (members : List (String × Value)) : Prop :=
  ∃ os, Outline.MembersDenote os members ∧ ∀ outer,
    Takes text (.firstName outer) (.memberEnd os.reverse outer) ∧
    ∀ before, Takes text (.name before outer) (.memberEnd (os.reverse ++ before) outer)

theorem Writes.of_takes {o : Outline} (h : TakesValue text o) (ho : o.Denotes v) : Writes text v :=
  ⟨h.start, o, ho, h.takes⟩

theorem Writes.exists_takes (h : Writes text v) : ∃ o : Outline, o.Denotes v ∧ TakesValue text o := by
  obtain ⟨hstart, o, ho, htakes⟩ := h
  exact ⟨o, ho, hstart, htakes⟩

namespace WritesItems

theorem single (hb : Blank blanks) (h : Writes text v) : WritesItems (blanks ++ text) [v] := by
  obtain ⟨o, ho, htakes⟩ := h.exists_takes
  exact ⟨[o], .cons ho .nil, TakesItems.single hb htakes⟩

theorem append (h : WritesItems text vs) (h' : WritesItems text' ws) :
    WritesItems (text ++ ',' :: text') (vs ++ ws) := by
  obtain ⟨os, hos, htakes⟩ := h
  obtain ⟨os', hos', htakes'⟩ := h'
  exact ⟨os ++ os', hos.append hos', TakesItems.append htakes htakes'⟩

end WritesItems

namespace WritesMembers

theorem single (hb : Blank blanks) (hb' : Blank blanks') (h : Writes text v) :
    WritesMembers (blanks ++ stringText name ++ ':' :: (blanks' ++ text)) [(name, v)] := by
  obtain ⟨t, ht, hname⟩ := Lexeme.exists_spelledBy_stringText name
  obtain ⟨o, ho, htakes⟩ := h.exists_takes
  rw [List.append_assoc]
  exact ⟨[(t, o)], .cons ht ho .nil, TakesMembers.single hb hname blank_nil hb' htakes⟩

theorem append (h : WritesMembers text members) (h' : WritesMembers text' members') :
    WritesMembers (text ++ ',' :: text') (members ++ members') := by
  obtain ⟨os, hos, htakes⟩ := h
  obtain ⟨os', hos', htakes'⟩ := h'
  exact ⟨os ++ os', hos.append hos', TakesMembers.append htakes htakes'⟩

end WritesMembers

namespace Writes

theorem null : Writes "null".toList .null := of_takes .null .null

theorem bool (b : Bool) : Writes (if b then "true" else "false").toList (.bool b) :=
  of_takes (.bool b) (.bool b)

theorem natural (n : UInt64) : Writes (naturalText n.toNat) (.number (.natural n)) :=
  of_takes (.number (Numeral.spelledBy_naturalText false n.toNat))
    (.number (Numeral.value?_natural n))

theorem negative (m : ℕ) (bounds : 0 < m ∧ m ≤ negativeLimit) :
    Writes ('-' :: naturalText m) (.number (.negative m bounds)) :=
  of_takes (.number (Numeral.spelledBy_naturalText true m)) (.number (Numeral.value?_negative m bounds))

theorem string (s : String) : Writes (stringText s) (.string s) := by
  obtain ⟨t, ht, hspelled⟩ := Lexeme.exists_spelledBy_stringText s
  exact of_takes (.string hspelled) (.string ht)

theorem emptyArray : Writes ['[', ']'] (.array []) :=
  of_takes (.emptyArray blank_nil) (.array .nil)

theorem array (hb : Blank blanks) (h : WritesItems text vs) :
    Writes ('[' :: text ++ blanks ++ [']']) (.array vs) := by
  obtain ⟨os, hos, htakes⟩ := h
  have hitems : TakesItems (text ++ blanks) os := TakesItems.append_blank htakes hb
  exact of_takes (.array hitems) (.array hos)

theorem emptyObject : Writes ['\x7b', '\x7d'] (.object []) :=
  of_takes (.emptyObject blank_nil) (.object .nil)

theorem object (hb : Blank blanks) (h : WritesMembers text members) :
    Writes ('\x7b' :: text ++ blanks ++ ['\x7d']) (.object members) := by
  obtain ⟨os, hos, htakes⟩ := h
  have hmembers : TakesMembers (text ++ blanks) os := TakesMembers.append_blank htakes hb
  exact of_takes (.object hmembers) (.object hos)

end Writes

/-! ### Written values -/

theorem blank_newLine (level : ℕ) : Blank (Value.newLine level) := by
  intro c hc
  rcases List.mem_cons.mp hc with rfl | hc
  · rfl
  · rw [List.eq_of_mem_replicate hc]
    rfl

theorem blank_space : Blank [' '] := by
  intro c hc
  rw [List.mem_singleton.mp hc]
  rfl

open Value

mutual

/-- **The text of a value on several lines** writes it. -/
theorem writes_prettyChars : ∀ (v : Value) (level : ℕ), v.Exact → Writes (prettyChars level v) v
  | .null, _, _ => .null
  | .bool true, _, _ => .bool true
  | .bool false, _, _ => .bool false
  | .number _, _, .natural n => .natural n
  | .number _, _, .negative m bounds => .negative m bounds
  | .string s, _, _ => .string s
  | .array [], _, _ => .emptyArray
  | .array (v :: vs), level, .array h =>
    .array (blank_newLine level) (writesItems_prettyItems (v :: vs) (level + 1) (by simp) h)
  | .object [], _, _ => .emptyObject
  | .object (m :: members), level, .object h =>
    .object (blank_newLine level)
      (writesMembers_prettyMembers (m :: members) (level + 1) (by simp) h)

theorem writesItems_prettyItems : ∀ (vs : List Value) (level : ℕ), vs ≠ [] →
    (∀ v ∈ vs, v.Exact) → WritesItems (prettyItems level vs) vs
  | [], _, hne, _ => absurd rfl hne
  | [v], level, _, h =>
    .single (blank_newLine level) (writes_prettyChars v level (h v List.mem_cons_self))
  | v :: w :: vs, level, _, h =>
    .append (.single (blank_newLine level) (writes_prettyChars v level (h v List.mem_cons_self)))
      (writesItems_prettyItems (w :: vs) level (by simp) (List.forall_mem_cons.mp h).2)

theorem writesMembers_prettyMembers : ∀ (members : List (String × Value)) (level : ℕ),
    members ≠ [] → (∀ m ∈ members, m.2.Exact) →
    WritesMembers (prettyMembers level members) members
  | [], _, hne, _ => absurd rfl hne
  | [(_, v)], level, _, h =>
    .single (blank_newLine level) blank_space (writes_prettyChars v level (h _ List.mem_cons_self))
  | (_, v) :: m :: members, level, _, h =>
    .append
      (.single (blank_newLine level) blank_space
        (writes_prettyChars v level (h _ List.mem_cons_self)))
      (writesMembers_prettyMembers (m :: members) level (by simp) (List.forall_mem_cons.mp h).2)

end

mutual

/-- **The text of a value without blanks** writes it. -/
theorem writes_compactChars : ∀ v : Value, v.Exact → Writes (compactChars v) v
  | .null, _ => .null
  | .bool true, _ => .bool true
  | .bool false, _ => .bool false
  | .number _, .natural n => .natural n
  | .number _, .negative m bounds => .negative m bounds
  | .string s, _ => .string s
  | .array [], _ => .emptyArray
  | .array (v :: vs), .array h => by
    have hitems := writesItems_compactItems (v :: vs) (by simp) h
    rw [compactChars, ← List.append_nil ('[' :: _)]
    exact .array blank_nil hitems
  | .object [], _ => .emptyObject
  | .object (m :: members), .object h => by
    have hmembers := writesMembers_compactMembers (m :: members) (by simp) h
    rw [compactChars, ← List.append_nil ('\x7b' :: _)]
    exact .object blank_nil hmembers

theorem writesItems_compactItems : ∀ vs : List Value, vs ≠ [] → (∀ v ∈ vs, v.Exact) →
    WritesItems (compactItems vs) vs
  | [], hne, _ => absurd rfl hne
  | [v], _, h => .single blank_nil (writes_compactChars v (h v List.mem_cons_self))
  | v :: w :: vs, _, h =>
    .append (.single blank_nil (writes_compactChars v (h v List.mem_cons_self)))
      (writesItems_compactItems (w :: vs) (by simp) (List.forall_mem_cons.mp h).2)

theorem writesMembers_compactMembers : ∀ members : List (String × Value), members ≠ [] →
    (∀ m ∈ members, m.2.Exact) → WritesMembers (compactMembers members) members
  | [], hne, _ => absurd rfl hne
  | [(_, v)], _, h =>
    .single blank_nil blank_nil (writes_compactChars v (h _ List.mem_cons_self))
  | (_, v) :: m :: members, _, h =>
    .append (.single blank_nil blank_nil (writes_compactChars v (h _ List.mem_cons_self)))
      (writesMembers_compactMembers (m :: members) (by simp) (List.forall_mem_cons.mp h).2)

end

/-- Blanks behind a text change nothing. -/
theorem Writes.append_blank (h : Writes text v) (hb : Blank blanks) : Writes (text ++ blanks) v := by
  obtain ⟨o, ho, ⟨c, rest, rfl, hstart⟩, htakes⟩ := h.exists_takes
  exact ⟨⟨c, rest ++ blanks, rfl, hstart⟩, o, ho, fun outer => (htakes outer).append_blank hb⟩

/-- **The outline of a text that writes a value** denotes the value. -/
theorem ofText_of_writes (h : Writes text v) :
    ∃ o : Outline, o.Denotes v ∧ Outline.ofText (String.ofList text) = (o, false) := by
  obtain ⟨-, o, ho, htakes⟩ := h
  have hends : EndsNumber [] := fun _ hc => by cases hc
  have hwhole := htakes [] [] hends
  rw [List.append_nil, read_nil] at hwhole
  refine ⟨o, ho, ?_⟩
  rw [Outline.ofText, String.toList_ofList]
  exact congrArg Builder.finish hwhole

end OfflineManifest.Json
