import OfflineManifest.Proofs.Json.Documents
import OfflineManifest.Proofs.Json.Reading

/-! # Members in any order

The members of a record may be given in another order, with others among them whose names are those
of no field, and the values of its fields may themselves differ in this way (`Outline.Rearranged`).
A member goes into the slot of its field and changes nothing else, so two members can change places
(`Field.putAll_swap`), and by induction any members (`Field.putAll_perm`); a member without a field
is read over (`Field.putAll_extra`). So a record is read as before if its fields are
(`Decoder.respects_record`). -/

namespace OfflineManifest.Json

/-! ### Outlines that differ in their members -/

namespace Outline

/-- Arrays differ item by item. -/
inductive Each (R : Outline → Outline → Prop) : Outline → Outline → Prop
  | array {os os' : List Outline} (stop : ArrayEnd) (h : List.Forall₂ R os os') :
    Each R (.array os stop) (.array os' stop)

section Records

variable (names : Lexeme → Prop) (fs : List (String × (Outline → Outline → Prop)))

/-- A member keeps its name. Its value may differ as the values of the field with that name may, and
is the same if no field has the name. -/
inductive Kept : Lexeme × Outline → Lexeme × Outline → Prop
  | field {t : Lexeme} {name : String} {R : Outline → Outline → Prop} {o o' : Outline}
    (ht : t.text? = .ok name) (hfield : (name, R) ∈ fs) (h : R o o') : Kept (t, o) (t, o')
  | other (m : Lexeme × Outline) : Kept m m

/-- Items that are the values of fields in order, and differ as these may. -/
inductive InOrder : List (String × (Outline → Outline → Prop)) → List Outline → List Outline → Prop
  | nil (fs : List (String × (Outline → Outline → Prop))) : InOrder fs [] []
  | cons {name : String} {R : Outline → Outline → Prop} {o o' : Outline}
    {fs : List (String × (Outline → Outline → Prop))} {os os' : List Outline} (h : R o o')
    (hrest : InOrder fs os os') : InOrder ((name, R) :: fs) (o :: os) (o' :: os')

/-- **A record is rearranged**: its members stand in any order, and among them stand others, whose
names are those of no field. A record that is written as an array keeps its items in order. -/
inductive Rearranged : Outline → Outline → Prop
  | object {ms kept extra ms' : List (Lexeme × Outline)} (stop : ObjectEnd)
    (hkept : List.Forall₂ (Kept fs) ms kept)
    (hextra : ∀ m ∈ extra, names m.1 ∧ ∀ f ∈ fs, m.1.text? ≠ .ok f.1)
    (hperm : ms'.Perm (kept ++ extra)) : Rearranged (.object ms stop) (.object ms' stop)
  | array {os os' : List Outline} (stop : ArrayEnd) (h : InOrder fs os os') :
    Rearranged (.array os stop) (.array os' stop)

end Records

end Outline

open Outline (Each Kept InOrder Rearranged)

/-- **A decoder respects a way to differ**: what it reads, it reads as the same from an outline that
differs so, if that can be read over. -/
def Decoder.Respects {α : Type} (R : Outline → Outline → Prop) (d : Decoder α) : Prop :=
  ∀ n o o' a, R o o' → o'.skip = .ok () → d n o = .ok a → d n o' = .ok a

/-- A field has a name, and its decoder respects a way to differ. -/
def Field.Respects (f : String × (Outline → Outline → Prop)) (F : Field) : Prop :=
  f.1 = F.name ∧ F.decode.Respects f.2

namespace Field

variable {n i : ℕ} {key key' expected : String} {o o' : Outline} {f : Field} {fs : List Field}
  {rs : List (String × (Outline → Outline → Prop))} {R : Outline → Outline → Prop}
  {slots slots₁ slots₂ : Slots fs} {m m' : Lexeme × Outline} {ms ms' extra : List (Lexeme × Outline)}

/-! ### One member -/

/-- Slots with one more in front. -/
def consSlot (slot : Option f.type) (slots : Slots fs) : Slots (f :: fs) := (slot, slots)

theorem put_cons (n : ℕ) (key : String) (o : Outline) (slot : Option f.type) (slots : Slots fs) :
    put n key o (f :: fs) (consSlot slot slots) =
      if key = f.name then
        match slot with
        | some _ => .error (.duplicateField f.name)
        | none => (f.decode n o).map fun v => some (consSlot (some v) slots)
      else (put n key o fs slots).map fun rest => rest.map (consSlot slot) := by
  by_cases h : key = f.name
  · rw [if_pos h]
    refine (if_pos h).trans ?_
    cases slot with
    | some v => rfl
    | none => cases f.decode n o <;> rfl
  · rw [if_neg h]
    exact put_of_ne h o slot slots

/-- A member is put into the slot of its field, which was empty before. -/
theorem put_cons_eq_some {slot : Option f.type} {slots : Slots fs} {filled : Slots (f :: fs)} :
    put n key o (f :: fs) (consSlot slot slots) = .ok (some filled) ↔
      (key = f.name ∧ slot = none ∧
        ∃ v, f.decode n o = .ok v ∧ filled = consSlot (some v) slots) ∨
        (key ≠ f.name ∧
          ∃ rest, put n key o fs slots = .ok (some rest) ∧ filled = consSlot slot rest) := by
  rw [put_cons]
  by_cases h : key = f.name
  · cases slot with
    | some v => simp [h]
    | none => simp [h, except_map_eq_ok, @eq_comm _ filled]
  · simp [h, except_map_eq_ok, @eq_comm _ filled]

/-- A member has no slot exactly if no field has its name. -/
theorem put_eq_none (n : ℕ) (key : String) (o : Outline) : ∀ (fs : List Field) (slots : Slots fs),
    put n key o fs slots = .ok none ↔ key ∉ fs.map Field.name
  | [], _ => by simp [put]
  | f :: fs, (slot, slots) => by
    have hcons := put_cons n key o slot slots
    have hrest := put_eq_none n key o fs slots
    refine (congrArg (· = Except.ok none) hcons).to_iff.trans ?_
    rw [List.map_cons, List.mem_cons, not_or, ← hrest]
    by_cases h : key = f.name
    · cases slot <;> simp [h, except_map_eq_ok]
    · simp [h, except_map_eq_ok]

/-- Two members can be put in either order. -/
theorem put_comm : ∀ {fs : List Field} {slots slots₁ slots₂ : Slots fs},
    put n key o fs slots = .ok (some slots₁) → put n key' o' fs slots₁ = .ok (some slots₂) →
      ∃ slots', put n key' o' fs slots = .ok (some slots') ∧
        put n key o fs slots' = .ok (some slots₂)
  | [], _, _, _, h, _ => by cases h
  | f :: fs, (slot, slots), _, slots₂, h, h' => by
    rcases put_cons_eq_some.mp h with ⟨hkey, rfl, v, hv, rfl⟩ | ⟨hkey, rest, hrest, rfl⟩ <;>
      rcases put_cons_eq_some.mp h' with ⟨hkey', hslot, w, hw, rfl⟩ | ⟨hkey', rest', hrest', rfl⟩
    · cases hslot
    · exact ⟨_, put_cons_eq_some.mpr (.inr ⟨hkey', rest', hrest', rfl⟩),
        put_cons_eq_some.mpr (.inl ⟨hkey, rfl, v, hv, rfl⟩)⟩
    · exact ⟨_, put_cons_eq_some.mpr (.inl ⟨hkey', hslot, w, hw, rfl⟩),
        put_cons_eq_some.mpr (.inr ⟨hkey, rest, hrest, rfl⟩)⟩
    · obtain ⟨both, hfirst, hsecond⟩ := put_comm hrest hrest'
      exact ⟨_, put_cons_eq_some.mpr (.inr ⟨hkey', both, hfirst, rfl⟩),
        put_cons_eq_some.mpr (.inr ⟨hkey, rest', hsecond, rfl⟩)⟩

theorem putAll_single_eq_ok {t : Lexeme} : putAll n fs slots [(t, o)] = .ok slots₁ ↔
    ∃ key, t.text? = .ok key ∧ (put n key o fs slots = .ok (some slots₁) ∨
      key ∉ fs.map Field.name ∧ o.skip = .ok () ∧ slots = slots₁) := by
  rw [putAll]
  cases ht : t.text? with
  | error e => simp
  | ok key =>
    have hnone := put_eq_none n key o fs slots
    simp only [Except.ok.injEq, exists_eq_left', ← hnone]
    rcases hput : put n key o fs slots with e | _ | filled
    · simp
    · cases hskip : o.skip <;> simp [putAll]
    · simp [putAll]

/-! ### Many members -/

theorem putAll_cons_eq_ok : putAll n fs slots (m :: ms) = .ok slots₂ ↔
    ∃ slots₁, putAll n fs slots [m] = .ok slots₁ ∧ putAll n fs slots₁ ms = .ok slots₂ := by
  obtain ⟨t, o⟩ := m
  rw [putAll]
  cases ht : t.text? with
  | error e => simp [putAll, ht]
  | ok key =>
    rcases hput : put n key o fs slots with e | _ | filled
    · simp [putAll, ht, hput]
    · cases hskip : o.skip <;> simp [putAll, ht, hput, hskip]
    · simp [putAll, ht, hput]

theorem putAll_append_eq_ok : putAll n fs slots (ms ++ ms') = .ok slots₂ ↔
    ∃ slots₁, putAll n fs slots ms = .ok slots₁ ∧ putAll n fs slots₁ ms' = .ok slots₂ := by
  induction ms generalizing slots with
  | nil => simp [putAll]
  | cons m ms ih =>
    rw [List.cons_append, putAll_cons_eq_ok]
    constructor
    · rintro ⟨slots₁, hm, h⟩
      obtain ⟨slots₃, hms, h⟩ := ih.mp h
      exact ⟨slots₃, putAll_cons_eq_ok.mpr ⟨slots₁, hm, hms⟩, h⟩
    · rintro ⟨slots₃, h, h'⟩
      obtain ⟨slots₁, hm, hms⟩ := putAll_cons_eq_ok.mp h
      exact ⟨slots₁, hm, ih.mpr ⟨slots₃, hms, h'⟩⟩

/-- **Two members can change places.** -/
theorem putAll_swap (h : putAll n fs slots (m :: m' :: ms) = .ok slots₂) :
    putAll n fs slots (m' :: m :: ms) = .ok slots₂ := by
  obtain ⟨t, o⟩ := m
  obtain ⟨t', o'⟩ := m'
  obtain ⟨slots₁, hfirst, h⟩ := putAll_cons_eq_ok.mp h
  obtain ⟨slots₃, hsecond, h⟩ := putAll_cons_eq_ok.mp h
  obtain ⟨slots', hfirst', hsecond'⟩ : ∃ slots', putAll n fs slots [(t', o')] = .ok slots' ∧
      putAll n fs slots' [(t, o)] = .ok slots₃ := by
    simp only [putAll_single_eq_ok] at hfirst hsecond ⊢
    obtain ⟨key, ht, hput | ⟨hkey, hskip, rfl⟩⟩ := hfirst
    · obtain ⟨key', ht', hput' | ⟨hkey', hskip', rfl⟩⟩ := hsecond
      · obtain ⟨slots', hfirst, hsecond⟩ := put_comm hput hput'
        exact ⟨slots', ⟨key', ht', .inl hfirst⟩, ⟨key, ht, .inl hsecond⟩⟩
      · exact ⟨slots, ⟨key', ht', .inr ⟨hkey', hskip', rfl⟩⟩, ⟨key, ht, .inl hput⟩⟩
    · exact ⟨slots₃, hsecond, ⟨key, ht, .inr ⟨hkey, hskip, rfl⟩⟩⟩
  exact putAll_cons_eq_ok.mpr ⟨slots', hfirst', putAll_cons_eq_ok.mpr ⟨slots₃, hsecond', h⟩⟩

/-- **Members can be given in any order.** -/
theorem putAll_perm (hperm : ms.Perm ms') (h : putAll n fs slots ms = .ok slots₂) :
    putAll n fs slots ms' = .ok slots₂ := by
  induction hperm generalizing slots with
  | nil => exact h
  | cons m _ ih =>
    obtain ⟨slots₁, hm, h⟩ := putAll_cons_eq_ok.mp h
    exact putAll_cons_eq_ok.mpr ⟨slots₁, hm, ih h⟩
  | swap m m' ms => exact putAll_swap h
  | trans _ _ ih ih' => exact ih' (ih h)

/-- **Members that no field has the name of** are read over. -/
theorem putAll_extra (h : ∀ m ∈ extra, (∃ key, m.1.text? = .ok key ∧ key ∉ fs.map Field.name) ∧
    m.2.skip = .ok ()) : putAll n fs slots extra = .ok slots := by
  induction extra with
  | nil => rfl
  | cons m extra ih =>
    rw [List.forall_mem_cons] at h
    obtain ⟨⟨⟨key, ht, hkey⟩, hskip⟩, h⟩ := h
    exact putAll_cons_eq_ok.mpr
      ⟨slots, putAll_single_eq_ok.mpr ⟨key, ht, .inr ⟨hkey, hskip, rfl⟩⟩, ih h⟩

/-! ### Values that differ -/

theorem map_fst_of_respects (h : List.Forall₂ Field.Respects rs fs) :
    rs.map Prod.fst = fs.map Field.name := by
  induction h with
  | nil => rfl
  | cons hf _ ih => rw [List.map_cons, List.map_cons, hf.1, ih]

theorem mem_names_of_respects (h : List.Forall₂ Field.Respects rs fs) (hmem : (key, R) ∈ rs) :
    key ∈ fs.map Field.name :=
  map_fst_of_respects h ▸ List.mem_map_of_mem hmem

/-- A value that differs as its field allows is put into the slot as the same. -/
theorem put_respects (h : List.Forall₂ Field.Respects rs fs) (hnames : (fs.map Field.name).Nodup)
    (hmem : (key, R) ∈ rs) (ho : R o o') (hskip : o'.skip = .ok ())
    (hput : put n key o fs slots = .ok (some slots₁)) :
    put n key o' fs slots = .ok (some slots₁) := by
  induction h with
  | nil => cases hmem
  | @cons r f rs fs hf h ih =>
    rw [List.map_cons, List.nodup_cons] at hnames
    obtain ⟨slot, slots⟩ := slots
    rcases put_cons_eq_some.mp hput with ⟨hkey, hslot, v, hv, hfilled⟩ | ⟨hkey, rest, hrest, hfilled⟩
    · -- the name is that of the first field, so it is that of no other one
      rcases List.mem_cons.mp hmem with rfl | hmem
      · exact put_cons_eq_some.mpr (.inl ⟨hkey, hslot, v, hf.2 _ _ _ _ ho hskip hv, hfilled⟩)
      · exact absurd (hkey ▸ mem_names_of_respects h hmem) hnames.1
    · rcases List.mem_cons.mp hmem with rfl | hmem
      · exact absurd hf.1 hkey
      · exact put_cons_eq_some.mpr (.inr ⟨hkey, rest, ih hnames.2 hmem hrest, hfilled⟩)

theorem putAll_single_of_kept (h : List.Forall₂ Field.Respects rs fs)
    (hnames : (fs.map Field.name).Nodup) (hkept : Kept rs m m') (hskip : m'.2.skip = .ok ())
    (hput : putAll n fs slots [m] = .ok slots₁) : putAll n fs slots [m'] = .ok slots₁ := by
  cases hkept with
  | other => exact hput
  | field ht hmem ho =>
    obtain ⟨key, hkey, hput | ⟨hnone, -, -⟩⟩ := putAll_single_eq_ok.mp hput
    · cases ht.symm.trans hkey
      exact putAll_single_eq_ok.mpr ⟨_, ht, .inl (put_respects h hnames hmem ho hskip hput)⟩
    · cases ht.symm.trans hkey
      exact absurd (mem_names_of_respects h hmem) hnone

theorem putAll_kept (h : List.Forall₂ Field.Respects rs fs) (hnames : (fs.map Field.name).Nodup)
    (hkept : List.Forall₂ (Kept rs) ms ms') (hskip : ∀ m ∈ ms', m.2.skip = .ok ())
    (hput : putAll n fs slots ms = .ok slots₂) : putAll n fs slots ms' = .ok slots₂ := by
  induction hkept generalizing slots with
  | nil => exact hput
  | cons hm _ ih =>
    rw [List.forall_mem_cons] at hskip
    obtain ⟨slots₁, hfirst, hrest⟩ := putAll_cons_eq_ok.mp hput
    exact putAll_cons_eq_ok.mpr
      ⟨slots₁, putAll_single_of_kept h hnames hm hskip.1 hfirst, ih hskip.2 hrest⟩

theorem inOrder_respects {stop : ArrayEnd} (h : List.Forall₂ Field.Respects rs fs)
    {os os' : List Outline} (hos : InOrder rs os os') (hskip : ∀ o ∈ os', o.skip = .ok ())
    {vs : Values fs} (hread : inOrder n i expected stop fs os = .ok vs) :
    inOrder n i expected stop fs os' = .ok vs := by
  induction h generalizing i os os' with
  | nil =>
    cases hos
    exact hread
  | @cons r f rs fs hf _ ih =>
    cases hos with
    | nil => exact hread
    | @cons name R o o' _ os os' ho hos =>
      rw [List.forall_mem_cons] at hskip
      rw [inOrder] at hread ⊢
      cases hv : f.decode n o with
      | error e => rw [hv] at hread; cases hread
      | ok v =>
        rw [hv] at hread
        rw [hf.2 _ _ _ _ ho hskip.1 hv]
        cases hvs : inOrder n (i + 1) expected stop fs os with
        | error e => simp only [hvs] at hread; cases hread
        | ok vs =>
          simp only [hvs] at hread
          simp only [ih hos hskip.2 hvs]
          exact hread

end Field

namespace Decoder

variable {α : Type} {d : Decoder α}

theorem respects_eq : d.Respects Eq := by
  rintro n o _ a rfl _ h
  exact h

theorem mapM_respects {R : Outline → Outline → Prop} {n : ℕ} (h : d.Respects R)
    {os os' : List Outline} (hos : List.Forall₂ R os os') (hskip : ∀ o ∈ os', o.skip = .ok ())
    {as : List α} (hread : os.mapM (d n) = .ok as) : os'.mapM (d n) = .ok as := by
  rw [mapM_eq_ok] at hread ⊢
  induction hos generalizing as with
  | nil => exact hread
  | cons ho _ ih =>
    rw [List.forall_mem_cons] at hskip
    cases hread with
    | cons ha hread => exact .cons (h _ _ _ _ ho hskip.1 ha) (ih hskip.2 hread)

/-- **An array of values** is read as before if its items are. -/
theorem respects_list {R : Outline → Outline → Prop} (h : d.Respects R) :
    (list d).Respects (Each R) := by
  rintro n _ _ as ⟨stop, hos⟩ hskip hread
  obtain ⟨hitems, -⟩ := Outline.skip_array_eq_ok.mp hskip
  cases n with
  | zero => cases hread
  | succ n =>
    obtain ⟨as', has, hread⟩ := except_bind_eq_ok.mp hread
    exact except_bind_eq_ok.mpr ⟨as', mapM_respects h hos hitems has, hread⟩

/-- **A record** is read as before if its fields are, whatever the order of its members, and whatever
members are added to them. -/
theorem respects_record {names : Lexeme → Prop} {rs : List (String × (Outline → Outline → Prop))}
    {fs : List Field} {name : String} {build : Field.Values fs → α}
    (hnames : ∀ t, t.skip = .ok () → names t → ∃ key, t.text? = .ok key)
    (hnodup : (fs.map Field.name).Nodup) (h : List.Forall₂ Field.Respects rs fs) :
    (record name fs build).Respects (Rearranged names rs) := by
  intro n o o' a ho hskip hread
  cases ho with
  | array stop hos =>
    obtain ⟨hitems, -⟩ := Outline.skip_array_eq_ok.mp hskip
    cases n with
    | zero => cases hread
    | succ n =>
      obtain ⟨vs, hvs, rfl⟩ := except_map_eq_ok.mp hread
      exact except_map_eq_ok.mpr ⟨vs, Field.inOrder_respects h hos hitems hvs, rfl⟩
  | @object ms kept extra ms' stop hkept hextra hperm =>
    obtain ⟨hmembers, -⟩ := Outline.skip_object_eq_ok.mp hskip
    have hskips : ∀ m ∈ kept ++ extra, m.2.skip = .ok () := fun m hm =>
      (hmembers m (hperm.mem_iff.mpr hm)).2
    rw [List.forall_mem_append] at hskips
    have hunknown : ∀ m ∈ extra, (∃ key, m.1.text? = .ok key ∧ key ∉ fs.map Field.name) ∧
        m.2.skip = .ok () := by
      intro m hm
      obtain ⟨hname, hother⟩ := hextra m hm
      have hskip := (hmembers m (hperm.mem_iff.mpr (List.mem_append_right kept hm))).1
      obtain ⟨key, hkey⟩ := hnames m.1 hskip hname
      refine ⟨⟨key, hkey, fun hmem => ?_⟩, hskips.2 m hm⟩
      rw [← Field.map_fst_of_respects h] at hmem
      obtain ⟨r, hr, rfl⟩ := List.mem_map.mp hmem
      exact hother r hr hkey
    cases n with
    | zero => cases hread
    | succ n =>
      obtain ⟨slots, hslots, hread⟩ := except_bind_eq_ok.mp hread
      refine except_bind_eq_ok.mpr ⟨slots, ?_, hread⟩
      have hkeptSlots := Field.putAll_kept h hnodup hkept hskips.1 hslots
      have hboth := Field.putAll_append_eq_ok.mpr ⟨slots, hkeptSlots, Field.putAll_extra hunknown⟩
      exact Field.putAll_perm hperm.symm hboth

end Decoder

end OfflineManifest.Json
