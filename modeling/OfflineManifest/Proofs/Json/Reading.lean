import OfflineManifest.Json.Record
import OfflineManifest.Proofs.Except
import OfflineManifest.Proofs.KeyMap
import OfflineManifest.Proofs.Json.Written

/-! # What decoders read

A decoder reads a value as an element if it takes every outline of that value to the element
(`Decoder.Reads`). There is one lemma for each way to put a decoder together; a record is read if
its members are those of its fields in order, where fields with a default may be left out
(`Field.Fills`). With `Decoder.run_pretty` and `Decoder.run_compact` an element is read back from
the text that was written for it. -/

namespace OfflineManifest.Json

namespace Value

mutual

/-- **How deep the containers of a value nest.** -/
def depth : Value → ℕ
  | array items => depthItems items + 1
  | object members => depthMembers members + 1
  | _ => 0

/-- The greatest depth of items. -/
def depthItems : List Value → ℕ
  | [] => 0
  | v :: rest => max (depth v) (depthItems rest)

/-- The greatest depth of the values of members. -/
def depthMembers : List (String × Value) → ℕ
  | [] => 0
  | (_, v) :: rest => max (depth v) (depthMembers rest)

end

theorem depth_le_depthMembers : ∀ {members : List (String × Value)} {m : String × Value},
    m ∈ members → m.2.depth ≤ depthMembers members
  | n :: members, m, hm => by
    rw [depthMembers, le_max_iff]
    rcases List.mem_cons.mp hm with rfl | hm
    · exact Or.inl le_rfl
    · exact Or.inr (depth_le_depthMembers hm)

theorem depth_lt_of_mem {members : List (String × Value)} {m : String × Value}
    (h : m ∈ members) : m.2.depth < (object members).depth :=
  Nat.lt_succ_of_le (depth_le_depthMembers h)

end Value

namespace Decoder

variable {α : Type} {d : Decoder α} {n : ℕ} {v : Value} {a : α} {s : String}

/-- **A decoder reads a value as an element**, with a number of levels left. -/
def Reads (d : Decoder α) (n : ℕ) (v : Value) (a : α) : Prop :=
  ∀ o : Outline, o.Denotes v → d n o = .ok a

/-! ### Texts, numbers, truth values -/

theorem reads_text : text.Reads n (.string s) s
  | _, .string h => h.text

theorem reads_bool (b : Bool) : bool.Reads n (.bool b) b
  | _, .bool _ => rfl

theorem reads_natural {k : UInt64} {bound : ℕ} (name : String) (h : k.toNat < bound) :
    (natural bound name).Reads n (.ofUInt64 k) k.toNat
  | _, .number hk => by rw [natural, hk]; exact if_pos h

theorem reads_uint64 (k : UInt64) : uint64.Reads n (.ofUInt64 k) k := fun o ho => by
  rw [uint64, reads_natural "u64" k.toNat_lt_size o ho, Except.map, UInt64.ofNat_toNat]

theorem reads_uint32 (k : UInt32) : uint32.Reads n (.ofUInt32 k) k := fun o ho => by
  have hk : k.toUInt64.toNat < UInt32.size := k.toNat_lt_size
  rw [uint32, reads_natural "u32" hk o ho, Except.map, UInt32.toNat_toUInt64, UInt32.ofNat_toNat]

theorem reads_uint16 (k : UInt16) : uint16.Reads n (.ofUInt64 k.toUInt64) k := fun o ho => by
  have hk : k.toUInt64.toNat < UInt16.size := k.toNat_lt_size
  rw [uint16, reads_natural "u16" hk o ho, Except.map, UInt16.toNat_toUInt64, UInt16.ofNat_toNat]

theorem reads_oneOf {variants : List (String × α)} (h : variants.lookup s = some a) :
    (oneOf variants).Reads n (.string s) a
  | _, .string hs => by simp [oneOf, hs.text, h, Bind.bind, Except.bind, Pure.pure, Except.pure]

/-- Null is the absence of a value, and every other value is there. -/
theorem nullable_of_denotes {o : Outline} (ho : o.Denotes v) (hv : v ≠ .null) :
    d.nullable n o = (d n o).map some := by
  cases ho with
  | null => exact absurd rfl hv
  | _ => rfl

theorem Reads.nullable (h : d.Reads n v a) (hv : v ≠ .null) :
    d.nullable.Reads n v (some a) := fun o ho => by
  rw [nullable_of_denotes ho hv, h o ho]
  rfl

/-! ### Containers -/

theorem mapM_items {f : α → Value} {os : List Outline} {as : List α}
    (hos : Outline.ItemsDenote os (as.map f)) (h : ∀ a ∈ as, d.Reads n (f a) a) :
    os.mapM (d n) = .ok as := by
  refine mapM_eq_ok.mpr ?_
  induction as generalizing os with
  | nil => cases hos; exact .nil
  | cons a as ih =>
    cases hos with
    | cons ho hos =>
      exact .cons (h a List.mem_cons_self _ ho)
        (ih hos fun a ha => h a (List.mem_cons_of_mem _ ha))

theorem reads_list {f : α → Value} {as : List α} (h : ∀ a ∈ as, d.Reads n (f a) a) :
    d.list.Reads (n + 1) (.array (as.map f)) as
  | _, .array hos => by rw [list, items, mapM_items hos h]; rfl

theorem reads_texts (texts : List String) : (list text).Reads (n + 1) (.ofStrings texts) texts :=
  reads_list fun _ _ => reads_text

theorem reads_textOrList (expected : String) (texts : List String) :
    (textOrList expected).Reads (n + 1) (.ofStrings texts) texts
  | _, .array hos => by rw [textOrList, items, mapM_items hos fun _ _ => reads_text]; rfl

theorem mapM_members {f : α → Value} {os : List (Lexeme × Outline)} {es : List (String × α)}
    (hos : Outline.MembersDenote os (es.map fun e => (e.1, f e.2)))
    (h : ∀ e ∈ es, d.Reads n (f e.2) e.2) :
    (os.mapM fun (name, o) => do
      let key ← name.text?
      let value ← d n o
      return (key, value)) = .ok es := by
  refine mapM_eq_ok.mpr ?_
  induction es generalizing os with
  | nil => cases hos; exact .nil
  | cons e es ih =>
    cases hos with
    | cons hname ho hos =>
      refine .cons ?_ (ih hos fun e he => h e (List.mem_cons_of_mem _ he))
      simp only [hname.text, h e List.mem_cons_self _ ho, Bind.bind, Except.bind, Pure.pure,
        Except.pure]

theorem reads_map {f : α → Value} (m : KeyMap α) (h : ∀ a, d.Reads n (f a) a) :
    (map d).Reads (n + 1) (.object (m.entries.map fun e => (e.1, f e.2))) m
  | _, .object hos => by
    rw [Decoder.map, mapM_members hos fun e _ => h e.2]
    exact congrArg Except.ok (KeyMap.ofList_entries m)

/-! ### Any values -/

mutual

theorem exists_anyValue : ∀ (v : Value) (n : ℕ) (o : Outline), o.Denotes v → v.Canonical →
    v.depth ≤ n → ∃ p : Payload, anyValue n o = .ok p ∧ p.value = v
  | _, _, _, .null, _, _ => ⟨.null, by rw [anyValue], rfl⟩
  | _, _, _, .bool b, _, _ => ⟨.bool b, by rw [anyValue], rfl⟩
  | .number k, _, _, .number hk, _, _ => ⟨.number k, by rw [anyValue, hk]; rfl, rfl⟩
  | .string s, _, _, .string hs, _, _ => ⟨.string s, by rw [anyValue, hs.text]; rfl, rfl⟩
  | .array vs, 0, _, .array hos, _, hn => by rw [Value.depth] at hn; omega
  | .array vs, n + 1, _, .array hos, .array hc, hn => by
    obtain ⟨ps, hps, rfl⟩ := exists_anyItems vs n _ hos hc (Nat.le_of_succ_le_succ hn)
    exact ⟨.array ps, by rw [anyValue, hps]; rfl, rfl⟩
  | .object members, 0, _, .object hos, _, hn => by rw [Value.depth] at hn; omega
  | .object members, n + 1, _, .object hos, .object hsorted hc, hn => by
    obtain ⟨es, hes, rfl⟩ := exists_anyMembers members n _ hos hc (Nat.le_of_succ_le_succ hn)
    rw [List.map_map] at hsorted
    refine ⟨.object (KeyMap.ofList es), by rw [anyValue, hes]; rfl, ?_⟩
    exact congrArg (fun es => Value.object (es.map fun m => (m.1, m.2.value)))
      (KeyMap.entries_ofList hsorted)

theorem exists_anyItems : ∀ (vs : List Value) (n : ℕ) (os : List Outline),
    Outline.ItemsDenote os vs → (∀ v ∈ vs, v.Canonical) → Value.depthItems vs ≤ n →
    ∃ ps : List Payload, anyItems n os = .ok ps ∧ ps.map Payload.value = vs
  | _, _, _, .nil, _, _ => ⟨[], rfl, rfl⟩
  | v :: vs, n, _, .cons ho hos, hc, hn => by
    rw [Value.depthItems, max_le_iff] at hn
    rw [List.forall_mem_cons] at hc
    obtain ⟨p, hp, rfl⟩ := exists_anyValue v n _ ho hc.1 hn.1
    obtain ⟨ps, hps, rfl⟩ := exists_anyItems vs n _ hos hc.2 hn.2
    exact ⟨p :: ps, by rw [anyItems, hp, hps]; rfl, rfl⟩

theorem exists_anyMembers : ∀ (members : List (String × Value)) (n : ℕ)
    (os : List (Lexeme × Outline)), Outline.MembersDenote os members →
    (∀ m ∈ members, m.2.Canonical) → Value.depthMembers members ≤ n →
    ∃ es : List (String × Payload), anyMembers n os = .ok es ∧
      es.map (fun e => (e.1, e.2.value)) = members
  | _, _, _, .nil, _, _ => ⟨[], rfl, rfl⟩
  | (name, v) :: members, n, _, .cons hname ho hos, hc, hn => by
    rw [Value.depthMembers, max_le_iff] at hn
    rw [List.forall_mem_cons] at hc
    obtain ⟨p, hp, rfl⟩ := exists_anyValue v n _ ho hc.1 hn.1
    obtain ⟨es, hes, rfl⟩ := exists_anyMembers members n _ hos hc.2 hn.2
    exact ⟨(name, p) :: es, by rw [anyMembers, hname.text]; simp only [hp, hes]; rfl, rfl⟩

end

/-- **Any value** is read as it is, if it does not nest too deep. -/
theorem reads_anyValue {p : Payload} (h : p.value.depth ≤ n) : Reads anyValue n p.value p := by
  intro o ho
  obtain ⟨p', hp', hvalue⟩ := exists_anyValue p.value n o ho p.canonical h
  rwa [Payload.eq_of_value hvalue] at hp'

end Decoder

/-! ### Records -/

namespace Field

/-- **Members fill fields with values**: each field has the member with its name, or there is none
and the field has its default; the members come in the order of the fields. -/
inductive Fills (n : ℕ) : (fs : List Field) → List (String × Value) → Values fs → Prop
  | nil : Fills n [] [] ()
  | given {f : Field} {v : Value} {a : f.type} {fs : List Field} {ms : List (String × Value)}
    {as : Values fs} (h : f.decode.Reads n v a) (hrest : Fills n fs ms as) :
    Fills n (f :: fs) ((f.name, v) :: ms) (a, as)
  | omitted {f : Field} {a : f.type} {fs : List Field} {ms : List (String × Value)}
    {as : Values fs} (h : f.default? = some a) (hrest : Fills n fs ms as) :
    Fills n (f :: fs) ms (a, as)

variable {n : ℕ} {f : Field} {fs : List Field} {ms : List (String × Value)} {as : Values fs}

theorem Fills.optional {α : Type} {d : Decoder α} {w : α → Value} {name : String} {value : Option α}
    (h : ∀ a ∈ value, d.Reads n (w a) a ∧ w a ≠ .null) (hrest : Fills n fs ms as) :
    Fills n (.optional name d :: fs) (Value.member? name (value.map w) ++ ms) (value, as) := by
  cases value with
  | none => exact .omitted rfl hrest
  | some a => exact .given ((h a rfl).1.nullable (h a rfl).2) hrest

theorem Fills.mem_names (h : Fills n fs ms as) : ∀ m ∈ ms, m.1 ∈ fs.map Field.name := by
  induction h with
  | nil => exact fun _ h => by cases h
  | given _ _ ih =>
    rw [List.forall_mem_cons]
    exact ⟨List.mem_cons_self, fun m hm => List.mem_cons_of_mem _ (ih m hm)⟩
  | omitted _ _ ih => exact fun m hm => List.mem_cons_of_mem _ (ih m hm)

/-- A member with another name leaves the slot of a field as it is. -/
theorem put_of_ne {key : String} (h : key ≠ f.name) (o : Outline) (slot : Option f.type)
    (slots : Slots fs) : put n key o (f :: fs) (slot, slots) =
      (put n key o fs slots).map (Option.map fun slots => (slot, slots)) := by
  refine (if_neg h).trans ?_
  rcases put n key o fs slots with e | _ | slots <;> rfl

theorem putAll_cons {os : List (Lexeme × Outline)} (hos : Outline.MembersDenote os ms)
    (h : ∀ m ∈ ms, m.1 ≠ f.name) (slot : Option f.type) (slots : Slots fs) :
    putAll n (f :: fs) (slot, slots) os =
      (putAll n fs slots os).map fun slots => (slot, slots) := by
  induction ms generalizing os slots with
  | nil => cases hos; rfl
  | cons m ms ih =>
    rw [List.forall_mem_cons] at h
    cases hos with
    | @cons t name o _ _ _ hname ho hos =>
      simp only [putAll, hname.text, put_of_ne h.1]
      rcases put n name o fs slots with e | _ | slots
      · rfl
      · simp only [Except.map, Option.map_none, Outline.skip_of_denotes ho]
        exact ih hos h.2 slots
      · exact ih hos h.2 slots

theorem Fills.exists_putAll (h : Fills n fs ms as) (hnames : (fs.map Field.name).Nodup)
    {os : List (Lexeme × Outline)} (hos : Outline.MembersDenote os ms) :
    ∃ slots, putAll n fs (noSlots fs) os = .ok slots ∧ complete fs slots = .ok as := by
  induction h generalizing os with
  | nil => cases hos; exact ⟨(), rfl, rfl⟩
  | @given f v a fs ms as h hrest ih =>
    rw [List.map_cons, List.nodup_cons] at hnames
    have hothers : ∀ m ∈ ms, m.1 ≠ f.name := fun m hm heq =>
      hnames.1 (heq ▸ hrest.mem_names m hm)
    cases hos with
    | @cons t _ o _ _ _ hname ho hos =>
      obtain ⟨slots, hslots, hcomplete⟩ := ih hnames.2 hos
      refine ⟨(some a, slots), ?_, by rw [complete, hcomplete]; rfl⟩
      have hput : put n f.name o (f :: fs) (noSlots (f :: fs)) =
          .ok (some (some a, noSlots fs)) := by
        rw [noSlots, put, if_pos rfl, h o ho]
      rw [Field.putAll, hname.text]
      simp only [hput]
      rw [putAll_cons hos hothers, hslots]
      rfl
  | @omitted f a fs ms as h hrest ih =>
    rw [List.map_cons, List.nodup_cons] at hnames
    have hothers : ∀ m ∈ ms, m.1 ≠ f.name := fun m hm heq =>
      hnames.1 (heq ▸ hrest.mem_names m hm)
    obtain ⟨slots, hslots, hcomplete⟩ := ih hnames.2 hos
    refine ⟨(none, slots), ?_, ?_⟩
    · rw [noSlots, putAll_cons hos hothers, hslots]
      rfl
    · rw [complete, Option.none_or, h, hcomplete]

end Field

namespace Decoder

variable {α : Type} {n : ℕ} {fs : List Field} {ms : List (String × Value)} {as : Field.Values fs}
  {name : String} {build : Field.Values fs → α}

/-- **A record** is read from members that fill its fields. -/
theorem reads_record (hnames : (fs.map Field.name).Nodup) (h : Field.Fills n fs ms as) :
    (record name fs build).Reads (n + 1) (.object ms) (build as)
  | _, .object hos => by
    obtain ⟨slots, hslots, hcomplete⟩ := h.exists_putAll hnames hos
    rw [record, hslots]
    simp only [ObjectEnd.check, Bind.bind, Except.bind, hcomplete, Pure.pure, Except.pure]

/-! ### Whole texts -/

/-- **What is read from a whole text** is read from its outline, behind which nothing stands. -/
theorem run_eq_ok {d : Decoder α} {text : String} {a : α} :
    d.run text = .ok a ↔ ∃ o, Outline.ofText text = (o, false) ∧ d nestLimit o = .ok a := by
  unfold run
  generalize Outline.ofText text = whole
  obtain ⟨o, more⟩ := whole
  rw [except_bind_eq_ok]
  cases more with
  | true =>
    constructor
    · rintro ⟨_, _, ⟨⟩⟩
    · rintro ⟨_, ⟨⟩, _⟩
  | false =>
    constructor
    · rintro ⟨_, h, ⟨⟩⟩
      exact ⟨o, rfl, h⟩
    · rintro ⟨_, ⟨⟩, h⟩
      exact ⟨a, h, rfl⟩

/-- **What a decoder reads from a text that writes a value.** -/
theorem run_of_writes {d : Decoder α} {text : List Char} {v : Value} {a : α}
    (h : d.Reads nestLimit v a) (hv : Writes text v) : d.run (String.ofList text) = .ok a := by
  obtain ⟨o, ho, htext⟩ := ofText_of_writes hv
  exact run_eq_ok.mpr ⟨o, htext, h o ho⟩

theorem run_pretty {d : Decoder α} {v : Value} {a : α} (h : d.Reads nestLimit v a)
    (hv : v.Exact) : d.run v.pretty = .ok a :=
  run_of_writes h (writes_prettyChars v 0 hv)

theorem run_compact {d : Decoder α} {v : Value} {a : α} (h : d.Reads nestLimit v a)
    (hv : v.Exact) : d.run v.compact = .ok a :=
  run_of_writes h (writes_compactChars v hv)

end Decoder

end OfflineManifest.Json
