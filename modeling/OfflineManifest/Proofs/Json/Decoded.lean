import OfflineManifest.Proofs.Json.Reading

/-! # What was decoded

A value that was read from any outline nests no deeper than there were levels left
(`depth_le_of_anyValue`), and it is null only if the outline is the word null, so that a value that
null stands in for the absence of is never null itself (`not_null_of_nullable`). The values
of a record are accounted for field by field: each was read by the decoder of its field, with one
level less than the record has, or is the default of its field (`exists_given_of_record`). -/

namespace OfflineManifest.Json

namespace Value

variable {n : ℕ}

theorem depthItems_le : ∀ {vs : List Value}, (∀ v ∈ vs, v.depth ≤ n) → depthItems vs ≤ n
  | [], _ => Nat.zero_le n
  | v :: vs, h => by
    rw [List.forall_mem_cons] at h
    rw [depthItems]
    exact max_le h.1 (depthItems_le h.2)

theorem depthMembers_le : ∀ {members : List (String × Value)}, (∀ m ∈ members, m.2.depth ≤ n) →
    depthMembers members ≤ n
  | [], _ => Nat.zero_le n
  | (name, v) :: members, h => by
    rw [List.forall_mem_cons] at h
    rw [depthMembers]
    exact max_le h.1 (depthMembers_le h.2)

end Value

namespace Decoder

variable {n : ℕ} {o : Outline} {p : Payload}

/-! ### Any values -/

theorem exists_of_mem_anyItems : ∀ {os : List Outline} {ps : List Payload},
    anyItems n os = .ok ps → p ∈ ps → ∃ o, anyValue n o = .ok p
  | [], _, h, hp => by cases h; cases hp
  | o :: os, _, h, hp => by
    rw [anyItems] at h
    cases ho : anyValue n o with
    | error e => rw [ho] at h; cases h
    | ok q =>
      rw [ho] at h
      obtain ⟨qs, hqs, rfl⟩ := except_map_eq_ok.mp h
      rcases List.mem_cons.mp hp with rfl | hp
      · exact ⟨o, ho⟩
      · exact exists_of_mem_anyItems hqs hp

theorem exists_of_mem_anyMembers {e : String × Payload} :
    ∀ {os : List (Lexeme × Outline)} {es : List (String × Payload)},
      anyMembers n os = .ok es → e ∈ es → ∃ o, anyValue n o = .ok e.2
  | [], _, h, he => by cases h; cases he
  | (name, o) :: os, _, h, he => by
    rw [anyMembers] at h
    cases hname : name.text? with
    | error f => rw [hname] at h; cases h
    | ok key =>
      rw [hname] at h
      cases ho : anyValue n o with
      | error f => simp only [ho] at h; cases h
      | ok q =>
        simp only [ho] at h
        obtain ⟨ds, hds, rfl⟩ := except_map_eq_ok.mp h
        rcases List.mem_cons.mp he with rfl | he
        · exact ⟨o, ho⟩
        · exact exists_of_mem_anyMembers hds he

/-- **What any value was read from.** -/
theorem anyValue_cases (h : anyValue n o = .ok p) :
    o = .null ∧ p = .null ∨ p.value.depth = 0 ∧ p.value ≠ .null ∨
      (∃ k os ps, n = k + 1 ∧ anyItems k os = .ok ps ∧ p = .array ps) ∨
        ∃ k os es, n = k + 1 ∧ anyMembers k os = .ok es ∧ p = .object (KeyMap.ofList es) := by
  cases o with
  | null =>
    rw [anyValue] at h
    cases h
    exact Or.inl ⟨rfl, rfl⟩
  | bool b =>
    rw [anyValue] at h
    cases h
    exact Or.inr (Or.inl ⟨rfl, fun h => by cases h⟩)
  | number k =>
    rw [anyValue] at h
    obtain ⟨x, -, rfl⟩ := except_map_eq_ok.mp h
    exact Or.inr (Or.inl ⟨rfl, fun h => by cases h⟩)
  | string s =>
    rw [anyValue] at h
    obtain ⟨t, -, rfl⟩ := except_map_eq_ok.mp h
    exact Or.inr (Or.inl ⟨rfl, fun h => by cases h⟩)
  | array os stop =>
    cases n with
    | zero => rw [anyValue] at h; cases h
    | succ k =>
      rw [anyValue] at h
      split at h
      · cases h
      · cases h
      · next ps hps _ =>
        cases h
        exact Or.inr (Or.inr (Or.inl ⟨k, os, ps, rfl, hps, rfl⟩))
  | object os stop =>
    cases n with
    | zero => rw [anyValue] at h; cases h
    | succ k =>
      rw [anyValue] at h
      split at h
      · cases h
      · cases h
      · next es hes _ =>
        cases h
        exact Or.inr (Or.inr (Or.inr ⟨k, os, es, rfl, hes, rfl⟩))
  | broken b => simp [anyValue] at h
  | missing => simp [anyValue] at h
  | noColon textEnd => simp [anyValue] at h

/-- **Any value nests no deeper** than there were levels left. -/
theorem depth_le_of_anyValue (h : anyValue n o = .ok p) : p.value.depth ≤ n := by
  induction n generalizing o p with
  | zero =>
    rcases anyValue_cases h with ⟨-, rfl⟩ | ⟨hp, -⟩ | ⟨k, -, -, hk, -⟩ | ⟨k, -, -, hk, -⟩
    · exact Nat.zero_le 0
    · omega
    · exact absurd hk k.succ_ne_zero.symm
    · exact absurd hk k.succ_ne_zero.symm
  | succ n ih =>
    rcases anyValue_cases h with ⟨-, rfl⟩ | ⟨hp, -⟩ | ⟨k, os, ps, hk, hps, rfl⟩ |
      ⟨k, os, es, hk, hes, rfl⟩
    · exact Nat.zero_le _
    · omega
    · obtain rfl := Nat.succ.inj hk
      refine Nat.succ_le_succ (Value.depthItems_le (List.forall_mem_map.mpr fun p hp => ?_))
      obtain ⟨o, ho⟩ := exists_of_mem_anyItems hps hp
      exact ih ho
    · obtain rfl := Nat.succ.inj hk
      refine Nat.succ_le_succ (Value.depthMembers_le (List.forall_mem_map.mpr fun e he => ?_))
      obtain ⟨o, ho⟩ := exists_of_mem_anyMembers hes (KeyMap.mem_of_mem_ofList he)
      exact ih ho

/-- Null stands for the absence of a value, so that one that is there is not null. -/
theorem not_null_of_nullable {value : Option Payload}
    (h : nullable anyValue n o = .ok value) (hp : p ∈ value) :
    p.value ≠ .null ∧ p.value.depth ≤ n := by
  unfold nullable at h
  split at h
  · cases h; cases hp
  · cases h
  · next hnull _ =>
    obtain ⟨q, hq, rfl⟩ := except_map_eq_ok.mp h
    cases hp
    refine ⟨fun hvalue => ?_, depth_le_of_anyValue hq⟩
    rcases anyValue_cases hq with ⟨ho, -⟩ | ⟨-, hne⟩ | ⟨-, -, ps, -, -, rfl⟩ | ⟨-, -, es, -, -, rfl⟩
    · exact hnull ho
    · exact hne hvalue
    · cases hvalue
    · cases hvalue

end Decoder

/-! ### Records -/

namespace Field

/-- **The values of fields are given**: each was read by the decoder of its field, or is its
default. -/
def Given (n : ℕ) : (fs : List Field) → Values fs → Prop
  | [], _ => True
  | f :: fs, (v, vs) => ((∃ o, f.decode n o = .ok v) ∨ f.default? = some v) ∧ Given n fs vs

/-- What is in slots was read by the decoders of their fields. -/
def Filled (n : ℕ) : (fs : List Field) → Slots fs → Prop
  | [], _ => True
  | f :: fs, (slot, slots) => (∀ v ∈ slot, ∃ o, f.decode n o = .ok v) ∧ Filled n fs slots

variable {n : ℕ}

theorem filled_noSlots : ∀ fs : List Field, Filled n fs (noSlots fs)
  | [] => trivial
  | _ :: fs => ⟨fun _ hv => absurd hv (by simp), filled_noSlots fs⟩

theorem filled_of_put {key : String} {o : Outline} : ∀ {fs : List Field} {slots slots' : Slots fs},
    Filled n fs slots → put n key o fs slots = .ok (some slots') → Filled n fs slots'
  | [], _, _, _, h => by cases h
  | f :: fs, (slot, slots), slots', hfilled, h => by
    by_cases hkey : key = f.name
    · cases slot with
      | some v => rw [put, if_pos hkey] at h; cases h
      | none =>
        rw [put, if_pos hkey] at h
        cases hv : f.decode n o with
        | error e => rw [hv] at h; cases h
        | ok v =>
          rw [hv] at h
          cases h
          refine ⟨fun w hw => ?_, hfilled.2⟩
          cases hw
          exact ⟨o, hv⟩
    · rw [put_of_ne hkey] at h
      obtain ⟨rest?, hput, h⟩ := except_map_eq_ok.mp h
      obtain ⟨rest, rfl, rfl⟩ := Option.map_eq_some_iff.mp h
      exact ⟨hfilled.1, filled_of_put hfilled.2 hput⟩

theorem filled_of_putAll {fs : List Field} : ∀ {os : List (Lexeme × Outline)}
    {slots slots' : Slots fs}, Filled n fs slots → putAll n fs slots os = .ok slots' →
    Filled n fs slots'
  | [], _, _, hfilled, h => by cases h; exact hfilled
  | (name, o) :: os, slots, _, hfilled, h => by
    unfold putAll at h
    cases hname : name.text? with
    | error e => rw [hname] at h; cases h
    | ok key =>
      rw [hname] at h
      rcases hput : put n key o fs slots with e | _ | rest
      · simp only [hput] at h; cases h
      · simp only [hput] at h
        cases hskip : o.skip with
        | error e => rw [hskip] at h; cases h
        | ok u =>
          rw [hskip] at h
          exact filled_of_putAll hfilled h
      · simp only [hput] at h
        exact filled_of_putAll (filled_of_put hfilled hput) h

theorem given_of_complete : ∀ {fs : List Field} {slots : Slots fs} {vs : Values fs},
    Filled n fs slots → complete fs slots = .ok vs → Given n fs vs
  | [], _, _, _, _ => trivial
  | f :: fs, (slot, slots), _, hfilled, h => by
    rw [complete] at h
    cases hv : slot.or f.default? with
    | none => simp only [hv] at h; cases h
    | some v =>
      simp only [hv] at h
      cases hvs : complete fs slots with
      | error e => rw [hvs] at h; cases h
      | ok vs =>
        rw [hvs] at h
        cases h
        refine ⟨?_, given_of_complete hfilled.2 hvs⟩
        cases slot with
        | none => exact Or.inr hv
        | some w => exact Or.inl (hfilled.1 v hv)

theorem given_of_inOrder {expected : String} {stop : ArrayEnd} : ∀ {fs : List Field}
    {os : List Outline} {i : ℕ} {vs : Values fs}, inOrder n i expected stop fs os = .ok vs →
    Given n fs vs
  | [], _, _, _, _ => trivial
  | f :: fs, o :: os, i, _, h => by
    unfold inOrder at h
    cases hv : f.decode n o with
    | error e => simp only [hv] at h; cases h
    | ok v =>
      simp only [hv] at h
      cases hvs : inOrder n (i + 1) expected stop fs os with
      | error e => rw [hvs] at h; cases h
      | ok vs =>
        rw [hvs] at h
        cases h
        exact ⟨Or.inl ⟨o, hv⟩, given_of_inOrder hvs⟩
  | f :: fs, [], i, _, h => by
    unfold inOrder at h
    cases hstop : stop.check with
    | error e => rw [hstop] at h; cases h
    | ok u =>
      rw [hstop] at h
      cases hv : f.default? with
      | none => simp only [hv] at h; cases h
      | some v =>
        simp only [hv] at h
        cases hvs : inOrder n (i + 1) expected stop fs [] with
        | error e => rw [hvs] at h; cases h
        | ok vs =>
          rw [hvs] at h
          cases h
          exact ⟨Or.inr hv, given_of_inOrder hvs⟩

end Field

namespace Decoder

variable {α : Type} {n : ℕ} {name : String} {fs : List Field} {build : Field.Values fs → α}
  {o : Outline} {a : α}

/-- **A record was read** from the values of its fields. -/
theorem exists_given_of_record (h : record name fs build (n + 1) o = .ok a) :
    ∃ vs, Field.Given n fs vs ∧ build vs = a := by
  cases o with
  | array os stop =>
    obtain ⟨vs, hvs, rfl⟩ := except_map_eq_ok.mp h
    exact ⟨vs, Field.given_of_inOrder hvs, rfl⟩
  | object members stop =>
    obtain ⟨slots, hslots, h⟩ := except_bind_eq_ok.mp h
    obtain ⟨-, -, h⟩ := except_bind_eq_ok.mp h
    obtain ⟨vs, hvs, h⟩ := except_bind_eq_ok.mp h
    cases h
    have hfilled := Field.filled_of_putAll (Field.filled_noSlots fs) hslots
    exact ⟨vs, Field.given_of_complete hfilled hvs, rfl⟩
  | _ => cases h

end Decoder

end OfflineManifest.Json
