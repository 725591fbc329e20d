import OfflineManifest.Proofs.Json.Accepted
import OfflineManifest.Proofs.Json.Rearranged

/-! # What is read could be read over

A decoder that asks for a value looks at all of it: a value with a fault that reading over would find
is not read either (`Decoder.Thorough`). This holds of texts, numbers and any values, and of lists and
records if it holds of what is in them. So a text from which a value is read is a document
(`Decoder.Thorough.isDocument`). -/

namespace OfflineManifest.Json

open Outline (IsDocument)

/-- **A decoder is thorough**: what it reads can be read over. -/
def Decoder.Thorough {α : Type} (d : Decoder α) : Prop :=
  ∀ n o a, d n o = .ok a → o.skip = .ok ()

variable {α : Type} {n i : ℕ} {o : Outline} {os : List Outline} {ms : List (Lexeme × Outline)}

/-! ### Strings and the ends of containers -/

theorem Lexeme.stop_of_decode {stop : StringEnd} {acc cs : List Char} {pieces : List Piece}
    (h : decode stop acc pieces = .ok cs) : stop = .closed := by
  fun_induction decode stop acc pieces with
  | case1 acc hclosed => cases stop <;> first | rfl | cases hclosed
  | case3 acc c rest ih => exact ih h
  | case5 acc n _ _ m rest _ ih => exact ih h
  | case11 acc n rest _ _ ih => exact ih h
  | _ => cases h

theorem Lexeme.skip_of_text? {t : Lexeme} {s : String} (h : t.text? = .ok s) : t.skip = .ok () := by
  obtain ⟨cs, hcs, -⟩ := except_map_eq_ok.mp h
  exact skip_eq_ok.mpr (stop_of_decode hcs)

theorem ArrayEnd.skip_of_check {stop : ArrayEnd} (h : stop.check = .ok ()) : stop.skip = .ok () := by
  cases stop <;> first | rfl | cases h

theorem ArrayEnd.skip_of_checkNoMore {stop : ArrayEnd} (h : stop.checkNoMore = .ok ()) :
    stop.skip = .ok () := by
  cases stop <;> first | rfl | cases h

theorem ObjectEnd.skip_of_check {stop : ObjectEnd} (h : stop.check = .ok ()) :
    stop.skip = .ok () := by
  cases stop <;> first | rfl | cases h

namespace Decoder

variable {d : Decoder α}

/-! ### Texts, numbers, names -/

theorem thorough_text : text.Thorough := by
  intro n o a h
  cases o with
  | string s => exact Lexeme.skip_of_text? h
  | _ => cases h

theorem thorough_natural (bound : ℕ) (name : String) : (natural bound name).Thorough := by
  intro n o a h
  cases o with
  | number k => rfl
  | _ => cases h

theorem thorough_uint32 : uint32.Thorough := by
  intro n o a h
  obtain ⟨k, hk, -⟩ := except_map_eq_ok.mp h
  exact thorough_natural _ _ n o k hk

theorem thorough_uint64 : uint64.Thorough := by
  intro n o a h
  obtain ⟨k, hk, -⟩ := except_map_eq_ok.mp h
  exact thorough_natural _ _ n o k hk

theorem thorough_nullable (h : d.Thorough) : d.nullable.Thorough := by
  intro n o a hread
  unfold nullable at hread
  split at hread
  · rfl
  · cases hread
  · obtain ⟨b, hb, -⟩ := except_map_eq_ok.mp hread
    exact h _ _ b hb

theorem thorough_oneOf (variants : List (String × α)) : (oneOf variants).Thorough := by
  intro n o a h
  unfold oneOf at h
  split at h
  · obtain ⟨t, ht, -⟩ := except_bind_eq_ok.mp h
    exact Lexeme.skip_of_text? ht
  · next members stop =>
    split at h
    · cases h
    · split at h
      · split at h <;> cases h
      · next name value more =>
        obtain ⟨b, hb, h⟩ := except_bind_eq_ok.mp h
        obtain ⟨t, ht, -⟩ := except_bind_eq_ok.mp hb
        dsimp only at h
        split at h
        · split at h
          · exact Outline.skip_object_eq_ok.mpr
              ⟨List.forall_mem_singleton.mpr ⟨Lexeme.skip_of_text? ht, rfl⟩, rfl⟩
          · exact Outline.skip_object_eq_ok.mpr
              ⟨List.forall_mem_singleton.mpr ⟨Lexeme.skip_of_text? ht, rfl⟩, rfl⟩
          · cases h
          · cases h
        · cases h
  · cases h
  · cases h
  · cases h

/-! ### Lists -/

theorem skip_of_items {stop : ArrayEnd} {as : List α} (h : d.Thorough)
    (hread : items d n os stop = .ok as) : (Outline.array os stop).skip = .ok () := by
  obtain ⟨values, hvalues, hread⟩ := except_bind_eq_ok.mp hread
  obtain ⟨_, hstop, -⟩ := except_bind_eq_ok.mp hread
  have hskips : List.Forall₂ (fun o a => o.skip = .ok () ∧ d n o = .ok a) os values :=
    (mapM_eq_ok.mp hvalues).imp fun o a ha => ⟨h n o a ha, ha⟩
  exact Outline.skip_array_eq_ok.mpr
    ⟨((List.forall₂_and_left _ _).mp hskips).1, ArrayEnd.skip_of_check hstop⟩

theorem thorough_list (h : d.Thorough) : (list d).Thorough := by
  intro n o as hread
  unfold list at hread
  split at hread
  · cases hread
  · exact skip_of_items h hread
  · cases hread

theorem thorough_textOrList (expected : String) : (textOrList expected).Thorough := by
  intro n o as hread
  unfold textOrList at hread
  split at hread
  · obtain ⟨t, ht, -⟩ := except_map_eq_ok.mp hread
    exact Lexeme.skip_of_text? ht
  · cases hread
  · exact skip_of_items thorough_text hread
  · cases hread

/-! ### Any values -/

theorem skip_of_anyItems (h : ∀ o p, anyValue n o = .ok p → o.skip = .ok ()) :
    ∀ {os : List Outline} {ps : List Payload}, anyItems n os = .ok ps → ∀ o ∈ os, o.skip = .ok ()
  | [], _, _ => List.forall_mem_nil _
  | o :: os, _, hread => by
    rw [anyItems] at hread
    cases ho : anyValue n o with
    | error e => rw [ho] at hread; cases hread
    | ok p =>
      rw [ho] at hread
      obtain ⟨ps, hps, -⟩ := except_map_eq_ok.mp hread
      exact List.forall_mem_cons.mpr ⟨h o p ho, skip_of_anyItems h hps⟩

theorem skip_of_anyMembers (h : ∀ o p, anyValue n o = .ok p → o.skip = .ok ()) :
    ∀ {ms : List (Lexeme × Outline)} {ps : List (String × Payload)}, anyMembers n ms = .ok ps →
      ∀ m ∈ ms, m.1.skip = .ok () ∧ m.2.skip = .ok ()
  | [], _, _ => List.forall_mem_nil _
  | (t, o) :: ms, _, hread => by
    rw [anyMembers] at hread
    cases ht : t.text? with
    | error e => rw [ht] at hread; cases hread
    | ok key =>
      rw [ht] at hread
      cases ho : anyValue n o with
      | error e => simp only [ho] at hread; cases hread
      | ok p =>
        simp only [ho] at hread
        obtain ⟨ps, hps, -⟩ := except_map_eq_ok.mp hread
        exact List.forall_mem_cons.mpr
          ⟨⟨Lexeme.skip_of_text? ht, h o p ho⟩, skip_of_anyMembers h hps⟩

theorem thorough_anyValue : Thorough anyValue
  | _, .null, _, _ | _, .bool _, _, _ | _, .number _, _, _ => rfl
  | n, .string s, p, h => by
    rw [anyValue] at h
    obtain ⟨t, ht, -⟩ := except_map_eq_ok.mp h
    exact Lexeme.skip_of_text? ht
  | 0, .array _ _, _, h | 0, .object _ _, _, h => by
    rw [anyValue] at h
    cases h
  | n + 1, .array os stop, p, h => by
    rw [anyValue] at h
    split at h
    · cases h
    · cases h
    · next hitems hstop =>
      exact Outline.skip_array_eq_ok.mpr
        ⟨skip_of_anyItems (thorough_anyValue n) hitems, ArrayEnd.skip_of_check hstop⟩
  | n + 1, .object ms stop, p, h => by
    rw [anyValue] at h
    split at h
    · cases h
    · cases h
    · next hmembers hstop =>
      exact Outline.skip_object_eq_ok.mpr
        ⟨skip_of_anyMembers (thorough_anyValue n) hmembers, ObjectEnd.skip_of_check hstop⟩
  | _, .broken _, _, h | _, .missing, _, h | _, .noColon _, _, h => by
    simp [anyValue] at h

end Decoder

/-! ### Records -/

namespace Field

variable {key expected : String} {fs : List Field} {slots slots' : Slots fs}

theorem skip_of_put (h : ∀ f ∈ fs, f.decode.Thorough)
    (hput : put n key o fs slots = .ok (some slots')) : o.skip = .ok () := by
  induction fs with
  | nil => cases hput
  | cons f fs ih =>
    rw [List.forall_mem_cons] at h
    obtain ⟨slot, slots⟩ := slots
    rcases put_cons_eq_some.mp hput with ⟨-, -, v, hv, -⟩ | ⟨-, rest, hrest, -⟩
    · exact h.1 _ _ v hv
    · exact ih h.2 hrest

theorem skip_of_putAll (h : ∀ f ∈ fs, f.decode.Thorough)
    (hput : putAll n fs slots ms = .ok slots') : ∀ m ∈ ms, m.1.skip = .ok () ∧ m.2.skip = .ok () := by
  induction ms generalizing slots with
  | nil => exact List.forall_mem_nil _
  | cons m ms ih =>
    obtain ⟨slots₁, hm, hms⟩ := putAll_cons_eq_ok.mp hput
    obtain ⟨key, ht, hvalue⟩ := putAll_single_eq_ok.mp hm
    have hskip : m.2.skip = .ok () := by
      rcases hvalue with hput | ⟨-, hskip, -⟩
      · exact skip_of_put h hput
      · exact hskip
    exact List.forall_mem_cons.mpr ⟨⟨Lexeme.skip_of_text? ht, hskip⟩, ih hms⟩

theorem skip_of_inOrder {stop : ArrayEnd} : ∀ {fs : List Field} {os : List Outline} {i : ℕ}
    {vs : Values fs}, (∀ f ∈ fs, f.decode.Thorough) → inOrder n i expected stop fs os = .ok vs →
      (∀ o ∈ os, o.skip = .ok ()) ∧ stop.skip = .ok ()
  | [], [], i, _, _, h => by
    rw [inOrder] at h
    cases hstop : stop.checkNoMore with
    | error e => rw [hstop] at h; cases h
    | ok _ => exact ⟨List.forall_mem_nil _, ArrayEnd.skip_of_checkNoMore hstop⟩
  | [], _ :: _, i, _, _, h => by
    rw [inOrder] at h
    cases h
  | f :: fs, o :: os, i, _, hfs, h => by
    rw [List.forall_mem_cons] at hfs
    rw [inOrder] at h
    cases hv : f.decode n o with
    | error e => rw [hv] at h; cases h
    | ok v =>
      rw [hv] at h
      cases hvs : inOrder n (i + 1) expected stop fs os with
      | error e => simp only [hvs] at h; cases h
      | ok vs =>
        obtain ⟨hos, hstop⟩ := skip_of_inOrder hfs.2 hvs
        exact ⟨List.forall_mem_cons.mpr ⟨hfs.1 n o v hv, hos⟩, hstop⟩
  | f :: fs, [], i, _, _, h => by
    -- the fields that are left have defaults, but the end of the array is looked at first
    rw [inOrder] at h
    cases hstop : stop.check with
    | error e => rw [hstop] at h; cases h
    | ok _ => exact ⟨List.forall_mem_nil _, ArrayEnd.skip_of_check hstop⟩

end Field

namespace Decoder

/-- **A record** is read thoroughly if its fields are. -/
theorem thorough_record {fs : List Field} {name : String} {build : Field.Values fs → α}
    (h : fs.Forall fun f => f.decode.Thorough) : (record name fs build).Thorough := by
  intro n o a hread
  rw [List.forall_iff_forall_mem] at h
  unfold record at hread
  split at hread
  · cases hread
  · cases hread
  · obtain ⟨vs, hvs, -⟩ := except_map_eq_ok.mp hread
    exact Outline.skip_array_eq_ok.mpr (Field.skip_of_inOrder h hvs)
  · obtain ⟨slots, hslots, hread⟩ := except_bind_eq_ok.mp hread
    obtain ⟨_, hstop, -⟩ := except_bind_eq_ok.mp hread
    exact Outline.skip_object_eq_ok.mpr
      ⟨Field.skip_of_putAll h hslots, ObjectEnd.skip_of_check hstop⟩
  · cases hread

/-- **A text from which a value is read** is a document. -/
theorem Thorough.isDocument {d : Decoder α} (h : d.Thorough) {text : String} {a : α}
    (hread : d.run text = .ok a) : ∃ o, IsDocument text o ∧ d nestLimit o = .ok a := by
  obtain ⟨o, htext, ho⟩ := run_eq_ok.mp hread
  exact ⟨o, Outline.isDocument_iff.mpr ⟨htext, h _ _ _ ho⟩, ho⟩

end Decoder

end OfflineManifest.Json
