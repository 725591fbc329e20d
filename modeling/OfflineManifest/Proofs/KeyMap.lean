import OfflineManifest.KeyMap
import Mathlib.Data.List.Basic

/-! # Looking up keys

A list of entries gives the value of the first entry with a key (`lookup_cons_eq`). A map that has
got an entry gives its value for its key, and what it gave before for any other key (`get?_insert`).
The keys of a map are those for which it gives a value (`mem_keys_iff`). Entries whose keys are in
order are those of their map (`entries_ofList`). -/

namespace OfflineManifest

section Lookup

variable {α β : Type} [DecidableEq α] {e : α × β} {entries rest : List (α × β)} {key k : α}
  {value : β}

theorem lookup_cons_eq (k : α) (e : α × β) (rest : List (α × β)) :
    (e :: rest).lookup k = if k = e.1 then some e.2 else rest.lookup k := by
  rw [List.lookup_cons]
  by_cases h : k = e.1
  · rw [if_pos h, beq_iff_eq.mpr h]
  · rw [if_neg h, beq_eq_false_iff_ne.mpr h]

/-- An entry in place of one with the same key. -/
theorem lookup_cons_replaced (h : e.1 = key) :
    ((key, value) :: rest).lookup k = if k = key then some value else (e :: rest).lookup k := by
  rw [lookup_cons_eq, lookup_cons_eq, h]
  by_cases hk : k = key <;> simp only [hk, if_true, if_false]

/-- An entry with another key stays in front. -/
theorem lookup_cons_kept (h : e.1 ≠ key)
    (hrest : entries.lookup k = if k = key then some value else rest.lookup k) :
    (e :: entries).lookup k = if k = key then some value else (e :: rest).lookup k := by
  rw [lookup_cons_eq, lookup_cons_eq, hrest]
  by_cases hk : k = key
  · simp only [hk, if_true, Ne.symm h, if_false]
  · simp only [hk, if_false]

theorem mem_map_fst_iff : k ∈ entries.map Prod.fst ↔ ∃ v, entries.lookup k = some v := by
  induction entries with
  | nil => simp
  | cons e rest ih =>
    rw [List.map_cons, List.mem_cons, ih, lookup_cons_eq]
    by_cases h : k = e.1 <;> simp [h]

end Lookup

namespace KeyMap

variable {α : Type}

theorem lookup_insertEntry (key k : String) (value : α) (entries : List (String × α)) :
    (insertEntry key value entries).lookup k =
      if k = key then some value else entries.lookup k := by
  induction entries with
  | nil => rw [insertEntry, lookup_cons_eq]
  | cons e rest ih =>
    unfold insertEntry
    by_cases hlt : key < e.1
    · rw [if_pos hlt, lookup_cons_eq]
    · rw [if_neg hlt]
      by_cases heq : key = e.1
      · rw [if_pos heq]
        exact lookup_cons_replaced heq.symm
      · rw [if_neg heq]
        exact lookup_cons_kept (Ne.symm heq) ih

/-- **What a map gives after an insertion.** -/
theorem get?_insert (m : KeyMap α) (key k : String) (value : α) :
    (m.insert key value).get? k = if k = key then some value else m.get? k :=
  lookup_insertEntry key k value m.entries

theorem mem_keys_iff {m : KeyMap α} {k : String} :
    k ∈ m.entries.map Prod.fst ↔ ∃ v, m.get? k = some v :=
  mem_map_fst_iff

theorem mem_of_mem_insertEntry {key : String} {value : α} {e : String × α}
    {entries : List (String × α)} (h : e ∈ insertEntry key value entries) :
    e = (key, value) ∨ e ∈ entries := by
  induction entries with
  | nil => exact Or.inl (List.mem_singleton.mp h)
  | cons d rest ih =>
    unfold insertEntry at h
    by_cases hlt : key < d.1
    · rw [if_pos hlt] at h
      exact List.mem_cons.mp h
    · rw [if_neg hlt] at h
      by_cases heq : key = d.1
      · rw [if_pos heq] at h
        exact (List.mem_cons.mp h).imp_right (List.mem_cons_of_mem d)
      · rw [if_neg heq] at h
        rcases List.mem_cons.mp h with rfl | h
        · exact Or.inr List.mem_cons_self
        · exact (ih h).imp_right (List.mem_cons_of_mem d)

theorem mem_of_mem_foldl_insert {e : String × α} {rest : List (String × α)} {m : KeyMap α}
    (h : e ∈ (rest.foldl (fun m e => m.insert e.1 e.2) m).entries) : e ∈ m.entries ∨ e ∈ rest := by
  induction rest generalizing m with
  | nil => exact Or.inl h
  | cons d rest ih =>
    rcases ih h with h | h
    · rcases mem_of_mem_insertEntry h with rfl | h
      · exact Or.inr List.mem_cons_self
      · exact Or.inl h
    · exact Or.inr (List.mem_cons_of_mem d h)

/-- The entries of the map of a list are among those of the list. -/
theorem mem_of_mem_ofList {e : String × α} {entries : List (String × α)}
    (h : e ∈ (ofList entries).entries) : e ∈ entries :=
  (mem_of_mem_foldl_insert h).resolve_left List.not_mem_nil

/-! ### Entries in order -/

theorem insertEntry_of_last {key : String} {value : α} {entries : List (String × α)}
    (h : ∀ k ∈ entries.map Prod.fst, k < key) :
    insertEntry key value entries = entries ++ [(key, value)] := by
  induction entries with
  | nil => rfl
  | cons e entries ih =>
    rw [List.map_cons, List.forall_mem_cons] at h
    rw [insertEntry, if_neg (String.lt_asymm h.1), if_neg (Std.ne_of_lt h.1).symm, ih h.2,
      List.cons_append]

theorem entries_foldl_insert {rest : List (String × α)} {m : KeyMap α}
    (h : ((m.entries ++ rest).map Prod.fst).Pairwise (· < ·)) :
    (rest.foldl (fun m e => m.insert e.1 e.2) m).entries = m.entries ++ rest := by
  induction rest generalizing m with
  | nil => simp
  | cons e rest ih =>
    have hlast : ∀ k ∈ m.entries.map Prod.fst, k < e.1 := fun k hk => by
      rw [List.map_append, List.pairwise_append] at h
      exact h.2.2 k hk e.1 (by simp)
    have hinsert : (m.insert e.1 e.2).entries = m.entries ++ [e] := insertEntry_of_last hlast
    rw [List.foldl_cons, ih, hinsert, List.append_assoc, List.singleton_append]
    rwa [hinsert, List.append_assoc, List.singleton_append]

/-- **The map of entries in order** has these entries. -/
theorem entries_ofList {entries : List (String × α)}
    (h : (entries.map Prod.fst).Pairwise (· < ·)) : (ofList entries).entries = entries :=
  entries_foldl_insert h

theorem ofList_entries (m : KeyMap α) : ofList m.entries = m :=
  eq_of_entries (entries_ofList m.sorted)

end KeyMap

end OfflineManifest
