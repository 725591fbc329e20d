/-! # Maps with sorted keys

A map from texts to values, as the list of its entries with strictly increasing keys. The order of
texts is that of their code points, which is also that of their bytes.

* `KeyMap.insert` puts an entry in its place and replaces an earlier one of the same key.
* `KeyMap.ofList` inserts the entries of a list from left to right.
-/

namespace OfflineManifest

/-- A map from texts to values. -/
structure KeyMap (α : Type) where
  entries : List (String × α)
  sorted : (entries.map Prod.fst).Pairwise (· < ·)

namespace KeyMap

variable {α β : Type}

theorem eq_of_entries {m n : KeyMap α} (h : m.entries = n.entries) : m = n := by
  cases m; cases n; cases h; rfl

instance [DecidableEq α] : DecidableEq (KeyMap α) := fun m n =>
  decidable_of_iff (m.entries = n.entries) ⟨eq_of_entries, fun h => h ▸ rfl⟩

/-- The map without entries. -/
def empty : KeyMap α := ⟨[], List.Pairwise.nil⟩

/-- An entry put in its place in a sorted list. -/
def insertEntry (key : String) (value : α) : List (String × α) → List (String × α)
  | [] => [(key, value)]
  | (k, v) :: rest =>
    if key < k then (key, value) :: (k, v) :: rest
    else if key = k then (key, value) :: rest
    else (k, v) :: insertEntry key value rest

theorem mem_keys_insertEntry {key k : String} {value : α} {entries : List (String × α)} :
    k ∈ (insertEntry key value entries).map Prod.fst →
      k = key ∨ k ∈ entries.map Prod.fst := by
  induction entries with
  | nil => simp [insertEntry]
  | cons e rest ih =>
    simp only [insertEntry]
    split
    · simp
    · split
      · simp only [List.map_cons, List.mem_cons]
        exact fun h => h.imp_right Or.inr
      · intro h
        simp only [List.map_cons, List.mem_cons] at h ⊢
        rcases h with h | h
        · exact Or.inr (Or.inl h)
        · exact (ih h).imp_right Or.inr

theorem sorted_insertEntry {key : String} {value : α} {entries : List (String × α)}
    (h : (entries.map Prod.fst).Pairwise (· < ·)) :
    ((insertEntry key value entries).map Prod.fst).Pairwise (· < ·) := by
  induction entries with
  | nil => simp [insertEntry]
  | cons e rest ih =>
    simp only [List.map_cons, List.pairwise_cons] at h
    simp only [insertEntry]
    split
    · next lt =>
      simp only [List.map_cons, List.pairwise_cons, List.mem_cons]
      refine ⟨?_, h⟩
      rintro k (rfl | hk)
      · exact lt
      · exact String.lt_trans lt (h.1 k hk)
    · next nlt =>
      split
      · next eq =>
        subst eq
        simpa only [List.map_cons, List.pairwise_cons] using h
      · next ne =>
        simp only [List.map_cons, List.pairwise_cons]
        refine ⟨fun k hk => ?_, ih h.2⟩
        rcases mem_keys_insertEntry hk with rfl | hk
        · exact Std.lt_of_le_of_ne (String.not_lt.mp nlt) (Ne.symm ne)
        · exact h.1 k hk

/-- **The map with another entry,** which replaces an earlier one of the same key. -/
def insert (m : KeyMap α) (key : String) (value : α) : KeyMap α :=
  ⟨insertEntry key value m.entries, sorted_insertEntry m.sorted⟩

/-- The map of the entries of a list; the last one of a key counts. -/
def ofList (entries : List (String × α)) : KeyMap α :=
  entries.foldl (fun m (key, value) => m.insert key value) empty

/-- The value of a key. -/
def get? (m : KeyMap α) (key : String) : Option α := m.entries.lookup key

/-- The number of entries. -/
def size (m : KeyMap α) : Nat := m.entries.length

end KeyMap

end OfflineManifest
