import Mathlib.Data.List.Basic

/-! # Parts between separators

A list that is cut at a separator has parts without the separator. The list is determined by its
parts, and where the parts are divided into two lists of parts, so is the list
(`exists_of_splitOn_eq_append`). -/

namespace OfflineManifest

variable {α : Type} [BEq α] [LawfulBEq α] {a : α}

theorem not_mem_of_mem_splitOn : ∀ {xs l : List α}, l ∈ xs.splitOn a → a ∉ l
  | [], l, h => by
    rw [List.splitOn_nil, List.mem_singleton] at h
    exact h ▸ List.not_mem_nil
  | x :: xs, l, h => by
    rw [List.splitOn_cons_eq_if_modifyHead] at h
    obtain ⟨first, rest, hxs⟩ := List.exists_cons_of_ne_nil (List.splitOn_ne_nil a xs)
    have hall : ∀ m ∈ first :: rest, a ∉ m := fun m hm => not_mem_of_mem_splitOn (hxs ▸ hm)
    rw [hxs] at h
    rw [List.forall_mem_cons] at hall
    split at h
    · rcases List.mem_cons.mp h with rfl | h
      · exact List.not_mem_nil
      · rcases List.mem_cons.mp h with rfl | h
        · exact hall.1
        · exact hall.2 l h
    · next hx =>
      rw [List.modifyHead_cons] at h
      rcases List.mem_cons.mp h with rfl | h
      · rw [List.mem_cons]
        rintro (rfl | ha)
        · exact hx (beq_self_eq_true a)
        · exact hall.1 ha
      · exact hall.2 l h

theorem mem_intersperse {β : Type} {x y : β} : ∀ {xs : List β}, x ∈ xs → x ∈ xs.intersperse y
  | [z], h => h
  | z :: z' :: xs, h => by
    rcases List.mem_cons.mp h with rfl | h
    · exact List.mem_cons_self
    · exact List.mem_cons_of_mem z (List.mem_cons_of_mem y (mem_intersperse h))

theorem mem_of_mem_splitOn {xs l : List α} {x : α} (hl : l ∈ xs.splitOn a) (hx : x ∈ l) :
    x ∈ xs := by
  have hjoin : [a].intercalate (xs.splitOn a) = xs := List.intercalate_splitOn a
  rw [← hjoin]
  exact List.mem_flatten.mpr ⟨l, mem_intersperse hl, hx⟩

theorem splitOn_inj {xs ys : List α} : xs.splitOn a = ys.splitOn a ↔ xs = ys := by
  constructor
  · intro h
    have hjoin := congrArg ([a].intercalate) h
    rwa [List.intercalate_splitOn, List.intercalate_splitOn] at hjoin
  · rintro rfl
    rfl

theorem splitOn_eq_singleton_iff {xs x : List α} : xs.splitOn a = [x] ↔ xs = x ∧ a ∉ x := by
  constructor
  · intro h
    have hx : a ∉ x := not_mem_of_mem_splitOn (h ▸ List.mem_singleton_self x)
    exact ⟨splitOn_inj.mp (h.trans (List.splitOn_eq_singleton hx).symm), hx⟩
  · rintro ⟨rfl, hx⟩
    exact List.splitOn_eq_singleton hx

theorem exists_splitOn_of_subset {xs : List α} {l : List (List α)} (hl : l ≠ [])
    (h : l ⊆ xs.splitOn a) : ∃ p : List α, p.splitOn a = l :=
  ⟨[a].intercalate l,
    List.splitOn_intercalate a (fun _ hx => not_mem_of_mem_splitOn (h hx)) hl⟩

/-- **The last parts of a list** are those of the list itself or of what stands behind a separator. -/
theorem exists_of_splitOn_eq_append {xs : List α} {k l : List (List α)}
    (h : xs.splitOn a = k ++ l) (hl : l ≠ []) :
    ∃ p : List α, p.splitOn a = l ∧
      (k = [] ∧ xs = p ∨ ∃ t, k = t.splitOn a ∧ xs = t ++ a :: p) := by
  obtain ⟨p, rfl⟩ := exists_splitOn_of_subset hl (h ▸ List.subset_append_right k l)
  refine ⟨p, rfl, ?_⟩
  by_cases hk : k = []
  · rw [hk, List.nil_append] at h
    exact Or.inl ⟨hk, splitOn_inj.mp h⟩
  · obtain ⟨t, rfl⟩ := exists_splitOn_of_subset hk (h ▸ List.subset_append_left k _)
    rw [← List.splitOn_append_cons_self] at h
    exact Or.inr ⟨t, rfl, splitOn_inj.mp h⟩

end OfflineManifest
