import OfflineManifest.Config.Load
import OfflineManifest.Proofs.Except

/-! # What validation finds

Names are *usable* as keys if none is empty and none comes twice. A name *offends* against usable
names before it if it is empty or one of them; this is what is looked for, name by name. So names
are found amiss exactly if they are not usable, and what is reported is the first name that offends
(`nameProblem?_eq_none`, `nameProblem?_eq_some`). A configuration is checked in three parts, each of
which is reached if there is nothing amiss before it (`Config.problem?_eq_some`). -/

namespace OfflineManifest

namespace Config

/-- Names that can be keys. -/
def Usable (names : List String) : Prop := (∀ name ∈ names, name ≠ "") ∧ names.Nodup

/-- A name that cannot be a key besides those before it. -/
def Offends (before : List String) (name : String) : Prop := name = "" ∨ name ∈ before

/-- **The problem with names** is the first one that offends. -/
def NameProblem (kind : GroupKind) (names : List String) (p : Problem) : Prop :=
  ∃ before name after, names = before ++ name :: after ∧ Usable before ∧ Offends before name ∧
    p = if name = "" then .emptyName kind before.length else .duplicateName kind name

/-- **A configuration is valid**: there is an entry document, and names of groups of one kind can be
keys. -/
structure Valid (c : Config) : Prop where
  index : c.index ≠ ""
  assetNames : Usable (c.assetGroups.map (·.name))
  dataNames : Usable (c.dataGroups.map (·.name))

/-- **The first problem with a configuration.** -/
inductive FirstProblem (c : Config) : Problem → Prop where
  | index : c.index = "" → FirstProblem c .emptyIndex
  | assetNames {p : Problem} : c.index ≠ "" →
      NameProblem .asset (c.assetGroups.map (·.name)) p → FirstProblem c p
  | dataNames {p : Problem} : c.index ≠ "" → Usable (c.assetGroups.map (·.name)) →
      NameProblem .data (c.dataGroups.map (·.name)) p → FirstProblem c p

/-! ### Names -/

section Names

variable {kind : GroupKind} {names before seen rest after rest' : List String} {name name' : String}
  {p q : Problem}

theorem usable_nil : Usable [] := ⟨List.forall_mem_nil _, List.nodup_nil⟩

theorem usable_append_singleton :
    Usable (before ++ [name]) ↔ Usable before ∧ ¬ Offends before name := by
  have hnodup : (before ++ [name]).Nodup ↔ before.Nodup ∧ name ∉ before := by
    rw [(List.perm_append_singleton name before).nodup_iff, List.nodup_cons, and_comm]
  simp only [Usable, Offends, hnodup, List.forall_mem_append, List.forall_mem_singleton]
  tauto

theorem Usable.of_append (h : Usable (before ++ after)) : Usable before :=
  ⟨(List.forall_mem_append.mp h.1).1, (List.nodup_append.mp h.2).1⟩

theorem not_usable_of_offends (h : Offends before name) : ¬ Usable (before ++ name :: after) := by
  intro husable
  rw [List.append_cons] at husable
  exact (usable_append_singleton.mp husable.of_append).2 h

/-- What comes before the first name that offends is determined. -/
theorem eq_of_offends (hbefore : Usable before) (hname : Offends before name) (hseen : Usable seen)
    (hname' : Offends seen name') (h : before ++ name :: after = seen ++ name' :: rest) :
    before = seen ∧ name = name' := by
  rcases List.append_eq_append_iff.mp h with ⟨between, rfl, hrest⟩ | ⟨between, rfl, hrest⟩
  · cases between with
    | nil => exact ⟨(List.append_nil _).symm, (List.cons.inj hrest).1⟩
    | cons n between =>
      obtain ⟨rfl, -⟩ := List.cons.inj hrest
      exact absurd hseen (not_usable_of_offends hname)
  · cases between with
    | nil => exact ⟨List.append_nil _, (List.cons.inj hrest).1.symm⟩
    | cons n between =>
      obtain ⟨rfl, -⟩ := List.cons.inj hrest
      exact absurd hbefore (not_usable_of_offends hname')

theorem NameProblem.eq (h : NameProblem kind names p) (h' : NameProblem kind names q) : p = q := by
  obtain ⟨before, name, after, hnames, hbefore, hname, rfl⟩ := h
  obtain ⟨seen, name', rest, hnames', hseen, hname', rfl⟩ := h'
  obtain ⟨rfl, rfl⟩ := eq_of_offends hbefore hname hseen hname' (hnames.symm.trans hnames')
  rfl

theorem NameProblem.not_usable (h : NameProblem kind names p) : ¬ Usable names := by
  obtain ⟨before, name, after, rfl, -, hname, -⟩ := h
  exact not_usable_of_offends hname

/-- **One name is checked.** -/
theorem nameProblem?_cons_of_offends (h : Offends seen name) :
    nameProblem? kind seen (name :: rest) =
      some (if name = "" then .emptyName kind seen.length else .duplicateName kind name) := by
  unfold nameProblem?
  split_ifs with hempty hmem
  · rfl
  · rfl
  · exact absurd h (not_or.mpr ⟨hempty, hmem⟩)

theorem nameProblem?_cons_of_not_offends (h : ¬ Offends seen name) :
    nameProblem? kind seen (name :: rest) = nameProblem? kind (seen ++ [name]) rest := by
  obtain ⟨hempty, hmem⟩ := not_or.mp h
  conv_lhs => unfold nameProblem?
  rw [if_neg hempty, if_neg hmem]

/-- **Names are checked in order**, after usable ones. -/
theorem nameProblem?_sound (kind : GroupKind) (rest : List String) (hseen : Usable seen) :
    (nameProblem? kind seen rest = none → Usable (seen ++ rest)) ∧
      ∀ p, nameProblem? kind seen rest = some p → NameProblem kind (seen ++ rest) p := by
  induction rest generalizing seen with
  | nil =>
    rw [List.append_nil]
    exact ⟨fun _ => hseen, fun p h => absurd h (by simp [nameProblem?])⟩
  | cons name rest ih =>
    by_cases hname : Offends seen name
    · rw [nameProblem?_cons_of_offends hname]
      refine ⟨fun h => absurd h (Option.some_ne_none _), fun p h => ?_⟩
      exact ⟨seen, name, rest, rfl, hseen, hname, (Option.some.inj h).symm⟩
    · rw [nameProblem?_cons_of_not_offends hname, List.append_cons seen name rest]
      exact ih (usable_append_singleton.mpr ⟨hseen, hname⟩)

theorem nameProblem?_eq_none : nameProblem? kind [] names = none ↔ Usable names := by
  obtain ⟨hnone, hsome⟩ := nameProblem?_sound kind names usable_nil
  refine ⟨hnone, fun husable => ?_⟩
  cases h : nameProblem? kind [] names with
  | none => rfl
  | some p => exact absurd husable (hsome p h).not_usable

theorem nameProblem?_eq_some : nameProblem? kind [] names = some p ↔ NameProblem kind names p := by
  have hsome := (nameProblem?_sound kind names usable_nil).2
  refine ⟨hsome p, fun hp => ?_⟩
  cases h : nameProblem? kind [] names with
  | none => exact absurd (nameProblem?_eq_none.mp h) hp.not_usable
  | some q => rw [(hsome q h).eq hp]

end Names

/-! ### Configurations -/

section Configurations

variable {format : ConfigFormat} {text : String} {c : Config} {p : Problem}

theorem problem?_eq_none : c.problem? = none ↔ c.Valid := by
  unfold problem?
  by_cases hindex : c.index = ""
  · rw [if_pos hindex]
    exact ⟨fun h => absurd h (Option.some_ne_none _), fun h => absurd hindex h.index⟩
  · rw [if_neg hindex, Option.or_eq_none_iff, nameProblem?_eq_none, nameProblem?_eq_none]
    exact ⟨fun h => ⟨hindex, h.1, h.2⟩, fun h => ⟨h.assetNames, h.dataNames⟩⟩

/-- **The first problem is reported.** -/
theorem problem?_eq_some : c.problem? = some p ↔ c.FirstProblem p := by
  unfold problem?
  by_cases hindex : c.index = ""
  · rw [if_pos hindex, Option.some.injEq]
    constructor
    · rintro rfl
      exact .index hindex
    · rintro (- | ⟨hne, -⟩ | ⟨hne, -, -⟩)
      · rfl
      · exact absurd hindex hne
      · exact absurd hindex hne
  · rw [if_neg hindex, Option.or_eq_some_iff, nameProblem?_eq_some, nameProblem?_eq_none,
      nameProblem?_eq_some]
    constructor
    · rintro (h | ⟨husable, h⟩)
      · exact .assetNames hindex h
      · exact .dataNames hindex husable h
    · rintro (hempty | ⟨-, h⟩ | ⟨-, husable, h⟩)
      · exact absurd hempty hindex
      · exact Or.inl h
      · exact Or.inr ⟨husable, h⟩

/-- **What is loaded** is what is read, if it is valid. -/
theorem load_eq_ok : load format text = .ok c ↔ read format text = .ok c ∧ c.Valid := by
  unfold load
  rw [except_bind_eq_ok]
  constructor
  · rintro ⟨d, hread, h⟩
    split at h
    · next hnone =>
      cases h
      exact ⟨hread, problem?_eq_none.mp hnone⟩
    · cases h
  · rintro ⟨hread, hvalid⟩
    refine ⟨c, hread, ?_⟩
    rw [problem?_eq_none.mpr hvalid]
    rfl

/-- **What is loaded from JSON** is what the decoder reads, if it is valid. -/
theorem load_json_eq_ok : load .json text = .ok c ↔ decoder.run text = .ok c ∧ c.Valid := by
  rw [load_eq_ok]
  refine and_congr_left' ?_
  cases hrun : decoder.run text <;> simp [read, hrun]

end Configurations

end Config

end OfflineManifest
