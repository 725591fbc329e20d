import Mathlib.Data.List.Nodup
import OfflineManifest.Proofs.Files.Tree

/-! # Walking trees of files and directories

A tree is *plain* if it has no links, and names in it can be spelled in a path and stand once in
their directory (`Plain`).

* `files_eq_ok`: a walk through a plain tree does not depend on what is around the tree. It gives
  the ways to the files (`ways`) if no path of a directory is too long, and fails otherwise.
* `mem_ways_iff`, `nodup_ways`: these are the ways at whose end there is a file, each of them once.
* `follow_of_plain`: names that are short enough lead to whatever stands where they spell. -/

namespace OfflineManifest.Tree

/-- **A name that a path can spell.** -/
structure IsName (name : RawText) : Prop where
  isPlain : IsPlain name
  slash : RawText.slash ∉ name.bytes

/-- **A tree of files and directories.** -/
inductive Plain : Tree → Prop where
  | file (c : ByteArray) : Plain (file c)
  | directory {entries : List (RawText × Tree)} (names : ∀ e ∈ entries, IsName e.1)
    (nodup : (entries.map Prod.fst).Nodup) (below : ∀ e ∈ entries, Plain e.2) :
    Plain (directory entries)

mutual

/-- The ways to the files of a plain tree. -/
def ways : Tree → List (List RawText)
  | file _ => [[]]
  | link _ => []
  | directory entries => waysOf entries

/-- The ways to the files among entries, and below them. -/
def waysOf : List (RawText × Tree) → List (List RawText)
  | [] => []
  | (name, t) :: rest => (ways t).map (name :: ·) ++ waysOf rest

end

/-- The number of bytes of names with a slash behind each. -/
def waySize : List RawText → ℕ
  | [] => 0
  | name :: way => name.size + 1 + waySize way

theorem waySize_append (way rest : List RawText) :
    waySize (way ++ rest) = waySize way + waySize rest := by
  induction way with
  | nil => rw [List.nil_append, waySize, Nat.zero_add]
  | cons name way ih =>
    rw [List.cons_append, waySize, waySize, ih]
    omega

/-! ### Places in plain trees -/

section Lookup

variable {name : RawText} {t u : Tree} {entries : List (RawText × Tree)} {q : List RawText}

theorem mem_of_lookup (h : entries.lookup name = some u) : (name, u) ∈ entries := by
  obtain ⟨before, behind, rfl, -⟩ := List.lookup_eq_some_iff.mp h
  exact List.mem_append_right _ List.mem_cons_self

theorem lookup_of_mem (hnodup : (entries.map Prod.fst).Nodup) (h : (name, u) ∈ entries) :
    entries.lookup name = some u := by
  induction entries with
  | nil => cases h
  | cons e rest ih =>
    rw [List.map_cons, List.nodup_cons] at hnodup
    rw [lookup_cons_eq]
    rcases List.mem_cons.mp h with rfl | h
    · exact if_pos rfl
    · have hne : name ≠ e.1 := fun heq => hnodup.1 (heq ▸ List.mem_map_of_mem h)
      rw [if_neg hne]
      exact ih hnodup.2 h

theorem exists_mem_of_at?_cons (h : (directory entries).at? (name :: q) = some u) :
    ∃ v, (name, v) ∈ entries ∧ v.at? q = some u := by
  rw [at?_cons] at h
  obtain ⟨v, hv, hu⟩ := Option.bind_eq_some_iff.mp h
  exact ⟨v, mem_of_lookup hv, hu⟩

theorem at?_of_mem (hnodup : (entries.map Prod.fst).Nodup) (h : (name, t) ∈ entries) :
    (directory entries).at? (name :: q) = t.at? q := by
  rw [at?_cons, lookup_of_mem hnodup h, Option.bind_some]

end Lookup

theorem Plain.at? {t u : Tree} {q : List RawText} (ht : t.Plain) (h : t.at? q = some u) :
    u.Plain := by
  induction q generalizing t with
  | nil => cases h; exact ht
  | cons name q ih =>
    cases ht with
    | file c => cases h
    | directory _ _ below =>
      obtain ⟨v, hv, hu⟩ := exists_mem_of_at?_cons h
      exact ih (below _ hv) hu

theorem Plain.ne_link {t : Tree} (ht : t.Plain) (q : List RawText) (target : RawText) :
    t.at? q ≠ some (link target) := by
  intro h
  cases ht.at? h

theorem Plain.isName {t u : Tree} {q : List RawText} (ht : t.Plain) (h : t.at? q = some u) :
    ∀ name ∈ q, IsName name := by
  induction q generalizing t with
  | nil => exact fun _ hname => absurd hname List.not_mem_nil
  | cons name q ih =>
    cases ht with
    | file c => cases h
    | directory names _ below =>
      obtain ⟨v, hv, hu⟩ := exists_mem_of_at?_cons h
      rw [List.forall_mem_cons]
      exact ⟨names _ hv, ih (below _ hv) hu⟩

/-! ### Walks -/

section Walks

variable {top : Tree} {l : List (List RawText)}

/-- The paths of the directories of a tree are not too long behind a number of bytes. -/
def Fits (size : ℕ) (t : Tree) : Prop :=
  ∀ q es, t.at? q = some (directory es) → size + waySize q ≤ pathLimit + 1

theorem fits_directory_iff {size : ℕ} {entries : List (RawText × Tree)}
    (hnodup : (entries.map Prod.fst).Nodup) :
    Fits size (directory entries) ↔ size ≤ pathLimit + 1 ∧
      ∀ e ∈ entries, Fits (size + e.1.size + 1) e.2 := by
  have hsize : ∀ (name : RawText) (q : List RawText),
      size + waySize (name :: q) = size + name.size + 1 + waySize q := fun name q => by
    rw [waySize]
    omega
  constructor
  · intro h
    refine ⟨h [] entries rfl, fun e he q es hq => ?_⟩
    rw [← hsize]
    exact h (e.1 :: q) es ((at?_of_mem hnodup he).trans hq)
  · rintro ⟨htop, hbelow⟩ q es hq
    cases q with
    | nil => exact htop
    | cons name q =>
      obtain ⟨v, hv, hq⟩ := exists_mem_of_at?_cons hq
      rw [hsize]
      exact hbelow _ hv q es hq

/-- What is no link is walked through at its place. -/
theorem filesOf_cons {name : RawText} {t : Tree} {rest : List (RawText × Tree)} {links size : ℕ}
    {here : List RawText} (h : t.Plain) : filesOf top links size here ((name, t) :: rest) = (do
      let below ← files top links (size + name.size + 1) (here ++ [name]) t
      let others ← filesOf top links size here rest
      return below.map (name :: ·) ++ others) := by
  have hlink : ∀ target, t ≠ link target := fun target => h.ne_link [] target ∘ congrArg some
  rw [filesOf]
  · exact fun target htarget => absurd htarget (hlink target)
  · exact fun target _ htarget => absurd htarget (hlink target)

mutual

/-- **A walk through a plain tree.** -/
theorem files_eq_ok : ∀ {t : Tree} {links size : ℕ} {here : List RawText}, t.Plain →
    ∀ {l}, files top links size here t = .ok l ↔ l = t.ways ∧ Fits size t
  | .file c, links, size, here, _, l => by
    rw [files, ways, Except.ok.injEq, eq_comm, iff_self_and]
    intro _ q es hq
    cases q <;> cases hq
  | .directory entries, links, size, here, .directory names nodup below, l => by
    rw [files, ways, fits_directory_iff nodup]
    by_cases hsize : size ≤ pathLimit + 1
    · rw [if_pos hsize, filesOf_eq_ok below]
      simp only [hsize, true_and]
    · rw [if_neg hsize]
      constructor
      · exact fun h => by cases h
      · exact fun h => absurd h.2.1 hsize

theorem filesOf_eq_ok : ∀ {entries : List (RawText × Tree)} {links size : ℕ} {here : List RawText},
    (∀ e ∈ entries, e.2.Plain) → ∀ {l}, filesOf top links size here entries = .ok l ↔
      l = waysOf entries ∧ ∀ e ∈ entries, Fits (size + e.1.size + 1) e.2
  | [], links, size, here, _, l => by
    rw [filesOf, waysOf, Except.ok.injEq, eq_comm]
    simp
  | (name, t) :: rest, links, size, here, h, l => by
    rw [List.forall_mem_cons] at h
    rw [filesOf_cons h.1, except_bind_eq_ok, waysOf, List.forall_mem_cons]
    constructor
    · rintro ⟨below, hbelow, hl⟩
      obtain ⟨others, hothers, hl⟩ := except_bind_eq_ok.mp hl
      obtain ⟨rfl, hfits⟩ := (files_eq_ok h.1).mp hbelow
      obtain ⟨rfl, hfit⟩ := (filesOf_eq_ok h.2).mp hothers
      cases hl
      exact ⟨rfl, hfits, hfit⟩
    · rintro ⟨rfl, hfits, hfit⟩
      refine ⟨t.ways, (files_eq_ok h.1).mpr ⟨rfl, hfits⟩, except_bind_eq_ok.mpr ?_⟩
      exact ⟨waysOf rest, (filesOf_eq_ok h.2).mpr ⟨rfl, hfit⟩, rfl⟩

end

mutual

/-- **A walk through a plain tree fails** only at paths that are too long. -/
theorem eq_of_files_eq_error : ∀ {t : Tree} {links size : ℕ} {here : List RawText}, t.Plain →
    ∀ {fault}, files top links size here t = .error fault → fault = .invalidName
  | .file c, links, size, here, _, fault, h => by
    rw [files] at h
    cases h
  | .directory entries, links, size, here, .directory names nodup below, fault, h => by
    rw [files] at h
    split at h
    · exact eq_of_filesOf_eq_error below h
    · exact (Except.error.inj h).symm

theorem eq_of_filesOf_eq_error : ∀ {entries : List (RawText × Tree)} {links size : ℕ}
    {here : List RawText}, (∀ e ∈ entries, e.2.Plain) → ∀ {fault},
    filesOf top links size here entries = .error fault → fault = .invalidName
  | [], links, size, here, _, fault, h => by
    rw [filesOf] at h
    cases h
  | (name, t) :: rest, links, size, here, hplain, fault, h => by
    rw [List.forall_mem_cons] at hplain
    rw [filesOf_cons hplain.1] at h
    cases hbelow : files top links (size + name.size + 1) (here ++ [name]) t with
    | error fault' =>
      rw [hbelow] at h
      cases h
      exact eq_of_files_eq_error hplain.1 hbelow
    | ok below =>
      cases hothers : filesOf top links size here rest with
      | error fault' =>
        rw [hbelow, hothers] at h
        cases h
        exact eq_of_filesOf_eq_error hplain.2 hothers
      | ok others =>
        rw [hbelow, hothers] at h
        cases h

end

end Walks

mutual

theorem mem_ways_iff : ∀ {t : Tree}, t.Plain → ∀ {way : List RawText},
    way ∈ t.ways ↔ ∃ c, t.at? way = some (file c)
  | .file c, _, way => by
    rw [ways, List.mem_singleton]
    cases way <;> simp [Tree.at?]
  | .directory entries, .directory names nodup below, way => by
    rw [ways, mem_waysOf_iff below]
    constructor
    · rintro ⟨e, q, he, rfl, c, hc⟩
      exact ⟨c, (at?_of_mem nodup he).trans hc⟩
    · rintro ⟨c, hc⟩
      cases way with
      | nil => cases hc
      | cons name q =>
        obtain ⟨v, hv, hq⟩ := exists_mem_of_at?_cons hc
        exact ⟨_, q, hv, rfl, c, hq⟩

theorem mem_waysOf_iff : ∀ {entries : List (RawText × Tree)}, (∀ e ∈ entries, e.2.Plain) →
    ∀ {way : List RawText}, way ∈ waysOf entries ↔
      ∃ e q, e ∈ entries ∧ way = e.1 :: q ∧ ∃ c, e.2.at? q = some (file c)
  | [], _, way => by simp [waysOf]
  | (name, t) :: rest, h, way => by
    rw [List.forall_mem_cons] at h
    rw [waysOf, List.mem_append, List.mem_map, mem_waysOf_iff h.2]
    constructor
    · rintro (⟨q, hq, rfl⟩ | ⟨e, q, he, hway⟩)
      · exact ⟨_, q, List.mem_cons_self, rfl, (mem_ways_iff h.1).mp hq⟩
      · exact ⟨e, q, List.mem_cons_of_mem _ he, hway⟩
    · rintro ⟨e, q, he, rfl, hq⟩
      rcases List.mem_cons.mp he with rfl | he
      · exact Or.inl ⟨q, (mem_ways_iff h.1).mpr hq, rfl⟩
      · exact Or.inr ⟨e, q, he, rfl, hq⟩

end

mutual

theorem nodup_ways : ∀ {t : Tree}, t.Plain → t.ways.Nodup
  | .file c, _ => by
    rw [ways]
    exact List.nodup_singleton []
  | .directory entries, .directory names nodup below => by
    rw [ways]
    exact nodup_waysOf nodup below

theorem nodup_waysOf : ∀ {entries : List (RawText × Tree)}, (entries.map Prod.fst).Nodup →
    (∀ e ∈ entries, e.2.Plain) → (waysOf entries).Nodup
  | [], _, _ => by
    rw [waysOf]
    exact List.nodup_nil
  | (name, t) :: rest, hnodup, h => by
    rw [List.map_cons, List.nodup_cons] at hnodup
    rw [List.forall_mem_cons] at h
    have hcons : Function.Injective (name :: · : List RawText → List RawText) :=
      List.cons_injective
    rw [waysOf, List.nodup_append]
    refine ⟨(nodup_ways h.1).map hcons, nodup_waysOf hnodup.2 h.2, ?_⟩
    intro way hway other hother
    obtain ⟨q, -, rfl⟩ := List.mem_map.mp hway
    obtain ⟨e, r, he, rfl, -⟩ := (mem_waysOf_iff h.2).mp hother
    intro heq
    have hmem : e.1 ∈ rest.map Prod.fst := List.mem_map_of_mem he
    rw [← (List.cons.inj heq).1] at hmem
    exact hnodup.1 hmem

end

/-! ### Following names -/

/-- **Names lead to whatever stands where they spell**, and pass no link on the way. -/
theorem follow_of_plain {top t u : Tree} {links : ℕ} {here q : List RawText} (ht : t.Plain)
    (hhere : top.at? here = some t) (hvalid : ∀ name ∈ q, isValidName name = true)
    (h : t.at? q = some u) :
    top.follow links here q = .ok (.existing (here ++ q) links) := by
  induction q generalizing here t with
  | nil => rw [follow, List.append_nil]
  | cons name q ih =>
    cases ht with
    | file c => cases h
    | @directory entries names nodup below =>
      rw [at?_cons] at h
      obtain ⟨v, hv, hu⟩ := Option.bind_eq_some_iff.mp h
      have hname : IsName name := names _ (mem_of_lookup hv)
      have hv' : top.at? (here ++ [name]) = some v := (at?_snoc hhere).trans hv
      rw [List.forall_mem_cons] at hvalid
      have hrest := ih (below _ (mem_of_lookup hv)) hv' hvalid.2 hu
      rw [List.append_assoc] at hrest
      have hskip : ¬ (name = "" ∨ name = ".") := not_or.mpr ⟨hname.isPlain.1, hname.isPlain.2.1⟩
      rw [follow, hhere]
      simp only [if_neg hskip, if_neg hname.isPlain.2.2, hvalid.1, hv, Bool.not_true,
        Bool.false_eq_true, if_false]
      cases v with
      | link target => cases below _ (mem_of_lookup hv)
      | file c => exact hrest
      | directory es => exact hrest

end OfflineManifest.Tree
