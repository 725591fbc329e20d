import OfflineManifest.Files.Tree
import OfflineManifest.Proofs.Except
import OfflineManifest.Proofs.KeyMap

/-! # What a write leaves in place

A tree *extends* another one, up to a place, if it has all its directories, files and links, files
with the same contents except at that place, and no further links.

* `extends_put_vacant`, `extends_put_file`: putting a file or an empty directory where there is
  nothing, or a file in place of another one, extends a tree.
* `extends_makeDirectories`, `extends_write`: so do making directories and writing.
* `follow_of_extends`: in the extended tree, names lead where they led before.
* `place_of_follow`: from a directory without links in it, names lead to the place that they
  spell. -/

namespace OfflineManifest.Tree

/-! ### Places -/

theorem lookup_putEntry (name k : RawText) (t : Tree) (entries : List (RawText × Tree)) :
    (putEntry name t entries).lookup k = if k = name then some t else entries.lookup k := by
  induction entries with
  | nil => rw [putEntry, lookup_cons_eq]
  | cons e rest ih =>
    unfold putEntry
    by_cases h : e.1 = name
    · rw [if_pos h, h]
      exact lookup_cons_replaced h
    · rw [if_neg h]
      exact lookup_cons_kept h ih

theorem at?_cons (name : RawText) (q : List RawText) (entries : List (RawText × Tree)) :
    (directory entries).at? (name :: q) = (entries.lookup name).bind (at? q) := rfl

theorem at?_append (p q : List RawText) (t : Tree) :
    t.at? (p ++ q) = (t.at? p).bind (at? q) := by
  induction p generalizing t with
  | nil => rfl
  | cons name p ih =>
    cases t with
    | directory entries =>
      rw [List.cons_append, at?_cons, at?_cons]
      cases entries.lookup name with
      | none => rfl
      | some u => exact ih u
    | file _ => rfl
    | link _ => rfl

theorem at?_snoc {d : List RawText} {name : RawText} {t : Tree} {entries : List (RawText × Tree)}
    (h : t.at? d = some (directory entries)) : t.at? (d ++ [name]) = entries.lookup name := by
  rw [at?_append, h, Option.bind_some, at?_cons]
  cases entries.lookup name <;> rfl

/-! ### Extensions -/

/-- **A tree extends another one**, up to the contents of files at some places. -/
structure Extends (P : List RawText → Prop) (t t' : Tree) : Prop where
  directory : ∀ q es, t.at? q = some (directory es) → ∃ es', t'.at? q = some (directory es')
  file : ∀ q c, t.at? q = some (file c) →
    ∃ c', t'.at? q = some (file c') ∧ (¬ P q → c' = c)
  link : ∀ q target, t.at? q = some (link target) ↔ t'.at? q = some (link target)

variable {P : List RawText → Prop} {t t' t'' : Tree}

theorem Extends.refl (P : List RawText → Prop) (t : Tree) : Extends P t t :=
  ⟨fun _ es h => ⟨es, h⟩, fun _ c h => ⟨c, h, fun _ => rfl⟩, fun _ _ => Iff.rfl⟩

theorem Extends.trans (h : Extends P t t') (h' : Extends P t' t'') : Extends P t t'' where
  directory q es hq := by
    obtain ⟨es', hq'⟩ := h.directory q es hq
    exact h'.directory q es' hq'
  file q c hq := by
    obtain ⟨c', hq', hc⟩ := h.file q c hq
    obtain ⟨c'', hq'', hc'⟩ := h'.file q c' hq'
    exact ⟨c'', hq'', fun hne => (hc' hne).trans (hc hne)⟩
  link q target := (h.link q target).trans (h'.link q target)

theorem extends_file (h : P []) (c c' : ByteArray) : Extends P (file c) (file c') where
  directory q es hq := by cases q <;> cases hq
  file q d hq := by
    cases q with
    | nil => exact ⟨c', rfl, fun hne => absurd h hne⟩
    | cons => cases hq
  link q target := by cases q <;> simp [at?]

/-- An entry that is extended, or one that is new and is a file or an empty directory. -/
theorem extends_putEntry {name : RawText} {new : Tree} {entries : List (RawText × Tree)}
    (h : ∀ u, entries.lookup name = some u → Extends (fun q => P (name :: q)) u new)
    (hnew : entries.lookup name = none → ∀ q target, new.at? q ≠ some (link target)) :
    Extends P (directory entries) (directory (putEntry name new entries)) where
  directory q es hq := by
    cases q with
    | nil => exact ⟨_, rfl⟩
    | cons k q =>
      rw [at?_cons] at hq ⊢
      rw [lookup_putEntry]
      by_cases hk : k = name
      · obtain ⟨u, hu, hq⟩ := Option.bind_eq_some_iff.mp hq
        rw [if_pos hk]
        exact (h u (hk ▸ hu)).directory q es hq
      · rw [if_neg hk]
        exact ⟨es, hq⟩
  file q c hq := by
    cases q with
    | nil => cases hq
    | cons k q =>
      rw [at?_cons] at hq ⊢
      rw [lookup_putEntry]
      by_cases hk : k = name
      · obtain ⟨u, hu, hq⟩ := Option.bind_eq_some_iff.mp hq
        obtain ⟨c', hc', hne⟩ := (h u (hk ▸ hu)).file q c hq
        rw [if_pos hk]
        exact ⟨c', hc', fun hP => hne (hk ▸ hP)⟩
      · rw [if_neg hk]
        exact ⟨c, hq, fun _ => rfl⟩
  link q target := by
    cases q with
    | nil => simp [at?]
    | cons k q =>
      rw [at?_cons, at?_cons, lookup_putEntry]
      by_cases hk : k = name
      · rw [if_pos hk, hk]
        cases hu : entries.lookup name with
        | none => simpa using hnew hu q target
        | some u => exact (h u hu).link q target
      · rw [if_neg hk]

theorem put_cons {name : RawText} {p : List RawText} {u new : Tree}
    {entries : List (RawText × Tree)} (h : entries.lookup name = some u) :
    (directory entries).put (name :: p) new = directory (putEntry name (u.put p new) entries) := by
  cases p with
  | nil => simp [put]
  | cons => simp [put, h]

theorem exists_of_at?_cons {name : RawText} {p : List RawText} {u : Tree}
    (h : t.at? (name :: p) = some u) :
    ∃ entries v, t = directory entries ∧ entries.lookup name = some v ∧ v.at? p = some u := by
  cases t with
  | directory entries =>
    obtain ⟨v, hv, hu⟩ := Option.bind_eq_some_iff.mp h
    exact ⟨entries, v, rfl, hv, hu⟩
  | file _ => cases h
  | link _ => cases h

/-- **A file put in place of another one.** -/
theorem extends_put_file {p : List RawText} (hP : P p) {c : ByteArray} (c' : ByteArray)
    (h : t.at? p = some (file c)) : Extends P t (t.put p (file c')) := by
  induction p generalizing t P with
  | nil =>
    cases h
    rw [put]
    exact extends_file hP c c'
  | cons name p ih =>
    obtain ⟨entries, u, rfl, hu, hp⟩ := exists_of_at?_cons h
    rw [put_cons hu]
    refine extends_putEntry (fun v hv => ?_) fun hnone => by rw [hu] at hnone; cases hnone
    rw [hu] at hv
    cases hv
    exact ih hP hp

/-- **A file or an empty directory put where there is nothing.** -/
theorem extends_put_vacant {d : List RawText} {name : RawText} {new : Tree}
    {entries : List (RawText × Tree)} (h : t.at? d = some (directory entries))
    (hnone : entries.lookup name = none) (hnew : ∀ q target, new.at? q ≠ some (link target)) :
    Extends P t (t.put (d ++ [name]) new) := by
  induction d generalizing t P with
  | nil =>
    cases h
    rw [List.nil_append, put]
    exact extends_putEntry (fun u hu => by rw [hu] at hnone; cases hnone) fun _ => hnew
  | cons k d ih =>
    obtain ⟨es, u, rfl, hu, hd⟩ := exists_of_at?_cons h
    rw [List.cons_append, put_cons hu]
    refine extends_putEntry (fun v hv => ?_) fun hk => by rw [hu] at hk; cases hk
    rw [hu] at hv
    cases hv
    exact ih hd

theorem at?_file_ne_link (c : ByteArray) (q : List RawText) (target : RawText) :
    (file c).at? q ≠ some (link target) := by
  cases q <;> simp [at?]

theorem at?_empty_ne_link (q : List RawText) (target : RawText) :
    (directory []).at? q ≠ some (link target) := by
  cases q <;> simp [at?]

/-! ### Following names -/

/-- The place of a destination, be there something or not. -/
def Destination.place : Destination → List RawText
  | existing place _ => place
  | vacant d name => d ++ [name]

/-- A name that stands for an entry. -/
def IsPlain (name : RawText) : Prop := name ≠ "" ∧ name ≠ "." ∧ name ≠ ".."

theorem follow_append {top : Tree} {links left : ℕ} {here a place : List RawText}
    (h : top.follow links here a = .ok (.existing place left)) (b : List RawText) :
    top.follow links here (a ++ b) = top.follow left place b := by
  fun_induction follow top links here a <;> grind [follow]

theorem vacant_of_follow {top : Tree} {links : ℕ} {here a d : List RawText} {name : RawText}
    (h : top.follow links here a = .ok (.vacant d name)) :
    ∃ entries, top.at? d = some (directory entries) ∧ entries.lookup name = none := by
  fun_induction follow top links here a <;> grind

theorem exists_lookup_of_extends (h : Extends P t t') {here : List RawText} {name : RawText}
    {entries : List (RawText × Tree)} {u : Tree} (hhere : t.at? here = some (directory entries))
    (hu : entries.lookup name = some u) (hlink : ∀ target, u ≠ link target) :
    ∃ es' v, t'.at? here = some (directory es') ∧ es'.lookup name = some v ∧
      ∀ target, v ≠ link target := by
  obtain ⟨es', hes'⟩ := h.directory here entries hhere
  rw [← at?_snoc hhere] at hu
  cases u with
  | directory es =>
    obtain ⟨fs, hfs⟩ := h.directory _ es hu
    exact ⟨es', _, hes', (at?_snoc hes').symm.trans hfs, fun _ heq => by cases heq⟩
  | file c =>
    obtain ⟨c', hc', -⟩ := h.file _ c hu
    exact ⟨es', _, hes', (at?_snoc hes').symm.trans hc', fun _ heq => by cases heq⟩
  | link target => exact absurd rfl (hlink target)

/-- In an extended tree names lead where they led before, also if there is something now where there
was nothing. -/
theorem exists_follow_of_extends (h : Extends P t t') {links : ℕ} {here a : List RawText}
    {dest : Destination} (hf : t.follow links here a = .ok dest)
    (hnew : ∀ d name, dest = .vacant d name →
      ∃ u, t'.at? (d ++ [name]) = some u ∧ ∀ target, u ≠ link target) :
    ∃ left, t'.follow links here a = .ok (.existing dest.place left) ∧
      ∀ place k, dest = .existing place k → left = k := by
  fun_induction follow t links here a with
  | case1 links here =>
    cases hf
    refine ⟨links, by rw [follow]; rfl, ?_⟩
    rintro place k ⟨⟩
    rfl
  | case2 links here name rest entries hhere hskip ih =>
    obtain ⟨es', hes'⟩ := h.directory here entries hhere
    rw [follow, hes']
    simp only [if_pos hskip]
    exact ih hf
  | case3 links here rest entries hhere hskip ih =>
    obtain ⟨es', hes'⟩ := h.directory here entries hhere
    rw [follow, hes']
    simp only [if_neg hskip, if_true]
    exact ih hf
  | case4 => cases hf
  | case5 links here name entries hhere hskip hup hvalid hnone =>
    cases hf
    obtain ⟨es', hes'⟩ := h.directory here entries hhere
    obtain ⟨u, hu, hulink⟩ := hnew here name rfl
    rw [at?_snoc hes'] at hu
    refine ⟨links, ?_, fun place k heq => by cases heq⟩
    rw [follow, hes']
    simp only [if_neg hskip, if_neg hup, if_neg hvalid, hu]
    cases u with
    | directory es => rw [follow]; rfl
    | file c => rw [follow]; rfl
    | link target => exact absurd rfl (hulink target)
  | case6 => cases hf
  | case7 => cases hf
  | case8 here name rest entries hhere hskip hup hvalid target htarget links ih =>
    obtain ⟨es', hes'⟩ := h.directory here entries hhere
    have hlink := (h.link (here ++ [name]) target).mp ((at?_snoc hhere).trans htarget)
    rw [at?_snoc hes'] at hlink
    rw [follow, hes']
    simp only [if_neg hskip, if_neg hup, if_neg hvalid, hlink]
    exact ih hf
  | case9 links here name rest entries hhere hskip hup hvalid u hlink hu ih =>
    obtain ⟨es', v, hes', hv, hvlink⟩ := exists_lookup_of_extends h hhere hu hlink
    rw [follow, hes']
    simp only [if_neg hskip, if_neg hup, if_neg hvalid, hv]
    cases v with
    | directory es => exact ih hf
    | file c => exact ih hf
    | link target => exact absurd rfl (hvlink target)
  | case10 => cases hf

/-- **In an extended tree** names lead where they led before. -/
theorem follow_of_extends (h : Extends P t t') {links left : ℕ} {here a place : List RawText}
    (hf : t.follow links here a = .ok (.existing place left)) :
    t'.follow links here a = .ok (.existing place left) := by
  obtain ⟨k, hk, hsame⟩ := exists_follow_of_extends h hf fun d name heq => by cases heq
  rw [hk, hsame place left rfl]
  rfl

/-- **Names without links on the way** lead to the place that they spell. -/
theorem place_of_follow {top : Tree} {links : ℕ} {here a : List RawText} {dest : Destination}
    (hplain : ∀ name ∈ a, IsPlain name)
    (hlinks : ∀ q target, top.at? (here ++ q) ≠ some (link target))
    (h : top.follow links here a = .ok dest) : dest.place = here ++ a := by
  fun_induction follow top links here a with
  | case1 links here =>
    cases h
    exact (List.append_nil here).symm
  | case2 links here name rest entries hhere hskip ih =>
    obtain ⟨hempty, hdot, -⟩ := hplain name List.mem_cons_self
    exact absurd hskip (not_or.mpr ⟨hempty, hdot⟩)
  | case3 links here rest entries hhere hskip ih =>
    exact absurd rfl (hplain ".." List.mem_cons_self).2.2
  | case4 => cases h
  | case5 links here name =>
    cases h
    rfl
  | case6 => cases h
  | case7 => cases h
  | case8 here name rest entries hhere hskip hup hvalid target htarget =>
    exact absurd ((at?_snoc hhere).trans htarget) (hlinks [name] target)
  | case9 links here name rest entries hhere hskip hup hvalid u hlink hu ih =>
    have hrest := ih (fun n hn => hplain n (List.mem_cons_of_mem _ hn))
      (fun q target => by rw [List.append_assoc]; exact hlinks ([name] ++ q) target) h
    rw [hrest, List.append_assoc]
    rfl
  | case10 => cases h

/-- They lead there only if none of them is too long. -/
theorem isValidName_of_follow {top : Tree} {links : ℕ} {here a : List RawText} {dest : Destination}
    (hplain : ∀ name ∈ a, IsPlain name)
    (hlinks : ∀ q target, top.at? (here ++ q) ≠ some (link target))
    (h : top.follow links here a = .ok dest) : ∀ name ∈ a, isValidName name = true := by
  fun_induction follow top links here a with
  | case1 links here => exact fun _ hn => absurd hn List.not_mem_nil
  | case2 links here name rest entries hhere hskip ih =>
    obtain ⟨hempty, hdot, -⟩ := hplain name List.mem_cons_self
    exact absurd hskip (not_or.mpr ⟨hempty, hdot⟩)
  | case3 links here rest entries hhere hskip ih =>
    exact absurd rfl (hplain ".." List.mem_cons_self).2.2
  | case4 => cases h
  | case5 links here name entries hhere hskip hup hvalid =>
    rw [List.forall_mem_singleton]
    simpa using hvalid
  | case6 => cases h
  | case7 => cases h
  | case8 here name rest entries hhere hskip hup hvalid target htarget =>
    exact absurd ((at?_snoc hhere).trans htarget) (hlinks [name] target)
  | case9 links here name rest entries hhere hskip hup hvalid u hlink hu ih =>
    rw [List.forall_mem_cons]
    refine ⟨by simpa using hvalid, ih (fun n hn => hplain n (List.mem_cons_of_mem _ hn))
      (fun q target => ?_) h⟩
    rw [List.append_assoc]
    exact hlinks ([name] ++ q) target
  | case10 => cases h

/-! ### Reading and walking -/

theorem findWithin_eq_ok {top : Tree} {links : ℕ} {here names : List RawText} {found : Found} :
    top.findWithin links here names = .ok found ↔
      top.follow links here names = .ok (.existing found.place found.links) ∧
        top.at? found.place = some found.tree := by
  unfold findWithin
  constructor
  · intro h
    split at h
    · next place left hfollow =>
      split at h
      · next tree htree =>
        cases h
        exact ⟨hfollow, htree⟩
      · cases h
    · cases h
    · cases h
  · rintro ⟨hfollow, htree⟩
    simp only [hfollow, htree]

theorem find_eq_ok {top : Tree} {here names : List RawText} {found : Found} :
    top.find here names = .ok found ↔
      top.follow linkLimit here names = .ok (.existing found.place found.links) ∧
        top.at? found.place = some found.tree :=
  findWithin_eq_ok

theorem read_eq_ok {top : Tree} {here names : List RawText} {c : ByteArray} :
    top.read here names = .ok c ↔
      ∃ place left, top.follow linkLimit here names = .ok (.existing place left) ∧
        top.at? place = some (file c) := by
  unfold read
  constructor
  · intro h
    split at h
    · next place old left hfind =>
      cases h
      exact ⟨place, left, find_eq_ok.mp hfind⟩
    · cases h
    · cases h
  · rintro ⟨place, left, h⟩
    have hfind : top.find here names = .ok ⟨place, file c, left⟩ := find_eq_ok.mpr h
    rw [hfind]

theorem ne_nil_of_mem_filesOf {top : Tree} {links size : ℕ} {here way : List RawText}
    {entries : List (RawText × Tree)} {ways : List (List RawText)}
    (h : filesOf top links size here entries = .ok ways) (hway : way ∈ ways) : way ≠ [] := by
  induction entries generalizing ways with
  | nil =>
    rw [filesOf] at h
    cases h
    cases hway
  | cons e rest ih =>
    have hrest : ∀ below : List (List RawText), (do
        let others ← filesOf top links size here rest
        return below.map (e.1 :: ·) ++ others) = Except.ok ways → way ≠ [] := by
      intro below h
      obtain ⟨others, hothers, h⟩ := except_bind_eq_ok.mp h
      cases h
      rcases List.mem_append.mp hway with hbelow | hway
      · obtain ⟨w, -, rfl⟩ := List.mem_map.mp hbelow
        exact List.cons_ne_nil _ w
      · exact ih hothers hway
    unfold filesOf at h
    dsimp only at h
    split at h
    · cases h
    · split at h
      · split at h
        · obtain ⟨below, -, h⟩ := except_bind_eq_ok.mp h
          exact hrest below h
        · cases h
      · cases h
    · obtain ⟨below, -, h⟩ := except_bind_eq_ok.mp h
      exact hrest below h

theorem ne_nil_of_mem_files {top : Tree} {links size : ℕ} {here way : List RawText}
    {entries : List (RawText × Tree)} {ways : List (List RawText)}
    (h : files top links size here (directory entries) = .ok ways) (hway : way ∈ ways) :
    way ≠ [] := by
  rw [files] at h
  split at h
  · exact ne_nil_of_mem_filesOf h hway
  · cases h

/-! ### Writing -/

/-- **Making directories** extends a tree, also if not all of them can be made. -/
theorem extends_makeDirectories {names : List RawText} {top top' : Tree} {links : ℕ}
    {here : List RawText} {made : Except Fault (List RawText)}
    (h : top.makeDirectories links here names = (made, top')) : Extends P top top' := by
  induction names generalizing top links here with
  | nil =>
    cases h
    exact Extends.refl P _
  | cons name rest ih =>
    unfold makeDirectories at h
    split at h
    · split at h
      · exact ih h
      · cases h
        exact Extends.refl P _
    · next d new hfollow =>
      split at h
      · next heq =>
        rw [heq.1, heq.2] at hfollow
        obtain ⟨entries, hentries, hnone⟩ := vacant_of_follow hfollow
        exact (extends_put_vacant hentries hnone at?_empty_ne_link).trans (ih h)
      · cases h
        exact Extends.refl P _
    · cases h
      exact Extends.refl P _

/-- **Writing a file** extends a tree up to the place of the file. -/
theorem extends_write {top top' : Tree} {here names : List RawText} {c : ByteArray}
    (h : top.write here names c = .ok top') :
    ∃ dest, top.follow linkLimit here names = .ok dest ∧ Extends (· = dest.place) top top' := by
  unfold write at h
  split at h
  · next place left hfollow =>
    split at h
    · next old hold =>
      cases h
      exact ⟨_, hfollow, extends_put_file (P := (· = place)) rfl c hold⟩
    · cases h
  · next d name hfollow =>
    obtain ⟨entries, hentries, hnone⟩ := vacant_of_follow hfollow
    cases h
    exact ⟨_, hfollow, extends_put_vacant hentries hnone (at?_file_ne_link c)⟩
  · cases h

end OfflineManifest.Tree
