import OfflineManifest.Proofs.Files.Rewriting
import OfflineManifest.Proofs.Files.Walk

/-! # What a write adds

In a tree that has got something at a place, only that is new (`Tree.adds_put`), and a plain tree
stays plain (`Tree.plain_put`). So below a plain directory a write adds the directories on the way
and the file, and nothing else (`Tree.exists_of_makeDirectories`, `Tree.exists_of_write`). -/

namespace OfflineManifest.Tree

/-- **Only files and directories at some places** are new in a tree. -/
structure Adds (F D : List RawText → Prop) (t t' : Tree) : Prop where
  file : ∀ q c, t'.at? q = some (file c) → F q ∨ ∃ c', t.at? q = some (file c')
  directory : ∀ q es, t'.at? q = some (directory es) →
    D q ∨ ∃ es', t.at? q = some (directory es')

variable {F D : List RawText → Prop} {t t' t'' u new : Tree} {name : RawText}
  {entries : List (RawText × Tree)} {p : List RawText}

theorem Adds.refl (F D : List RawText → Prop) (t : Tree) : Adds F D t t :=
  ⟨fun _ c h => Or.inr ⟨c, h⟩, fun _ es h => Or.inr ⟨es, h⟩⟩

theorem Adds.trans (h : Adds F D t t') (h' : Adds F D t' t'') : Adds F D t t'' where
  file q c hq := by
    rcases h'.file q c hq with hF | ⟨c', hq'⟩
    · exact Or.inl hF
    · exact h.file q c' hq'
  directory q es hq := by
    rcases h'.directory q es hq with hD | ⟨es', hq'⟩
    · exact Or.inl hD
    · exact h.directory q es' hq'

theorem Adds.mono {F' D' : List RawText → Prop} (h : Adds F D t t') (hF : ∀ q, F q → F' q)
    (hD : ∀ q, D q → D' q) : Adds F' D' t t' :=
  ⟨fun q c hq => (h.file q c hq).imp_left (hF q),
    fun q es hq => (h.directory q es hq).imp_left (hD q)⟩

/-- What extends a tree extends what is below a place in it. -/
theorem Extends.below {P Q : List RawText → Prop} {u' : Tree} (h : Extends P t t')
    (hu : t.at? p = some u) (hu' : t'.at? p = some u') (hPQ : ∀ q, P (p ++ q) → Q q) :
    Extends Q u u' := by
  have hat : ∀ q, t.at? (p ++ q) = u.at? q := fun q => by rw [at?_append, hu, Option.bind_some]
  have hat' : ∀ q, t'.at? (p ++ q) = u'.at? q := fun q => by
    rw [at?_append, hu', Option.bind_some]
  refine ⟨fun q es hq => ?_, fun q c hq => ?_, fun q target => ?_⟩
  · rw [← hat] at hq
    rw [← hat']
    exact h.directory (p ++ q) es hq
  · rw [← hat] at hq
    obtain ⟨c', hc', hsame⟩ := h.file (p ++ q) c hq
    rw [hat'] at hc'
    exact ⟨c', hc', fun hQ => hsame fun hP => hQ (hPQ q hP)⟩
  · rw [← hat, ← hat']
    exact h.link (p ++ q) target

/-- **The files at other places** are the same. -/
theorem file_iff_of_extends {q : List RawText} {c : ByteArray} {P : List RawText → Prop}
    (h : Extends P t t') (hadds : Adds P D t t') (hq : ¬ P q) :
    t'.at? q = some (file c) ↔ t.at? q = some (file c) := by
  constructor
  · intro hc
    obtain ⟨c', hc'⟩ := (hadds.file q c hc).resolve_left hq
    obtain ⟨c'', hc'', hsame⟩ := h.file q c' hc'
    obtain rfl := file.inj (Option.some.inj (hc''.symm.trans hc))
    rw [hsame hq, hc']
  · intro hc
    obtain ⟨c', hc', hsame⟩ := h.file q c hc
    rw [hc', hsame hq]

theorem adds_putEntry
    (hfile : ∀ q c, u.at? q = some (file c) →
      F (name :: q) ∨ ∃ c', (directory entries).at? (name :: q) = some (file c'))
    (hdirectory : ∀ q es, u.at? q = some (directory es) →
      D (name :: q) ∨ ∃ es', (directory entries).at? (name :: q) = some (directory es')) :
    Adds F D (directory entries) (directory (putEntry name u entries)) where
  file q c hq := by
    cases q with
    | nil => cases hq
    | cons k q =>
      rw [at?_cons, lookup_putEntry] at hq
      by_cases hk : k = name
      · rw [if_pos hk] at hq
        exact hk ▸ hfile q c hq
      · rw [if_neg hk] at hq
        exact Or.inr ⟨c, hq⟩
  directory q es hq := by
    cases q with
    | nil => exact Or.inr ⟨entries, rfl⟩
    | cons k q =>
      rw [at?_cons, lookup_putEntry] at hq
      by_cases hk : k = name
      · rw [if_pos hk] at hq
        exact hk ▸ hdirectory q es hq
      · rw [if_neg hk] at hq
        exact Or.inr ⟨es, hq⟩

theorem put_cons_of_none (h : entries.lookup name = none) :
    (directory entries).put (name :: p) new =
      if p = [] then directory (putEntry name new entries) else directory entries := by
  cases p with
  | nil => simp [put]
  | cons => simp [put, h]

theorem put_cons_of_not_directory (h : ∀ entries, t ≠ directory entries) :
    t.put (name :: p) new = t := by
  cases t with
  | directory entries => exact absurd rfl (h entries)
  | file c => cases p <;> rfl
  | link target => cases p <;> rfl

/-- **What is put at a place** is all that is new. -/
theorem adds_put (t : Tree) (p : List RawText)
    (hfile : ∀ q c, new.at? q = some (file c) → F (p ++ q))
    (hdirectory : ∀ q es, new.at? q = some (directory es) → D (p ++ q)) :
    Adds F D t (t.put p new) := by
  induction p generalizing t F D with
  | nil => exact ⟨fun q c hq => Or.inl (hfile q c hq), fun q es hq => Or.inl (hdirectory q es hq)⟩
  | cons name p ih =>
    cases t with
    | file c =>
      rw [put_cons_of_not_directory fun _ h => by cases h]
      exact .refl F D _
    | link target =>
      rw [put_cons_of_not_directory fun _ h => by cases h]
      exact .refl F D _
    | directory entries =>
      cases hv : entries.lookup name with
      | none =>
        rw [put_cons_of_none hv]
        by_cases hp : p = []
        · subst hp
          rw [if_pos rfl]
          exact adds_putEntry (fun q c hq => Or.inl (hfile q c hq))
            fun q es hq => Or.inl (hdirectory q es hq)
        · rw [if_neg hp]
          exact .refl F D _
      | some v =>
        have hbelow : Adds (fun q => F (name :: q)) (fun q => D (name :: q)) v (v.put p new) :=
          ih v hfile hdirectory
        have hat : ∀ q, (directory entries).at? (name :: q) = v.at? q := fun q => by
          rw [at?_cons, hv, Option.bind_some]
        rw [put_cons hv]
        refine adds_putEntry (fun q c hq => ?_) fun q es hq => ?_
        · rw [hat]
          exact hbelow.file q c hq
        · rw [hat]
          exact hbelow.directory q es hq

/-! ### Plain trees -/

theorem names_putEntry (name : RawText) (u : Tree) (entries : List (RawText × Tree)) :
    (putEntry name u entries).map Prod.fst =
      if name ∈ entries.map Prod.fst then entries.map Prod.fst
      else entries.map Prod.fst ++ [name] := by
  induction entries with
  | nil => rfl
  | cons e rest ih =>
    unfold putEntry
    by_cases h : e.1 = name
    · rw [if_pos h, if_pos (by rw [List.map_cons, h]; exact List.mem_cons_self)]
      rfl
    · rw [if_neg h, List.map_cons, ih, List.map_cons]
      by_cases hmem : name ∈ rest.map Prod.fst
      · rw [if_pos hmem, if_pos (List.mem_cons_of_mem _ hmem)]
      · have hnot : name ∉ e.1 :: rest.map Prod.fst := fun hin =>
          (List.mem_cons.mp hin).elim (Ne.symm h) hmem
        rw [if_neg hmem, if_neg hnot, List.cons_append]

theorem mem_of_mem_putEntry {e : RawText × Tree} (h : e ∈ putEntry name u entries) :
    e = (name, u) ∨ e ∈ entries := by
  induction entries with
  | nil => exact Or.inl (List.mem_singleton.mp h)
  | cons d rest ih =>
    unfold putEntry at h
    by_cases hd : d.1 = name
    · rw [if_pos hd, hd] at h
      exact (List.mem_cons.mp h).imp_right (List.mem_cons_of_mem d)
    · rw [if_neg hd] at h
      rcases List.mem_cons.mp h with rfl | h
      · exact Or.inr List.mem_cons_self
      · exact (ih h).imp_right (List.mem_cons_of_mem d)

theorem plain_putEntry (h : (directory entries).Plain) (hname : IsName name) (hu : u.Plain) :
    (directory (putEntry name u entries)).Plain := by
  cases h with
  | directory names nodup below =>
    refine .directory (fun e he => ?_) ?_ fun e he => ?_
    · rcases mem_of_mem_putEntry he with rfl | he
      · exact hname
      · exact names e he
    · rw [names_putEntry]
      by_cases hmem : name ∈ entries.map Prod.fst
      · rwa [if_pos hmem]
      · rw [if_neg hmem, ← List.concat_eq_append]
        exact nodup.concat hmem
    · rcases mem_of_mem_putEntry he with rfl | he
      · exact hu
      · exact below e he

/-- **A plain tree stays plain** with something plain at a place. -/
theorem plain_put (ht : t.Plain) (hp : ∀ name ∈ p, IsName name) (hnew : new.Plain) :
    (t.put p new).Plain := by
  induction p generalizing t with
  | nil => exact hnew
  | cons name p ih =>
    rw [List.forall_mem_cons] at hp
    cases ht with
    | file c =>
      rw [put_cons_of_not_directory fun _ h => by cases h]
      exact .file c
    | @directory entries names nodup below =>
      have hentries : (Tree.directory entries).Plain := .directory names nodup below
      cases hv : entries.lookup name with
      | none =>
        rw [put_cons_of_none hv]
        by_cases hp' : p = []
        · rw [if_pos hp']
          exact plain_putEntry hentries hp.1 hnew
        · rwa [if_neg hp']
      | some v =>
        rw [put_cons hv]
        exact plain_putEntry hentries hp.1 (ih (below _ (mem_of_lookup hv)) hp.2)

/-! ### On a way that is there -/

section Way

variable {top : Tree} {links left : ℕ} {here a b place : List RawText} {es : List (RawText × Tree)}

theorem exists_follow_append (h : top.follow links here (a ++ b) = .ok (.existing place left)) :
    ∃ p k, top.follow links here a = .ok (.existing p k) ∧
      top.follow k p b = .ok (.existing place left) := by
  fun_induction follow top links here a <;> grind [follow]

theorem exists_directory_of_follow (h : top.follow links here a = .ok (.existing place left))
    (hplace : top.at? place = some (directory es)) :
    ∃ fs, top.at? here = some (directory fs) := by
  fun_cases follow top links here a <;> grind [follow]

/-- Directories on a way that is there need not be made. -/
theorem makeDirectories_append (h : top.follow links here a = .ok (.existing place left))
    (hplace : top.at? place = some (directory es)) (b : List RawText) :
    top.makeDirectories links here (a ++ b) = top.makeDirectories left place b := by
  induction a generalizing links here with
  | nil =>
    rw [follow] at h
    cases h
    rfl
  | cons name rest ih =>
    obtain ⟨p, k, hname, hrest⟩ :=
      exists_follow_append (a := [name]) (b := rest) (by rwa [List.singleton_append])
    obtain ⟨fs, hfs⟩ := exists_directory_of_follow hrest hplace
    rw [List.cons_append, makeDirectories, hname]
    simp only [hfs]
    exact ih hrest

end Way

/-! ### Below a plain directory -/

section Below

variable {top top' : Tree} {links : ℕ} {base here a q names : List RawText}
  {es : List (RawText × Tree)} {made : Except Fault (List RawText)}

theorem plain_empty : (directory []).Plain :=
  .directory (fun _ h => absurd h List.not_mem_nil) List.nodup_nil
    fun _ h => absurd h List.not_mem_nil

theorem at?_ne_link_of_plain (hbase : top.at? base = some t) (ht : t.Plain) (q r : List RawText)
    (target : RawText) : top.at? (base ++ q ++ r) ≠ some (link target) := by
  rw [List.append_assoc, at?_append, hbase]
  exact ht.ne_link (q ++ r) target

/-- **Making directories** below a plain one adds those on the way, or some of them. -/
theorem exists_of_makeDirectories (hbase : top.at? base = some t) (ht : t.Plain)
    (hq : t.at? q = some (directory es)) (hnames : ∀ name ∈ names, IsName name)
    (h : top.makeDirectories links (base ++ q) names = (made, top')) :
    ∃ t', top'.at? base = some t' ∧ t'.Plain ∧
      Adds (fun _ => False) (· <+: q ++ names) t t' := by
  induction names generalizing top t q es links with
  | nil =>
    cases h
    exact ⟨t, hbase, ht, .refl _ _ t⟩
  | cons name rest ih =>
    rw [List.forall_mem_cons] at hnames
    have hstep : q ++ name :: rest = q ++ [name] ++ rest := by
      rw [List.append_assoc, List.singleton_append]
    rw [hstep]
    unfold makeDirectories at h
    split at h
    · next d left hfollow =>
      split at h
      -- there are no links below, so a name that is there leads one step down
      · next fs hfs =>
        have hd : d = base ++ q ++ [name] :=
          place_of_follow (fun n hn => List.mem_singleton.mp hn ▸ hnames.1.isPlain)
            (at?_ne_link_of_plain hbase ht q) hfollow
        rw [hd, List.append_assoc] at h hfs
        rw [at?_append, hbase, Option.bind_some] at hfs
        exact ih hbase ht hfs hnames.2 h
      · cases h
        exact ⟨t, hbase, ht, .refl _ _ t⟩
    · next d new hfollow =>
      split at h
      -- a vacant name gets an empty directory, from which the way goes on
      · next heq =>
        have hput := at?_put hbase (q ++ [name]) (directory [])
        rw [← List.append_assoc] at hput
        have hqnames : ∀ n ∈ q ++ [name], IsName n := by
          rw [List.forall_mem_append, List.forall_mem_singleton]
          exact ⟨ht.isName hq, hnames.1⟩
        rw [List.append_assoc base q [name]] at h
        rw [List.append_assoc base q [name]] at hput
        obtain ⟨t', ht', hplain, hadds⟩ := ih hput (plain_put ht hqnames plain_empty)
          (at?_put_snoc hq) hnames.2 h
        refine ⟨t', ht', hplain, .trans (adds_put t _ (fun r c hr => ?_) fun r fs hr => ?_) hadds⟩
        · cases r <;> cases hr
        · cases r with
          | nil =>
            rw [List.append_nil]
            exact List.prefix_append _ _
          | cons => cases hr
      · cases h
        exact ⟨t, hbase, ht, .refl _ _ t⟩
    · cases h
      exact ⟨t, hbase, ht, .refl _ _ t⟩

/-- **Writing a file** below a plain directory adds the file. -/
theorem exists_of_write {c : ByteArray} {left : ℕ}
    (hbase : top.follow linkLimit here a = .ok (.existing base left))
    (ht : top.at? base = some t) (hplain : t.Plain) (hnames : ∀ name ∈ names, IsName name)
    (h : top.write here (a ++ names) c = .ok top') :
    ∃ t', top'.at? base = some t' ∧ t'.Plain ∧ t'.at? names = some (file c) ∧
      Adds (· = names) (fun _ => False) t t' := by
  obtain ⟨dest, hdest, rfl, hthere⟩ := exists_put_of_write h
  rw [follow_append hbase] at hdest
  have hplace : dest.place = base ++ names :=
    place_of_follow (fun n hn => (hnames n hn).isPlain)
      (fun r target => by
        have hlink := at?_ne_link_of_plain ht hplain [] r target
        rwa [List.append_nil] at hlink) hdest
  rw [hplace] at hthere ⊢
  have hput := at?_put ht names (file c)
  rw [at?_append, hput, Option.bind_some] at hthere
  refine ⟨t.put names (file c), hput, plain_put hplain hnames (.file c), hthere, ?_⟩
  refine adds_put t names (fun r d hr => ?_) fun r fs hr => ?_
  · cases r with
    | nil => exact List.append_nil names
    | cons => cases hr
  · cases r <;> cases hr

end Below

end OfflineManifest.Tree
