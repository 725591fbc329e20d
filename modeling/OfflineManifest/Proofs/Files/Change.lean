import OfflineManifest.Proofs.Files.Listing

/-! # What a write can be seen to change

Two plain sites are *alike* but for some names if the same files are at all other names, and if the
one can be walked through where the other one can (`Alike`). They cannot be told apart by reading,
hashing and listing anything else (`Alike.read_iff`, `Alike.hash_iff`, `Alike.list_eq`). After a
write a site is alike but for the names written; if the write fails it is alike altogether, since
all that it may have made by then are directories (`alike_of_writeBytes`,
`alike_of_writeBytes_error`). So a write replaces one file or none (`replaces_of_writeBytes`,
`same_of_writeBytes_error`). -/

namespace OfflineManifest.Site

/-- **Two sites with the same files**, as they are listed, read and hashed. -/
structure Same (s t : Site) : Prop where
  list : t.list "/" = s.list "/"
  read : ∀ f text, t.read f = .ok text ↔ s.read f = .ok text
  hash : ∀ f digest, t.hash f = .ok digest ↔ s.hash f = .ok digest

/-- **A site in which one file was written**, and in which all others are the same. -/
structure Replaces (names : List RawText) (text : String) (s t : Site) : Prop where
  written : t.read (url names) = .ok text
  listed : ∀ listed, t.list "/" = .ok listed → url names ∈ listed
  list : (t.list "/").map (List.filter (· ≠ url names)) =
    (s.list "/").map (List.filter (· ≠ url names))
  read : ∀ f, locate f ≠ .ok names → ∀ text, t.read f = .ok text ↔ s.read f = .ok text
  hash : ∀ f, locate f ≠ .ok names → ∀ digest, t.hash f = .ok digest ↔ s.hash f = .ok digest

/-- **Two plain sites that are alike**, but for what is at some names. -/
structure Alike (P : List RawText → Prop) (s t : Site) (before after : Tree.Found) : Prop where
  source : s.directory? [] = some before
  target : t.directory? [] = some after
  plain_source : before.tree.Plain
  plain_target : after.tree.Plain
  root : t.root = s.root
  file : ∀ names, ¬ P names → ∀ c,
    after.tree.at? names = some (.file c) ↔ before.tree.at? names = some (.file c)
  fits : Tree.Fits (s.walked []) after.tree ↔ Tree.Fits (s.walked []) before.tree

variable {P : List RawText → Prop} {s t : Site} {f path text : String} {bytes : ByteArray}
  {names : List RawText} {before after : Tree.Found}

theorem Same.refl (s : Site) : s.Same s :=
  ⟨rfl, fun _ _ => Iff.rfl, fun _ _ => Iff.rfl⟩

/-! ### Sites that are alike -/

/-- **Listings of trees** with the same files at all ways whose paths are kept. -/
theorem filter_listing_eq {t u : Tree} {keep : String → Bool} (ht : t.Plain) (hu : u.Plain)
    (h : ∀ way, keep (url way) = true → ∀ c,
      t.at? way = some (.file c) ↔ u.at? way = some (.file c)) :
    (t.ways.map url).mergeSort.filter keep = (u.ways.map url).mergeSort.filter keep := by
  have hways : t.ways.filter (keep ∘ url) |>.Perm (u.ways.filter (keep ∘ url)) := by
    rw [List.perm_ext_iff_of_nodup ((Tree.nodup_ways ht).filter _) ((Tree.nodup_ways hu).filter _)]
    intro way
    rw [List.mem_filter, List.mem_filter, Tree.mem_ways_iff ht, Tree.mem_ways_iff hu]
    exact and_congr_left fun hway => exists_congr (h way hway)
  have hperm (l : List String) : (l.mergeSort.filter keep).Perm (l.filter keep) :=
    (List.mergeSort_perm l _).filter keep
  have hsorted (l : List String) : (l.mergeSort.filter keep).SortedLE :=
    (List.sortedLE_mergeSort.pairwise.filter keep).sortedLE
  refine List.Perm.eq_of_sortedLE (hsorted _) (hsorted _) ?_
  refine (hperm _).trans (.trans ?_ (hperm _).symm)
  rw [List.filter_map, List.filter_map]
  exact hways.map url

namespace Alike

theorem shown_eq (h : Alike P s t before after) (names : List RawText) :
    t.shown names = s.shown names := by
  unfold shown
  rw [h.root]

theorem contents_iff (h : Alike P s t before after)
    (hf : ∀ names, locate f = .ok names → ¬ P names) :
    t.contents f = .ok bytes ↔ s.contents f = .ok bytes := by
  rw [contents_eq_ok_iff h.target h.plain_target, contents_eq_ok_iff h.source h.plain_source]
  refine exists_congr fun names => and_congr_right fun hnames => ?_
  rw [h.shown_eq, h.file names (hf names hnames)]

theorem read_iff (h : Alike P s t before after)
    (hf : ∀ names, locate f = .ok names → ¬ P names) :
    t.read f = .ok text ↔ s.read f = .ok text := by
  rw [read_eq_ok, read_eq_ok, h.contents_iff hf]

theorem hash_iff (h : Alike P s t before after)
    (hf : ∀ names, locate f = .ok names → ¬ P names) {digest : String} :
    t.hash f = .ok digest ↔ s.hash f = .ok digest := by
  simp only [hash_eq_ok, h.contents_iff hf]

/-- **Listings of sites that are alike** are the same but for paths that are left out. -/
theorem list_eq (h : Alike P s t before after) (keep : String → Bool)
    (hkeep : ∀ names, keep (url names) = true → ¬ P names) :
    (t.list "/").map (List.filter keep) = (s.list "/").map (List.filter keep) := by
  have hwalked : t.walked [] = s.walked [] := by
    unfold walked
    rw [h.shown_eq]
  by_cases hfits : Tree.Fits (s.walked []) before.tree
  · have hfits' : Tree.Fits (t.walked []) after.tree := hwalked ▸ h.fits.mpr hfits
    rw [(list_eq_ok_iff h.source h.plain_source).mpr ⟨rfl, hfits⟩,
      (list_eq_ok_iff h.target h.plain_target).mpr ⟨rfl, hfits'⟩]
    refine congrArg Except.ok ?_
    exact filter_listing_eq h.plain_target h.plain_source
      fun way hway => h.file way (hkeep way hway)
  · have hnot : ¬ Tree.Fits (t.walked []) after.tree := by
      rw [hwalked]
      exact fun hfits' => hfits (h.fits.mp hfits')
    rw [list_eq_error h.source h.plain_source hfits, list_eq_error h.target h.plain_target hnot,
      h.root]

/-- **What is only more** is alike but for the new files, if the new directories are on a way whose
path is not too long. -/
theorem of_adds {tree u : Tree} (hplain : s.Plain) (hfound : s.directory? [] = some before)
    (hext : before.tree.Extends P u) (hu : u.Plain)
    (hfound' : Site.directory? { s with tree } [] = some ⟨before.place, u, before.links⟩)
    (hnames : ∀ name ∈ names, Tree.IsName name) (hsize : (s.shown names).size ≤ Tree.pathLimit)
    (hadds : before.tree.Adds P (· <+: names) u) :
    Alike P s { s with tree } before ⟨before.place, u, before.links⟩ where
  source := hfound
  target := hfound'
  plain_source := hplain before hfound
  plain_target := hu
  root := rfl
  file _ hq _ := Tree.file_iff_of_extends hext hadds hq
  fits := by
    refine ⟨fun hfits q es hq => ?_, fits_of_adds hfound hnames hsize hadds⟩
    obtain ⟨es', hes'⟩ := hext.directory q es hq
    exact hfits q es' hes'

end Alike

/-! ### Writing -/

/-- **After a write** a site is alike but for the names written, where the file is. -/
theorem alike_of_writeBytes (hplain : s.Plain) (hfound : s.directory? [] = some before)
    (hnames : locate path = .ok names) (h : s.writeBytes path bytes = (.ok (), t)) :
    ∃ after, Alike (· = names) s t before after ∧ after.tree.at? names = some (.file bytes) := by
  obtain ⟨u, hu, huplain, hthere, hext, hadds⟩ := exists_of_writeBytes hplain hfound hnames h
  have hname := isName_dropLast (isName_of_locate hnames)
  have hsize := size_above_le_of_writeBytes hnames h
  obtain ⟨names', tree, tree', hnames', -, -, -, rfl⟩ := writeBytes_eq_ok.mp h
  exact ⟨_, .of_adds hplain hfound hext huplain hu hname hsize hadds, hthere⟩

/-- **How far a write that fails has come**: nothing was done, or directories were made. -/
theorem writeBytes_eq_error {e : FileError} (h : s.writeBytes path bytes = (.error e, t)) :
    t = s ∨ ∃ names made tree, locate path = .ok names ∧
      s.makeDirectories names = (made, tree) ∧ t = { s with tree } := by
  unfold writeBytes at h
  split at h
  · cases h
    exact Or.inl rfl
  · next names hnames =>
    rcases hmade : s.makeDirectories names with ⟨made, tree⟩
    refine Or.inr ⟨names, made, tree, hnames, hmade, ?_⟩
    rw [hmade] at h
    cases made with
    | error e' =>
      cases h
      rfl
    | ok u =>
      dsimp only at h
      split at h
      · cases h
        rfl
      · cases h

/-- Directories are made only on a way whose path is not too long. -/
theorem size_above_le_of_made {made : Except FileError Unit} {tree : Tree}
    (hfound : s.directory? [] = some before) (hnames : ∀ name ∈ names, Tree.IsName name)
    (h : s.makeDirectories names = (made, tree)) :
    tree = s.tree ∨ (s.shown names.dropLast).size ≤ Tree.pathLimit := by
  rcases makeDirectories_cases h with heq | ⟨above, made', habove, hpath, -⟩
  · exact Or.inl heq
  · refine Or.inr (size_le_of_checkPath ?_)
    by_cases hdrop : names.dropLast = []
    · rw [hdrop]
      exact (directory?_eq_some.mp hfound).1
    · have hne : names ≠ [] := by
        rintro rfl
        exact hdrop rfl
      obtain ⟨front, next, rfl⟩ := (List.eq_nil_or_concat' names).resolve_left hne
      rw [List.dropLast_concat] at hdrop ⊢
      obtain ⟨init, name, rfl⟩ := (List.eq_nil_or_concat' front).resolve_left hdrop
      rw [shown_concat, shown_concat, above?_extend (hnames name (by simp)) (hnames next (by simp)),
        ← shown_concat] at habove
      rw [Option.some.inj habove]
      exact hpath

/-- **After a write that failed** a site is alike. -/
theorem alike_of_writeBytes_error {e : FileError} (hplain : s.Plain)
    (hfound : s.directory? [] = some before) (h : s.writeBytes path bytes = (.error e, t)) :
    ∃ after, Alike (fun _ => False) s t before after := by
  have hself : Alike (fun _ => False) s s before before :=
    ⟨hfound, hfound, hplain before hfound, hplain before hfound, rfl, fun _ _ _ => Iff.rfl, Iff.rfl⟩
  rcases writeBytes_eq_error h with rfl | ⟨names, made, tree, hnames, hmade, rfl⟩
  · exact ⟨before, hself⟩
  have hname := isName_of_locate hnames
  rcases size_above_le_of_made hfound hname hmade with rfl | hsize
  · exact ⟨before, hself⟩
  · obtain ⟨u, hu, huplain, hadds⟩ := exists_of_made hplain hfound hname hmade
    have hext : s.tree.Extends (fun _ => False) tree := extends_of_makeDirectories hmade
    obtain ⟨hfound', hext'⟩ :=
      directory?_of_extends hfound hext hu (Q := fun _ => False) fun _ hq => hq
    exact ⟨_, .of_adds hplain hfound hext' huplain hfound' (isName_dropLast hname) hsize hadds⟩

/-- **A write that fails** leaves all files as they are. -/
theorem same_of_writeBytes_error {e : FileError} (hplain : s.Plain)
    (hfound : s.directory? [] = some before) (h : s.writeBytes path bytes = (.error e, t)) :
    s.Same t := by
  obtain ⟨after, halike⟩ := alike_of_writeBytes_error hplain hfound h
  have hall : (List.filter fun _ : String => true) = id := funext List.filter_true
  have hlist := halike.list_eq (fun _ => true) fun _ _ hfalse => hfalse
  refine ⟨?_, fun f text => ?_, fun f digest => ?_⟩
  · rwa [hall, Except.map_id] at hlist
  · exact halike.read_iff fun _ _ hfalse => hfalse
  · exact halike.hash_iff fun _ _ hfalse => hfalse

/-- **A write** replaces one file. -/
theorem replaces_of_writeBytes (hplain : s.Plain) (hfound : s.directory? [] = some before)
    (hnames : locate path = .ok names) (h : s.writeBytes path text.toUTF8 = (.ok (), t)) :
    s.Replaces names text t := by
  obtain ⟨after, halike, hthere⟩ := alike_of_writeBytes hplain hfound hnames h
  have hurl : locate (url names) = .ok names :=
    locate_url_of_texts (isName_of_locate hnames) (isText_of_locate hnames)
  have hother : ∀ f, locate f ≠ .ok names → ∀ names', locate f = .ok names' → names' ≠ names := by
    rintro f hf names' hnames' rfl
    exact hf hnames'
  constructor
  case written =>
    obtain ⟨names', tree, tree', hnames', hmade, hpath, hwritten, rfl⟩ := writeBytes_eq_ok.mp h
    cases hnames.symm.trans hnames'
    obtain ⟨dest, hdest, -⟩ := Tree.extends_write hwritten
    have hext : s.tree.Extends (fun _ => False) tree := extends_of_makeDirectories hmade
    obtain ⟨hbelow, hlinks⟩ := follow_below hplain.linkFree hext hfound hdest
    have hvalid := Tree.isValidName_of_follow (isPlain_of_locate hnames) hlinks hbelow
    rw [read_eq_ok, contents_eq_ok_iff halike.target halike.plain_target]
    exact ⟨names, hurl, hvalid, hpath, hthere⟩
  case listed =>
    intro listed hlisted
    obtain ⟨rfl, -⟩ := (list_eq_ok_iff halike.target halike.plain_target).mp hlisted
    exact (mem_listing_iff halike.plain_target).mpr ⟨names, _, hthere, rfl⟩
  case list =>
    refine halike.list_eq _ fun way hway heq => ?_
    rw [heq] at hway
    exact absurd rfl (of_decide_eq_true hway)
  case read => exact fun f hf text' => halike.read_iff (hother f hf)
  case hash => exact fun f hf digest => halike.hash_iff (hother f hf)

end OfflineManifest.Site
