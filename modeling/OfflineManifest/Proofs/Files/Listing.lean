import Mathlib.Data.List.Sort
import OfflineManifest.Proofs.Files.Growth
import OfflineManifest.Proofs.Files.Path

/-! # Listings of plain sites

A site is plain if there are only files and directories below its directory. The listing of a plain
site has the canonical path of each file (`list_eq_ok_iff`, `mem_listing_iff`), and each path once
if the names of the files are texts (`nodup_listing`). The listing fails if the path of a directory
is too long (`walked_le_iff`, `fits_of_shown`). After a write there is one more path in it, or none
(`exists_list_of_writeBytes`). -/

namespace OfflineManifest

namespace Tree

/-- The names on the ways to the files of a tree are texts. -/
def HasTexts (t : Tree) : Prop := ∀ way c, t.at? way = some (file c) → ∀ name ∈ way, name.IsText

end Tree

namespace Site

variable {s t : Site} {f path : String} {names way : List RawText} {bytes : ByteArray}

/-- A plain tree is walked through if the paths of its directories are not too long. -/
theorem fits_of_shown {t : Tree} (hplain : t.Plain)
    (hdirectories : ∀ way es, t.at? way = some (.directory es) →
      (s.shown way).size ≤ Tree.pathLimit) :
    Tree.Fits (s.walked []) t := by
  intro way es hway
  have hnames := hplain.isName hway
  rw [← walked_append s [] hnames, List.nil_append]
  cases way with
  | nil =>
    have hroot : (s.shown []).size ≤ Tree.pathLimit := hdirectories [] es hway
    have hslash := (size_extend_empty (s.shown [])).2
    unfold walked
    omega
  | cons name way =>
    rw [walked_le_iff s hnames (List.cons_ne_nil name way)]
    exact hdirectories _ es hway

theorem isName_dropLast (h : ∀ name ∈ names, Tree.IsName name) :
    ∀ name ∈ names.dropLast, Tree.IsName name :=
  fun name hname => h name (List.dropLast_subset names hname)

/-! ### Listings -/

/-- **A site of files and directories.** -/
def Plain (s : Site) : Prop := ∀ found, s.directory? [] = some found → found.tree.Plain

theorem Plain.linkFree (h : s.Plain) : s.LinkFree := fun found hfound => (h found hfound).ne_link

section Listings

variable {found : Tree.Found} {listed : List String}

/-- **The listing of a plain site.** -/
theorem list_eq_ok_iff (hfound : s.directory? [] = some found) (hplain : found.tree.Plain) :
    s.list "/" = .ok listed ↔
      listed = (found.tree.ways.map url).mergeSort ∧ Tree.Fits (s.walked []) found.tree := by
  have hroot : locate "/" = .ok [] := by decide
  rw [list_eq_ok]
  constructor
  · rintro ⟨names, found', ways, hnames, hfound', hways, rfl⟩
    cases hroot.symm.trans hnames
    cases hfound.symm.trans hfound'
    obtain ⟨rfl, hfits⟩ := (Tree.files_eq_ok hplain).mp hways
    exact ⟨rfl, hfits⟩
  · rintro ⟨rfl, hfits⟩
    exact ⟨[], found, _, hroot, hfound, (Tree.files_eq_ok hplain).mpr ⟨rfl, hfits⟩, rfl⟩

theorem mem_listing_iff (hplain : found.tree.Plain) :
    f ∈ (found.tree.ways.map url).mergeSort ↔
      ∃ way c, found.tree.at? way = some (.file c) ∧ url way = f := by
  rw [List.mem_mergeSort, List.mem_map]
  refine exists_congr fun way => ?_
  rw [Tree.mem_ways_iff hplain, exists_and_right]

theorem nodup_listing (hplain : found.tree.Plain) (htexts : found.tree.HasTexts) :
    (found.tree.ways.map url).mergeSort.Nodup := by
  rw [(List.mergeSort_perm _ _).nodup_iff]
  refine (Tree.nodup_ways hplain).map_on fun way hway other hother h => ?_
  obtain ⟨c, hc⟩ := (Tree.mem_ways_iff hplain).mp hway
  obtain ⟨d, hd⟩ := (Tree.mem_ways_iff hplain).mp hother
  exact url_inj (hplain.isName hc) (hplain.isName hd) (htexts way c hc) (htexts other d hd) h

theorem sortedLT_listing (hplain : found.tree.Plain) (htexts : found.tree.HasTexts) :
    (found.tree.ways.map url).mergeSort.SortedLT :=
  List.sortedLE_mergeSort.sortedLT_of_nodup (nodup_listing hplain htexts)

theorem list_eq_error (hfound : s.directory? [] = some found) (hplain : found.tree.Plain)
    (h : ¬ Tree.Fits (s.walked []) found.tree) :
    s.list "/" = .error (.walk s.root.lossy Tree.Fault.invalidName.message) := by
  have hroot : locate "/" = .ok [] := by decide
  have hshown : s.shown [] = s.root := rfl
  unfold list
  rw [hroot, ← hshown]
  simp only [Bind.bind, Except.bind, hfound]
  cases hways : s.tree.files found.links (s.walked []) found.place found.tree with
  | ok ways => exact absurd ((Tree.files_eq_ok hplain).mp hways).2 h
  | error fault =>
    obtain rfl := Tree.eq_of_files_eq_error hplain hways
    rfl

/-! ### Reading -/

/-- **What can be read of a plain site**: the files whose paths the system takes. -/
theorem contents_eq_ok_iff (hfound : s.directory? [] = some found) (hplain : found.tree.Plain) :
    s.contents f = .ok bytes ↔ ∃ names, locate f = .ok names ∧
      (∀ name ∈ names, Tree.isValidName name = true) ∧ checkPath (s.shown names) = .ok () ∧
      found.tree.at? names = some (.file bytes) := by
  obtain ⟨hfollow, htree⟩ := follow_of_directory? hfound
  have hat : ∀ names, s.tree.at? (found.place ++ names) = found.tree.at? names := fun names => by
    rw [Tree.at?_append, htree, Option.bind_some]
  rw [contents_eq_ok]
  refine exists_congr fun names => and_congr_right fun hnames => ?_
  rw [and_left_comm]
  refine and_congr_right fun _ => ?_
  rw [Tree.read_eq_ok, Tree.follow_append hfollow, ← hat]
  constructor
  · rintro ⟨place, left, hnamed, hfile⟩
    have hlinks : ∀ q target, s.tree.at? (found.place ++ q) ≠ some (.link target) :=
      fun q target => by
        rw [hat]
        exact hplain.ne_link q target
    obtain rfl : place = found.place ++ names :=
      Tree.place_of_follow (isPlain_of_locate hnames) hlinks hnamed
    exact ⟨Tree.isValidName_of_follow (isPlain_of_locate hnames) hlinks hnamed, hfile⟩
  · rintro ⟨hvalid, hfile⟩
    have hbelow := (hat names).symm.trans hfile
    exact ⟨_, found.links, Tree.follow_of_plain hplain htree hvalid hbelow, hfile⟩

/-! ### Listings after a write -/

section Added

variable {P Q F : List RawText → Prop} {tree u : Tree}

/-- In a tree that was extended, the directory is found where it was. -/
theorem directory?_of_extends (hfound : s.directory? [] = some found) (hext : s.tree.Extends P tree)
    (hu : tree.at? found.place = some u) (hPQ : ∀ q, P (found.place ++ q) → Q q) :
    Site.directory? { s with tree } [] = some ⟨found.place, u, found.links⟩ ∧
      found.tree.Extends Q u := by
  obtain ⟨hpath, -, entries, hentries⟩ := directory?_eq_some.mp hfound
  obtain ⟨hfollow, htree⟩ := follow_of_directory? hfound
  have hall : found.tree.Extends Q u := hext.below htree hu hPQ
  obtain ⟨es, hes⟩ := hall.directory [] entries (congrArg some hentries)
  refine ⟨directory?_eq_some.mpr ⟨hpath, ?_, es, Option.some.inj hes⟩, hall⟩
  rw [List.append_nil, Tree.find_eq_ok]
  exact ⟨Tree.follow_of_extends hext hfollow, hu⟩

/-- **Making directories** below a plain one adds those on the way, or some of them. -/
theorem exists_of_made {made : Except FileError Unit} (hplain : s.Plain)
    (hfound : s.directory? [] = some found) (hnames : ∀ name ∈ names, Tree.IsName name)
    (h : s.makeDirectories names = (made, tree)) :
    ∃ u, tree.at? found.place = some u ∧ u.Plain ∧
      found.tree.Adds (fun _ => False) (· <+: names.dropLast) u := by
  obtain ⟨-, entries, hentries⟩ := exists_of_directory? hfound
  obtain ⟨hfollow, htree⟩ := follow_of_directory? hfound
  have hdirectory : s.tree.at? found.place = some (.directory entries) :=
    htree.trans (congrArg some hentries)
  have htop : found.tree.at? [] = some (.directory entries) := congrArg some hentries
  have hsame : tree = s.tree → ∃ u, tree.at? found.place = some u ∧ u.Plain ∧
      found.tree.Adds (fun _ => False) (· <+: names.dropLast) u := by
    rintro rfl
    exact ⟨found.tree, htree, hplain found hfound, .refl _ _ _⟩
  rcases makeDirectories_cases h with heq | ⟨above, made', -, -, hmade⟩
  · exact hsame heq
  by_cases hne : names = []
  -- what leads to the directory is there already
  · rw [hne, List.append_nil] at hmade
    obtain ⟨behind, hbehind⟩ : leading s.names <+: s.names := leading_prefix s.names
    rw [← hbehind] at hfollow
    obtain ⟨place, left, hleading, hrest⟩ := Tree.exists_follow_append hfollow
    obtain ⟨es, hes⟩ := Tree.exists_directory_of_follow hrest hdirectory
    have hnothing := Tree.makeDirectories_append hleading hes []
    rw [List.append_nil, hmade, Tree.makeDirectories] at hnothing
    exact hsame (Prod.mk.inj hnothing).2
  · rw [leading_append s.names hnames hne, Tree.makeDirectories_append hfollow hdirectory,
      ← List.append_nil found.place] at hmade
    exact Tree.exists_of_makeDirectories htree (hplain found hfound) htop
      (isName_dropLast hnames) hmade

/-- **Below a plain directory** a write adds the directories on the way and the file. -/
theorem exists_of_writeBytes (hplain : s.Plain) (hfound : s.directory? [] = some found)
    (hnames : locate path = .ok names) (h : s.writeBytes path bytes = (.ok (), t)) :
    ∃ u, t.directory? [] = some ⟨found.place, u, found.links⟩ ∧ u.Plain ∧
      u.at? names = some (.file bytes) ∧ found.tree.Extends (· = names) u ∧
      found.tree.Adds (· = names) (· <+: names.dropLast) u := by
  obtain ⟨names', tree, tree', hnames', hmade, -, hwritten, rfl⟩ := writeBytes_eq_ok.mp h
  cases hnames.symm.trans hnames'
  obtain ⟨v, hv, hvplain, hvadds⟩ := exists_of_made hplain hfound (isName_of_locate hnames) hmade
  have hext : s.tree.Extends (fun _ => False) tree := extends_of_makeDirectories hmade
  obtain ⟨hfollow, -⟩ := follow_of_directory? hfound
  obtain ⟨u, hu, huplain, hthere, huadds⟩ := Tree.exists_of_write
    (Tree.follow_of_extends hext hfollow) hv hvplain (isName_of_locate hnames) hwritten
  obtain ⟨dest, hdest, hext'⟩ := Tree.extends_write hwritten
  have hplace : dest.place = found.place ++ names :=
    place_of_follow hplain.linkFree hext hfound (isPlain_of_locate hnames) hdest
  have hwhole : s.tree.Extends (· = dest.place) tree' :=
    (extends_of_makeDirectories hmade).trans hext'
  obtain ⟨hdirectory, hall⟩ := directory?_of_extends hfound hwhole hu (Q := (· = names)) <| by
    rw [hplace]
    exact fun q hq => List.append_cancel_left hq
  refine ⟨u, hdirectory, huplain, hthere, hall, ?_⟩
  exact (hvadds.mono (fun _ h => h.elim) fun _ h => h).trans
    (huadds.mono (fun _ h => h) fun _ h => h.elim)

/-- A directory whose path is not too long is walked through. -/
theorem walked_le_of_size (hfound : s.directory? [] = some found)
    (hfits : Tree.Fits (s.walked []) found.tree) (hnames : ∀ name ∈ names, Tree.IsName name)
    (hsize : (s.shown names).size ≤ Tree.pathLimit) :
    s.walked [] + Tree.waySize names ≤ Tree.pathLimit + 1 := by
  rw [← walked_append s [] hnames, List.nil_append]
  by_cases hne : names = []
  · obtain ⟨-, entries, hentries⟩ := exists_of_directory? hfound
    rw [hne]
    exact hfits [] entries (congrArg some hentries)
  · exact (walked_le_iff s hnames hne).mpr hsize

/-- What fits still fits with directories on a way whose path is not too long. -/
theorem fits_of_adds (hfound : s.directory? [] = some found)
    (hnames : ∀ name ∈ names, Tree.IsName name) (hsize : (s.shown names).size ≤ Tree.pathLimit)
    (hadds : found.tree.Adds F (· <+: names) u) (hfits : Tree.Fits (s.walked []) found.tree) :
    Tree.Fits (s.walked []) u := by
  intro q es hq
  rcases hadds.directory q es hq with hprefix | ⟨es', hq'⟩
  · have hprefixSize := waySize_le_of_prefix hprefix
    have hwalked := walked_le_of_size hfound hfits hnames hsize
    omega
  · exact hfits q es' hq'

end Added

/-- The directory of a file that was written has a path that is not too long. -/
theorem size_above_le_of_writeBytes (hnames : locate path = .ok names)
    (h : s.writeBytes path bytes = (.ok (), t)) :
    (s.shown names.dropLast).size ≤ Tree.pathLimit := by
  obtain ⟨names', tree, tree', hnames', -, hpath, -⟩ := writeBytes_eq_ok.mp h
  cases hnames.symm.trans hnames'
  exact (size_shown_dropLast_le s names).trans (size_le_of_checkPath hpath)

/-- **The listing after a write** has the path of the file, besides those that it had. -/
theorem exists_list_of_writeBytes (hplain : s.Plain) (hlist : s.list "/" = .ok listed)
    (hnames : locate path = .ok names) (h : s.writeBytes path bytes = (.ok (), t)) :
    ∃ listed', t.list "/" = .ok listed' ∧ ∀ f, f ∈ listed' ↔ f ∈ listed ∨ f = url names := by
  obtain ⟨found, hfound⟩ := exists_directory?_of_list hlist
  obtain ⟨u, hu, huplain, hthere, hext, hadds⟩ := exists_of_writeBytes hplain hfound hnames h
  have hfoundPlain := hplain found hfound
  obtain ⟨rfl, hfits⟩ := (list_eq_ok_iff hfound hfoundPlain).mp hlist
  have hname := isName_dropLast (isName_of_locate hnames)
  have hfits' : Tree.Fits (s.walked []) u :=
    fits_of_adds hfound hname (size_above_le_of_writeBytes hnames h) hadds hfits
  obtain ⟨names', tree, tree', hnames', -, -, -, rfl⟩ := writeBytes_eq_ok.mp h
  refine ⟨_, (list_eq_ok_iff hu huplain).mpr ⟨rfl, hfits'⟩, fun f => ?_⟩
  rw [mem_listing_iff huplain, mem_listing_iff hfoundPlain]
  constructor
  · rintro ⟨way, c, hc, rfl⟩
    rcases hadds.file way c hc with rfl | ⟨c', hc'⟩
    · exact Or.inr rfl
    · exact Or.inl ⟨way, c', hc', rfl⟩
  · rintro (⟨way, c, hc, rfl⟩ | rfl)
    · obtain ⟨c', hc', -⟩ := hext.file way c hc
      exact ⟨way, c', hc', rfl⟩
    · exact ⟨names, bytes, hthere, rfl⟩

end Listings

end Site

end OfflineManifest
