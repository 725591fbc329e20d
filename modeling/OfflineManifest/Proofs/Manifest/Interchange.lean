import OfflineManifest.Proofs.Files.Snapshot
import OfflineManifest.Proofs.Manifest.NonInterference

/-! # A directory and its snapshot in memory

A plain directory and a memory store that is filled from a snapshot of it are interchangeable, as
far as the system takes the paths below the directory (`Manifest.interchangeable`).

* If the paths of all directories can be looked at, both list the same files, and the directory
  lists them in order.
* A file whose own path can be looked at has the same text and the same digest in both, so that
  generation does not tell them apart if no group accepts another one.
* A file with a longer path is listed, but cannot be opened. Sixteen names of full length, one below
  the other, are one byte too many (`Manifest.not_interchangeable_sixteen`). -/

namespace OfflineManifest.Manifest

/-- **A directory and the store that is filled from files are interchangeable**, as far as the
system takes the paths of what the directory lists. -/
structure Interchangeable (s : Site) (files : List (String × String)) (listed : List String) :
    Prop where
  list : FileStore.list s "/" = .ok listed
  sorted : listed.Pairwise fun f g => Text.bytes f < Text.bytes g
  nodup : listed.Nodup
  complete : ∀ f, f ∈ listed ↔ ∃ text, (f, text) ∈ files
  stored : ∃ stored, FileStore.list (MemoryStore.ofFiles files) "/" = .ok stored ∧
    ∀ f, f ∈ listed ↔ f ∈ stored
  read : ∀ f ∈ listed, s.Opens f → ∃ text, (f, text) ∈ files ∧ FileStore.read s f = .ok text ∧
    FileStore.read (MemoryStore.ofFiles files) f = .ok text
  hash : ∀ f ∈ listed, s.Opens f → ∃ digest, FileStore.hash s f = .ok digest ∧
    FileStore.hash (MemoryStore.ofFiles files) f = .ok digest
  generate : ∀ base c, (∀ f ∈ listed, (∃ g ∈ c.assetGroups, g.Accepts f) → s.Opens f) →
    generate base (.ofStore s) c = generate base (.ofStore (MemoryStore.ofFiles files)) c

open Site

/-- **A directory and its snapshot are interchangeable** if the paths of the directories below it
are not too long. -/
theorem interchangeable {s : Site} {found : Tree.Found} {files : List (String × String)}
    (hfound : s.directory? [] = some found) (hplain : found.tree.Plain)
    (hsnapshot : IsSnapshot found.tree files)
    (hdirectories : ∀ way es, found.tree.at? way = some (.directory es) →
      (s.shown way).size ≤ Tree.pathLimit) :
    ∃ listed, Interchangeable s files listed := by
  have hlist : s.list "/" = .ok (found.tree.ways.map url).mergeSort :=
    (list_eq_ok_iff hfound hplain).mpr ⟨rfl, fits_of_shown hplain hdirectories⟩
  obtain ⟨-, entries, hentries⟩ := exists_of_directory? hfound
  have hcomplete : ∀ f, f ∈ (found.tree.ways.map url).mergeSort ↔ ∃ text, (f, text) ∈ files :=
    fun f => by rw [mem_listing_iff hplain, exists_text_iff hsnapshot]
  have hmem : ∀ f, f ∈ (found.tree.ways.map url).mergeSort ↔
      f ∈ (MemoryStore.ofFiles files).list "/" := fun f => by
    rw [hcomplete, mem_list_of_snapshot hentries hsnapshot]
  have hsame : ∀ f ∈ (found.tree.ways.map url).mergeSort, s.Opens f →
      (∃ text, (f, text) ∈ files ∧ FileStore.read s f = .ok text ∧
        FileStore.read (MemoryStore.ofFiles files) f = .ok text) ∧
      ∃ digest, FileStore.hash s f = .ok digest ∧
        FileStore.hash (MemoryStore.ofFiles files) f = .ok digest := by
    intro f hf hopens
    obtain ⟨way, bytes, hway, rfl⟩ := (mem_listing_iff hplain).mp hf
    exact read_and_hash_of_snapshot hfound hplain hsnapshot hway hopens
  refine ⟨_, hlist, pairwise_bytes_of_list hfound hplain hsnapshot.names hlist,
    nodup_listing hplain hsnapshot.names, hcomplete, ⟨_, rfl, hmem⟩,
    fun f hf hopens => (hsame f hf hopens).1, fun f hf hopens => (hsame f hf hopens).2,
    fun base c hopens => ?_⟩
  have hagree : Source.Agree (.ofStore s) (.ofStore (MemoryStore.ofFiles files))
      c.assetGroups := by
    refine ⟨fun i => Or.inr ⟨_, _, hlist, rfl, hmem⟩, fun i listed f hlisted hf haccepts => ?_⟩
    cases hlist.symm.trans hlisted
    obtain ⟨-, digest, hdigest, hstored⟩ := hsame f hf (hopens f hf haccepts)
    exact hdigest.trans hstored.symm
  exact generate_congr_of_accepted hagree.onAccepted

/-! ### Names of full length, one below the other -/

section Shaft

/-- A name that is as long as a name can be. -/
def longName : String := String.ofList (List.replicate Tree.nameLimit 'a')

/-- A number of directories, one in the other, and a file at the bottom. -/
def shaft : ℕ → Tree
  | 0 => .file "bottom".toUTF8
  | n + 1 => .directory [(longName, shaft n)]

/-- The way to the bottom. -/
def descent (n : ℕ) : List RawText := List.replicate n longName

/-- A directory with a file, beside which a shaft opens. -/
def surface (n : ℕ) : Tree := .directory [("top.txt", .file "top".toUTF8), (longName, shaft n)]

/-- The site of a tree whose path is a slash. -/
def siteOf (tree : Tree) : Site where
  tree
  here := []
  root := "/"

theorem size_longName : longName.utf8ByteSize = Tree.nameLimit := by
  decide +kernel

theorem toList_longName : longName.toList = List.replicate Tree.nameLimit 'a' :=
  String.toList_ofList

theorem longName_ne {name : String} (h : name.toList.head? ≠ some 'a') :
    (longName : RawText) ≠ name := by
  intro heq
  rw [← RawText.ofText_inj.mp heq, toList_longName] at h
  exact h rfl

theorem isName_longName : Tree.IsName longName := by
  refine ⟨⟨longName_ne (by decide), longName_ne (by decide), longName_ne (by decide)⟩, ?_⟩
  rw [RawText.slash_mem_ofText_iff, toList_longName]
  exact fun h => absurd (List.eq_of_mem_replicate h) (by decide)

theorem isName_descent (n : ℕ) : ∀ name ∈ descent n, Tree.IsName name :=
  fun _ h => List.eq_of_mem_replicate h ▸ isName_longName

theorem isText_descent (n : ℕ) : ∀ name ∈ descent n, name.IsText :=
  fun _ h => ⟨longName, List.eq_of_mem_replicate h⟩

theorem plain_shaft : ∀ n, (shaft n).Plain
  | 0 => .file _
  | n + 1 => by
    refine .directory ?_ (List.nodup_singleton _) ?_
    · exact List.forall_mem_singleton.mpr isName_longName
    · exact List.forall_mem_singleton.mpr (plain_shaft n)

/-- What there is in a shaft. -/
theorem at?_shaft {n : ℕ} {way : List RawText} {t : Tree} (h : (shaft n).at? way = some t) :
    ∃ k ≤ n, way = descent k ∧ t = shaft (n - k) := by
  induction way generalizing n with
  | nil => exact ⟨0, n.zero_le, rfl, (Option.some.inj h).symm⟩
  | cons name way ih =>
    cases n with
    | zero => cases h
    | succ n =>
      rw [shaft, Tree.at?_cons, lookup_cons_eq] at h
      by_cases hname : name = longName
      · rw [if_pos hname, Option.bind_some] at h
        obtain ⟨k, hk, rfl, rfl⟩ := ih h
        refine ⟨k + 1, Nat.succ_le_succ hk, ?_, by rw [Nat.succ_sub_succ]⟩
        rw [hname, descent, descent, List.replicate_succ]
      · rw [if_neg hname] at h
        cases h

theorem at?_descent (n : ℕ) : (shaft n).at? (descent n) = some (.file "bottom".toUTF8) := by
  induction n with
  | zero => rfl
  | succ n ih =>
    rw [shaft, descent, List.replicate_succ, Tree.at?_cons, lookup_cons_eq, if_pos rfl,
      Option.bind_some]
    exact ih

theorem file_in_shaft {n : ℕ} {way : List RawText} {c : ByteArray}
    (h : (shaft n).at? way = some (.file c)) : way = descent n ∧ c = "bottom".toUTF8 := by
  obtain ⟨k, hk, rfl, ht⟩ := at?_shaft h
  obtain ⟨d, rfl⟩ := Nat.exists_eq_add_of_le hk
  rw [Nat.add_sub_cancel_left] at ht
  cases d with
  | zero =>
    cases ht
    exact ⟨rfl, rfl⟩
  | succ d => cases ht

theorem isSnapshot_shaft (n : ℕ) : IsSnapshot (shaft n) [(url (descent n), "bottom")] where
  names way c hway := (file_in_shaft hway).1 ▸ isText_descent n
  mem f text := by
    rw [List.mem_singleton, Prod.mk.injEq]
    constructor
    · rintro ⟨rfl, rfl⟩
      exact ⟨descent n, at?_descent n, rfl⟩
    · rintro ⟨way, hway, rfl⟩
      obtain ⟨rfl, htext⟩ := file_in_shaft hway
      exact ⟨rfl, String.toByteArray_inj.mp htext⟩
  text way c hway := ⟨"bottom", (file_in_shaft hway).2⟩

/-! ### What there is on the surface -/

theorem plain_surface (n : ℕ) : (surface n).Plain := by
  have hname : Tree.IsName "top.txt" := ⟨⟨by decide, by decide, by decide⟩, by decide⟩
  have hne : (longName : RawText) ≠ "top.txt" := longName_ne (by decide)
  refine .directory ?_ ?_ ?_
  · exact List.forall_mem_cons.mpr ⟨hname, List.forall_mem_singleton.mpr isName_longName⟩
  · simpa [eq_comm] using hne
  · exact List.forall_mem_cons.mpr ⟨.file _, List.forall_mem_singleton.mpr (plain_shaft n)⟩

/-- Below the surface there are the file and what is in the shaft. -/
theorem at?_surface {n : ℕ} {name : RawText} {way : List RawText} {t : Tree}
    (h : (surface n).at? (name :: way) = some t) :
    (name = "top.txt" ∧ way = [] ∧ t = .file "top".toUTF8) ∨
      (shaft (n + 1)).at? (name :: way) = some t := by
  rw [surface, Tree.at?_cons, lookup_cons_eq] at h
  by_cases hname : name = "top.txt"
  · rw [if_pos hname, Option.bind_some] at h
    cases way with
    | nil => exact Or.inl ⟨hname, rfl, (Option.some.inj h).symm⟩
    | cons => cases h
  · rw [if_neg hname] at h
    exact Or.inr h

theorem file_on_surface {n : ℕ} {way : List RawText} {c : ByteArray}
    (h : (surface n).at? way = some (.file c)) :
    (way = ["top.txt"] ∧ c = "top".toUTF8) ∨ (way = descent (n + 1) ∧ c = "bottom".toUTF8) := by
  cases way with
  | nil => cases h
  | cons name way =>
    rcases at?_surface h with ⟨rfl, rfl, htop⟩ | hshaft
    · cases htop
      exact Or.inl ⟨rfl, rfl⟩
    · exact Or.inr (file_in_shaft hshaft)

theorem at?_top (n : ℕ) : (surface n).at? ["top.txt"] = some (.file "top".toUTF8) := by
  rw [surface, Tree.at?_cons, lookup_cons_eq, if_pos rfl]
  rfl

theorem at?_bottom (n : ℕ) :
    (surface n).at? (descent (n + 1)) = some (.file "bottom".toUTF8) := by
  have hne : (longName : RawText) ≠ "top.txt" := longName_ne (by decide)
  have hbottom := at?_descent (n + 1)
  rw [shaft, descent, List.replicate_succ, Tree.at?_cons] at hbottom
  rw [surface, descent, List.replicate_succ, Tree.at?_cons, lookup_cons_eq, if_neg hne]
  exact hbottom

/-- The files of the surface may stand in a snapshot in any order. -/
theorem isSnapshot_surface {n : ℕ} {files : List (String × String)}
    (h : ∀ e, e ∈ files ↔ e = ("/top.txt", "top") ∨ e = (url (descent (n + 1)), "bottom")) :
    IsSnapshot (surface n) files where
  names way c hway := by
    rcases file_on_surface hway with ⟨rfl, -⟩ | ⟨rfl, -⟩
    · exact List.forall_mem_singleton.mpr ⟨_, rfl⟩
    · exact isText_descent (n + 1)
  mem f text := by
    have hurl : url ["top.txt"] = "/top.txt" := by decide
    rw [h, Prod.mk.injEq, Prod.mk.injEq]
    constructor
    · rintro (⟨rfl, rfl⟩ | ⟨rfl, rfl⟩)
      · exact ⟨["top.txt"], at?_top n, hurl⟩
      · exact ⟨_, at?_bottom n, rfl⟩
    · rintro ⟨way, hway, rfl⟩
      rcases file_on_surface hway with ⟨rfl, htext⟩ | ⟨rfl, htext⟩
      · exact Or.inl ⟨hurl, String.toByteArray_inj.mp htext⟩
      · exact Or.inr ⟨rfl, String.toByteArray_inj.mp htext⟩
  text way c hway := by
    rcases file_on_surface hway with ⟨-, rfl⟩ | ⟨-, rfl⟩
    · exact ⟨"top", rfl⟩
    · exact ⟨"bottom", rfl⟩

/-! ### How long the paths are -/

theorem directory?_siteOf (entries : List (RawText × Tree)) :
    (siteOf (.directory entries)).directory? [] =
      some ⟨[], .directory entries, Tree.linkLimit⟩ :=
  directory?_of_top rfl rfl rfl (show checkPath "/" = .ok () by decide)

theorem waySize_descent (k : ℕ) : Tree.waySize (descent k) = 256 * k := by
  induction k with
  | zero => rfl
  | succ k ih =>
    rw [descent, List.replicate_succ, Tree.waySize, ← descent, ih, RawText.size_ofText,
      size_longName, Tree.nameLimit]
    omega

/-- The path of what is at a depth has a slash and a name for each step down. -/
theorem size_shown_descent (tree : Tree) (k : ℕ) :
    ((siteOf tree).shown (descent (k + 1))).size = 256 * (k + 1) := by
  have htop : (siteOf tree).walked [] = 1 := by
    change (extend "/" "").size = 1
    decide
  have hwalked := walked_append (siteOf tree) [] (isName_descent k)
  rw [List.nil_append, htop, waySize_descent] at hwalked
  rw [descent, List.replicate_succ', ← descent, size_shown_concat, hwalked, RawText.size_ofText,
    size_longName, Tree.nameLimit]
  omega

/-- The directories of a shaft of sixteen names have paths that are short enough. -/
theorem size_directory_shaft {n : ℕ} (hn : n ≤ 16) (tree : Tree) {way : List RawText}
    {es : List (RawText × Tree)} (hway : (shaft n).at? way = some (.directory es)) :
    ((siteOf tree).shown way).size ≤ Tree.pathLimit := by
  obtain ⟨k, hk, rfl, ht⟩ := at?_shaft hway
  have hlt : k < n := by
    refine lt_of_le_of_ne hk ?_
    rintro rfl
    rw [Nat.sub_self] at ht
    cases ht
  cases k with
  | zero =>
    change ("/" : RawText).size ≤ _
    decide
  | succ k =>
    rw [size_shown_descent, Tree.pathLimit]
    omega

theorem size_directory_surface {n : ℕ} (hn : n < 16) {way : List RawText}
    {es : List (RawText × Tree)} (hway : (surface n).at? way = some (.directory es)) :
    ((siteOf (surface n)).shown way).size ≤ Tree.pathLimit := by
  cases way with
  | nil =>
    have htop : (shaft (n + 1)).at? [] = some (.directory [(longName, shaft n)]) := rfl
    exact size_directory_shaft hn (surface n) htop
  | cons name way =>
    rcases at?_surface hway with ⟨-, -, hfile⟩ | hshaft
    · cases hfile
    · exact size_directory_shaft hn (surface n) hshaft

theorem mem_list_siteOf {entries : List (RawText × Tree)} {way : List RawText} {c : ByteArray}
    (hplain : (Tree.directory entries).Plain)
    (hsizes : ∀ way es, (Tree.directory entries).at? way = some (.directory es) →
      ((siteOf (.directory entries)).shown way).size ≤ Tree.pathLimit)
    (hway : (Tree.directory entries).at? way = some (.file c)) : ∃ listed,
      FileStore.list (siteOf (.directory entries)) "/" = .ok listed ∧ url way ∈ listed := by
  refine ⟨_, (list_eq_ok_iff (directory?_siteOf entries) hplain).mpr
    ⟨rfl, fits_of_shown hplain hsizes⟩, ?_⟩
  exact (mem_listing_iff hplain).mpr ⟨_, _, hway, rfl⟩

/-- A shaft of fifteen names beside a file is interchangeable with its snapshot, in whichever order
the two files come, and the file at the bottom can be opened. -/
theorem interchangeable_fifteen : ∃ listed, url (descent 15) ∈ listed ∧
    (siteOf (surface 14)).Opens (url (descent 15)) ∧
      Interchangeable (siteOf (surface 14))
        [("/top.txt", "top"), (url (descent 15), "bottom")] listed ∧
      Interchangeable (siteOf (surface 14))
        [(url (descent 15), "bottom"), ("/top.txt", "top")] listed := by
  have hsizes : ∀ way es, (surface 14).at? way = some (.directory es) →
      ((siteOf (surface 14)).shown way).size ≤ Tree.pathLimit :=
    fun _ _ hway => size_directory_surface (by decide) hway
  have hsnapshot : IsSnapshot (surface 14) [("/top.txt", "top"), (url (descent 15), "bottom")] :=
    isSnapshot_surface (by simp)
  have hsnapshot' : IsSnapshot (surface 14) [(url (descent 15), "bottom"), ("/top.txt", "top")] :=
    isSnapshot_surface (by simp [or_comm])
  obtain ⟨listed, h⟩ := interchangeable (directory?_siteOf _) (plain_surface 14) hsnapshot hsizes
  obtain ⟨listed', h'⟩ := interchangeable (directory?_siteOf _) (plain_surface 14) hsnapshot' hsizes
  cases h.list.symm.trans h'.list
  obtain ⟨listed', hlist, hmem⟩ := mem_list_siteOf (plain_surface 14) hsizes (at?_bottom 14)
  cases h.list.symm.trans hlist
  have hopens : (siteOf (surface 14)).Opens (url (descent 15)) := by
    refine opens_url (isName_descent 15) (isText_descent 15) (fun name hname => ?_)
      (fun name hname => ?_) (by decide) ?_
    · rw [List.eq_of_mem_replicate hname, Tree.isValidName, RawText.size_ofText, size_longName]
      decide
    · have hnul : 0 ∈ (longName : RawText).bytes ↔ '\x00' ∈ longName.toList :=
        RawText.byte_mem_ofText_iff (d := '\x00') (by decide)
      rw [List.eq_of_mem_replicate hname, hnul, toList_longName]
      exact fun h => absurd (List.eq_of_mem_replicate h) (by decide)
    · rw [size_shown_descent _ 14]
      decide
  exact ⟨listed, hmem, hopens, h, h'⟩

/-- **A shaft of sixteen names** can be listed, but the file at its bottom cannot be opened. In
memory it can. -/
theorem not_interchangeable_sixteen :
    ((siteOf (shaft 16)).directory? [] = some ⟨[], shaft 16, Tree.linkLimit⟩ ∧ (shaft 16).Plain ∧
      IsSnapshot (shaft 16) [(url (descent 16), "bottom")]) ∧
    (∃ listed, FileStore.list (siteOf (shaft 16)) "/" = .ok listed ∧ url (descent 16) ∈ listed) ∧
    FileStore.read (siteOf (shaft 16)) (url (descent 16)) ≠
      FileStore.read (MemoryStore.ofFiles [(url (descent 16), "bottom")]) (url (descent 16)) ∧
    FileStore.hash (siteOf (shaft 16)) (url (descent 16)) ≠
      FileStore.hash (MemoryStore.ofFiles [(url (descent 16), "bottom")]) (url (descent 16)) := by
  have hcontents : ∀ bytes, (siteOf (shaft 16)).contents (url (descent 16)) ≠ .ok bytes := by
    intro bytes h
    have hsize := size_le_of_contents (isName_descent 16) (isText_descent 16) h
    rw [size_shown_descent _ 15] at hsize
    exact absurd hsize (by decide)
  have hget : (MemoryStore.ofFiles [(url (descent 16), "bottom")]).get? (url (descent 16)) =
      some "bottom" :=
    get?_of_snapshot (plain_shaft 16) (isSnapshot_shaft 16) (at?_descent 16)
  have hsizes : ∀ way es, (shaft 16).at? way = some (.directory es) →
      ((siteOf (shaft 16)).shown way).size ≤ Tree.pathLimit :=
    fun _ _ hway => size_directory_shaft (by decide) _ hway
  refine ⟨⟨directory?_siteOf _, plain_shaft 16, isSnapshot_shaft 16⟩,
    mem_list_siteOf (plain_shaft 16) hsizes (at?_descent 16), fun h => ?_, fun h => ?_⟩
  · obtain ⟨bytes, hbytes⟩ := exists_contents_of_read (h.trans (MemoryStore.read_of_get? hget))
    exact hcontents bytes hbytes
  · obtain ⟨bytes, hbytes, -⟩ := hash_eq_ok.mp (h.trans (MemoryStore.hash_ofFiles hget))
    exact hcontents bytes hbytes

end Shaft

end OfflineManifest.Manifest
