import Mathlib.Data.List.Induction
import OfflineManifest.Proofs.Files.Digests
import OfflineManifest.Proofs.Files.Listing
import OfflineManifest.Proofs.Files.Memory
import OfflineManifest.Proofs.Text.ByteOrder

/-! # Snapshots of directories

A snapshot of a plain tree is a list of its files, each with its canonical path and its contents as
a text, in any order (`IsSnapshot`); the names of the files are texts, too. A memory store that is
filled from it lists the files of the tree (`mem_list_of_snapshot`), which the directory lists in
order of their bytes (`pairwise_bytes_of_list`). It gives the text and the digest that the directory
gives, for each file whose path the system takes (`read_and_hash_of_snapshot`). -/

namespace OfflineManifest

/-! ### Filling a store -/

namespace MemoryStore

variable {s : MemoryStore} {files : List (String × String)} {f text : String}

/-- The store that is filled with files, in order. -/
def ofFiles (files : List (String × String)) : MemoryStore :=
  files.foldl (fun s e => s.put e.1 e.2) empty

theorem mem_of_get?_foldl (h : (files.foldl (fun s e => s.put e.1 e.2) s).get? f = some text) :
    (f, text) ∈ files ∨ s.get? f = some text := by
  induction files generalizing s with
  | nil => exact Or.inr h
  | cons e rest ih =>
    rcases ih h with hrest | hput
    · exact Or.inl (List.mem_cons_of_mem e hrest)
    · rw [get?_put] at hput
      by_cases hf : f = e.1
      · rw [if_pos hf] at hput
        rw [hf, ← Option.some.inj hput]
        exact Or.inl List.mem_cons_self
      · rw [if_neg hf] at hput
        exact Or.inr hput

theorem exists_get?_foldl (h : (∃ text, (f, text) ∈ files) ∨ ∃ text, s.get? f = some text) :
    ∃ text, (files.foldl (fun s e => s.put e.1 e.2) s).get? f = some text := by
  induction files generalizing s with
  | nil => simpa using h
  | cons e rest ih =>
    refine ih ?_
    simp only [get?_put]
    by_cases hf : f = e.1
    · simp [hf]
    · rcases h with ⟨text, htext⟩ | hs
      · rcases List.mem_cons.mp htext with heq | hrest
        · exact absurd (congrArg Prod.fst heq) hf
        · exact Or.inl ⟨text, hrest⟩
      · simp only [if_neg hf]
        exact Or.inr hs

/-- **What a filled store has at a path**, if the files do not contradict each other. -/
theorem get?_ofFiles (hfun : ∀ text', (f, text') ∈ files → text' = text) (h : (f, text) ∈ files) :
    (ofFiles files).get? f = some text := by
  obtain ⟨text', htext'⟩ := exists_get?_foldl (s := empty) (Or.inl ⟨text, h⟩)
  rcases mem_of_get?_foldl htext' with hmem | hempty
  · rw [← hfun text' hmem]
    exact htext'
  · cases hempty

theorem pins_foldl : (files.foldl (fun s e => s.put e.1 e.2) s).pins = s.pins := by
  induction files generalizing s with
  | nil => rfl
  | cons e rest ih => exact ih

/-- Nothing in a filled store has a pinned digest. -/
theorem hash_ofFiles (h : (ofFiles files).get? f = some text) :
    (ofFiles files).hash f = .ok (Digest.ofBytes text.toUTF8).hex := by
  refine hash_of_get? h ?_
  rw [ofFiles, pins_foldl]
  rfl

theorem mem_list_ofFiles_iff (hrooted : ∀ e ∈ files, Url.Rooted e.1) :
    f ∈ (ofFiles files).list "/" ↔ ∃ text, (f, text) ∈ files := by
  have hget : f ∈ (ofFiles files).entries.map Prod.fst ↔ ∃ text, (f, text) ∈ files := by
    rw [mem_map_fst_iff]
    constructor
    · rintro ⟨text, htext⟩
      exact ⟨text, (mem_of_get?_foldl htext).resolve_right fun h => by cases h⟩
    · exact fun h => exists_get?_foldl (Or.inl h)
  unfold list
  rw [List.mem_filter, hget, and_iff_left_iff_imp]
  rintro ⟨text, htext⟩
  obtain ⟨rest, hrest⟩ := List.head?_eq_some_iff.mp (hrooted _ htext)
  have hbelow : (below "/").toList = ['/'] := by decide
  rw [hbelow, hrest]
  rfl

end MemoryStore

/-! ### Snapshots -/

namespace Site

/-- **A snapshot of a tree**: its files with their names and their contents, which are texts. -/
structure IsSnapshot (t : Tree) (files : List (String × String)) : Prop where
  names : t.HasTexts
  mem : ∀ f text, (f, text) ∈ files ↔ ∃ way, t.at? way = some (.file text.toUTF8) ∧ url way = f
  text : ∀ way c, t.at? way = some (.file c) → ∃ text : String, c = text.toUTF8

/-- **A path that the system takes**: neither its names nor the whole of it are too long. -/
def Opens (s : Site) (f : String) : Prop :=
  ∃ names, locate f = .ok names ∧ (∀ name ∈ names, Tree.isValidName name = true) ∧
    Tree.isValidPath (s.shown names) = true

variable {s : Site} {found : Tree.Found} {files : List (String × String)} {f text : String}
  {way : List RawText} {listed : List String} {bytes : ByteArray}

theorem mem_of_mem_extend {path name : RawText} {b : UInt8} (h : b ∈ (extend path name).bytes) :
    b ∈ path.bytes ∨ b = RawText.slash ∨ b ∈ name.bytes := by
  have hslash : ("/" : RawText).bytes = [RawText.slash] := by decide
  unfold extend at h
  split_ifs at h
  · exact Or.inr (Or.inr h)
  · rw [RawText.bytes_append, List.mem_append] at h
    exact h.imp_right Or.inr
  · rwa [RawText.bytes_append, RawText.bytes_append, hslash, List.mem_append, List.mem_append,
      List.mem_singleton, or_assoc] at h

theorem mem_of_mem_shown {b : UInt8} (h : b ∈ (s.shown way).bytes) :
    b ∈ s.root.bytes ∨ b = RawText.slash ∨ ∃ name ∈ way, b ∈ name.bytes := by
  induction way using List.reverseRecOn with
  | nil => exact Or.inl h
  | append_singleton way name ih =>
    rw [shown_concat] at h
    rcases mem_of_mem_extend h with h | h | h
    · rcases ih h with hroot | hslash | ⟨other, hother, hb⟩
      · exact Or.inl hroot
      · exact Or.inr (Or.inl hslash)
      · exact Or.inr (Or.inr ⟨other, List.mem_append_left _ hother, hb⟩)
    · exact Or.inr (Or.inl h)
    · exact Or.inr (Or.inr ⟨name, List.mem_append_right _ List.mem_cons_self, h⟩)

/-- A path is taken if nothing on it is too long. -/
theorem opens_url (hnames : ∀ name ∈ way, Tree.IsName name) (htexts : ∀ name ∈ way, name.IsText)
    (hvalid : ∀ name ∈ way, Tree.isValidName name = true) (hnul : ∀ name ∈ way, 0 ∉ name.bytes)
    (hroot : 0 ∉ s.root.bytes) (hsize : (s.shown way).size ≤ Tree.pathLimit) :
    s.Opens (url way) := by
  refine ⟨way, locate_url_of_texts hnames htexts, hvalid, ?_⟩
  unfold Tree.isValidPath
  rw [Bool.and_eq_true, decide_eq_true_eq, Bool.not_eq_true', List.contains_eq_mem,
    decide_eq_false_iff_not]
  refine ⟨fun hshown => ?_, hsize⟩
  rcases mem_of_mem_shown hshown with h | h | ⟨name, hname, h⟩
  · exact hroot h
  · exact absurd h (by decide)
  · exact hnul name hname h

theorem size_le_of_contents (hnames : ∀ name ∈ way, Tree.IsName name)
    (htexts : ∀ name ∈ way, name.IsText) (h : s.contents (url way) = .ok bytes) :
    (s.shown way).size ≤ Tree.pathLimit := by
  obtain ⟨names, hlocate, hpath, -⟩ := contents_eq_ok.mp h
  cases (locate_url_of_texts hnames htexts).symm.trans hlocate
  exact size_le_of_checkPath hpath

/-- The directory itself is no file. -/
theorem ne_nil_of_file {entries : List (RawText × Tree)}
    (hentries : found.tree = .directory entries)
    (hway : found.tree.at? way = some (.file bytes)) : way ≠ [] := by
  rintro rfl
  rw [hentries] at hway
  cases hway

theorem contents_of_opens (hfound : s.directory? [] = some found) (hplain : found.tree.Plain)
    (htexts : found.tree.HasTexts) (hway : found.tree.at? way = some (.file bytes))
    (hopens : s.Opens (url way)) : s.contents (url way) = .ok bytes := by
  have hlocate : locate (url way) = .ok way :=
    locate_url_of_texts (hplain.isName hway) (htexts way bytes hway)
  obtain ⟨names, hnames, hvalid, hpath⟩ := hopens
  cases hlocate.symm.trans hnames
  obtain ⟨-, entries, hentries⟩ := exists_of_directory? hfound
  have hshown := shown_ne_empty s (hplain.isName hway) (ne_nil_of_file hentries hway)
  have hcheck : checkPath (s.shown way) = .ok () := by
    rw [checkPath, if_neg hshown, if_pos hpath]
  exact (contents_eq_ok_iff hfound hplain).mpr ⟨way, hlocate, hvalid, hcheck, hway⟩

/-- What a store that is filled from a snapshot has at the path of a file. -/
theorem get?_of_snapshot {t : Tree} (hplain : t.Plain) (hsnapshot : IsSnapshot t files)
    (hway : t.at? way = some (.file text.toUTF8)) :
    (MemoryStore.ofFiles files).get? (url way) = some text := by
  refine MemoryStore.get?_ofFiles (fun text' htext' => ?_)
    ((hsnapshot.mem _ _).mpr ⟨way, hway, rfl⟩)
  obtain ⟨way', hway', hurl⟩ := (hsnapshot.mem _ _).mp htext'
  cases url_inj (hplain.isName hway') (hplain.isName hway) (hsnapshot.names _ _ hway')
    (hsnapshot.names _ _ hway) hurl
  have hbytes : text.toUTF8 = text'.toUTF8 :=
    Tree.file.inj (Option.some.inj (hway.symm.trans hway'))
  exact (String.toByteArray_inj.mp hbytes).symm

theorem exists_contents_of_read (h : s.read f = .ok text) : ∃ bytes, s.contents f = .ok bytes :=
  ⟨_, read_eq_ok.mp h⟩

/-- **A directory and a store that is filled from its snapshot** give the same text and the same
digest for a file. -/
theorem read_and_hash_of_snapshot (hfound : s.directory? [] = some found)
    (hplain : found.tree.Plain) (hsnapshot : IsSnapshot found.tree files)
    (hway : found.tree.at? way = some (.file bytes)) (hopens : s.Opens (url way)) :
    (∃ text, (url way, text) ∈ files ∧ FileStore.read s (url way) = .ok text ∧
        FileStore.read (MemoryStore.ofFiles files) (url way) = .ok text) ∧
      ∃ digest, FileStore.hash s (url way) = .ok digest ∧
        FileStore.hash (MemoryStore.ofFiles files) (url way) = .ok digest := by
  obtain ⟨text, rfl⟩ := hsnapshot.text way bytes hway
  have hcontents := contents_of_opens hfound hplain hsnapshot.names hway hopens
  have hget := get?_of_snapshot hplain hsnapshot hway
  have hfile : (url way, text) ∈ files := (hsnapshot.mem _ _).mpr ⟨way, hway, rfl⟩
  exact ⟨⟨text, hfile, read_eq_ok.mpr hcontents, MemoryStore.read_of_get? hget⟩,
    _, hash_of_contents hcontents, MemoryStore.hash_ofFiles hget⟩

/-! ### Listings of a directory and its snapshot -/

theorem pairwise_bytes_of_list (hfound : s.directory? [] = some found)
    (hplain : found.tree.Plain) (htexts : found.tree.HasTexts) (hlist : s.list "/" = .ok listed) :
    listed.Pairwise fun f g => Text.bytes f < Text.bytes g := by
  obtain ⟨rfl, -⟩ := (list_eq_ok_iff hfound hplain).mp hlist
  exact (sortedLT_listing hplain htexts).pairwise.imp Text.bytes_lt_bytes.mpr

theorem exists_text_iff {t : Tree} (hsnapshot : IsSnapshot t files) :
    (∃ text, (f, text) ∈ files) ↔ ∃ way c, t.at? way = some (.file c) ∧ url way = f := by
  constructor
  · rintro ⟨text, htext⟩
    obtain ⟨way, hway, hurl⟩ := (hsnapshot.mem f text).mp htext
    exact ⟨way, _, hway, hurl⟩
  · rintro ⟨way, c, hway, rfl⟩
    obtain ⟨text, rfl⟩ := hsnapshot.text way c hway
    exact ⟨text, (hsnapshot.mem _ _).mpr ⟨way, hway, rfl⟩⟩

/-- **The listing in memory** has the files of the snapshot. -/
theorem mem_list_of_snapshot {entries : List (RawText × Tree)}
    (hentries : found.tree = .directory entries) (hsnapshot : IsSnapshot found.tree files) :
    f ∈ (MemoryStore.ofFiles files).list "/" ↔ ∃ text, (f, text) ∈ files := by
  refine MemoryStore.mem_list_ofFiles_iff fun e he => ?_
  obtain ⟨way, hway, hurl⟩ := (hsnapshot.mem e.1 e.2).mp he
  exact hurl ▸ rooted_url (ne_nil_of_file hentries hway)

end Site

end OfflineManifest
