import OfflineManifest.Files.Site
import OfflineManifest.Proofs.Files.Tree
import OfflineManifest.Proofs.Text.Raw
import OfflineManifest.Proofs.Url

/-! # Digests of a site after a write

In a site without links below its directory, a path leads to the place that its names spell. So a
write changes no file but the one whose names are those of the path written, and the digest of any
other file stays (`hash_of_writeBytes`). -/

namespace OfflineManifest.Site

/-- There are no links below the directory. -/
def LinkFree (s : Site) : Prop :=
  ∀ found, s.directory? [] = some found → ∀ q target, found.tree.at? q ≠ some (.link target)

variable {s t : Site} {f path : String} {bytes : ByteArray}

/-! ### Listings -/

theorem rooted_url {names : List RawText} (h : names ≠ []) : Url.Rooted (url names) := by
  obtain ⟨name, rest, rfl⟩ := List.exists_cons_of_ne_nil h
  unfold Url.Rooted url
  rw [List.map_cons, String.join_cons]
  simp

theorem directory?_eq_some {names : List RawText} {found : Tree.Found} :
    s.directory? names = some found ↔ checkPath (s.shown names) = .ok () ∧
      s.tree.find s.here (s.names ++ names) = .ok found ∧
      ∃ entries, found.tree = .directory entries := by
  unfold directory?
  constructor
  · intro h
    split at h
    · cases h
    · next hpath =>
      split at h
      · next place entries links hfind =>
        cases h
        exact ⟨hpath, hfind, entries, rfl⟩
      · cases h
  · rintro ⟨hpath, hfind, entries, hentries⟩
    obtain ⟨place, tree, links⟩ := found
    cases hentries
    rw [hpath, hfind]

theorem exists_of_directory? {names : List RawText} {found : Tree.Found}
    (h : s.directory? names = some found) :
    s.tree.find s.here (s.names ++ names) = .ok found ∧
      ∃ entries, found.tree = .directory entries :=
  (directory?_eq_some.mp h).2

theorem follow_of_directory? {found : Tree.Found} (h : s.directory? [] = some found) :
    s.tree.follow Tree.linkLimit s.here s.names = .ok (.existing found.place found.links) ∧
      s.tree.at? found.place = some found.tree := by
  obtain ⟨hfind, -⟩ := exists_of_directory? h
  rwa [List.append_nil, Tree.find_eq_ok] at hfind

/-- A site that is the top of its tree. -/
theorem directory?_of_top {entries : List (RawText × Tree)} (htree : s.tree = .directory entries)
    (hhere : s.here = []) (hnames : s.names = []) (hpath : checkPath s.root = .ok ()) :
    s.directory? [] = some ⟨[], s.tree, Tree.linkLimit⟩ := by
  refine directory?_eq_some.mpr ⟨hpath, ?_, entries, htree⟩
  rw [hhere, hnames, Tree.find_eq_ok]
  exact ⟨by rw [List.append_nil, Tree.follow], rfl⟩

theorem list_eq_ok {listed : List String} : s.list path = .ok listed ↔
    ∃ names found ways, locate path = .ok names ∧ s.directory? names = some found ∧
      s.tree.files found.links (s.walked names) found.place found.tree = .ok ways ∧
      (ways.map fun way => url (names ++ way)).mergeSort = listed := by
  unfold list
  rw [except_bind_eq_ok]
  refine exists_congr fun names => ?_
  cases hfound : s.directory? names with
  | none =>
    constructor
    · rintro ⟨-, h⟩
      cases h
    · rintro ⟨found, ways, -, h, -⟩
      cases h
  | some found =>
    dsimp only
    cases hways : s.tree.files found.links (s.walked names) found.place found.tree with
    | error fault =>
      constructor
      · rintro ⟨-, h⟩
        cases h
      · rintro ⟨found', ways, -, hfound', hways', -⟩
        cases hfound'
        cases hways.symm.trans hways'
    | ok ways =>
      constructor
      · rintro ⟨hnames, h⟩
        exact ⟨found, ways, hnames, rfl, hways, Except.ok.inj h⟩
      · rintro ⟨found', ways', hnames, hfound', hways', rfl⟩
        cases hfound'
        cases hways.symm.trans hways'
        exact ⟨hnames, rfl⟩

theorem rooted_of_list {listed : List String} (h : s.list path = .ok listed) (hf : f ∈ listed) :
    Url.Rooted f := by
  obtain ⟨names, found, ways, -, hfound, hways, rfl⟩ := list_eq_ok.mp h
  obtain ⟨-, entries, htree⟩ := exists_of_directory? hfound
  rw [htree] at hways
  obtain ⟨way, hway, rfl⟩ := List.mem_map.mp (List.mem_mergeSort.mp hf)
  exact rooted_url (List.append_ne_nil_of_right_ne_nil _ (Tree.ne_nil_of_mem_files hways hway))

theorem exists_directory?_of_list {listed : List String} (h : s.list "/" = .ok listed) :
    ∃ found, s.directory? [] = some found := by
  obtain ⟨names, found, -, hnames, hfound, -⟩ := list_eq_ok.mp h
  have hroot : locate "/" = .ok [] := by decide
  cases hroot.symm.trans hnames
  exact ⟨found, hfound⟩

/-! ### Names -/

theorem locate_eq_ok {names : List RawText} :
    locate path = .ok names ↔ ".." ∉ requested path ∧ parts path = names := by
  unfold locate
  by_cases hup : ".." ∈ requested path <;> simp [hup]

theorem mem_parts_iff {name : RawText} : name ∈ parts path ↔
    ∃ part ∈ requested path, (part ≠ "" ∧ part ≠ ".") ∧ RawText.ofText part = name := by
  simp [parts, and_assoc]

theorem isPlain_of_locate {names : List RawText} (h : locate path = .ok names) :
    ∀ name ∈ names, Tree.IsPlain name := by
  obtain ⟨hup, rfl⟩ := locate_eq_ok.mp h
  intro name hname
  obtain ⟨part, hpart, ⟨hempty, hdot⟩, rfl⟩ := mem_parts_iff.mp hname
  refine ⟨?_, ?_, ?_⟩ <;> rw [ne_eq, RawText.ofText_inj]
  · exact hempty
  · exact hdot
  · exact fun heq => hup (heq ▸ hpart)

/-! ### Reading and writing -/

theorem contents_eq_ok : s.contents f = .ok bytes ↔
    ∃ names, locate f = .ok names ∧ checkPath (s.shown names) = .ok () ∧
      s.tree.read s.here (s.names ++ names) = .ok bytes := by
  unfold contents
  rw [except_bind_eq_ok]
  refine exists_congr fun names => and_congr_right fun _ => ?_
  dsimp only
  cases hpath : checkPath (s.shown names) with
  | error fault =>
    constructor
    · exact fun h => by cases h
    · exact fun h => by cases h.1
  | ok u =>
    cases hread : s.tree.read s.here (s.names ++ names) with
    | error fault =>
      constructor
      · exact fun h => by cases h
      · exact fun h => by cases h.2
    | ok found =>
      change (Except.ok found : Except FileError ByteArray) = .ok bytes ↔ _
      simp

theorem writeBytes_eq_ok : s.writeBytes path bytes = (.ok (), t) ↔
    ∃ names tree tree', locate path = .ok names ∧
      s.makeDirectories names = (.ok (), tree) ∧ checkPath (s.shown names) = .ok () ∧
      tree.write s.here (s.names ++ names) bytes = .ok tree' ∧ t = { s with tree := tree' } := by
  constructor
  · intro h
    unfold writeBytes at h
    split at h
    · cases h
    · next names hnames =>
      dsimp only at h
      split at h
      · cases h
      · next tree hmade =>
        split at h
        · cases h
        · next tree' hwritten =>
          obtain ⟨u, hpath, hwritten⟩ := except_bind_eq_ok.mp hwritten
          cases h
          exact ⟨names, tree, tree', hnames, hmade, hpath, hwritten, rfl⟩
  · rintro ⟨names, tree, tree', hnames, hmade, hpath, hwritten, rfl⟩
    unfold writeBytes
    rw [hnames]
    simp only [hmade, hpath, hwritten]
    rfl

/-- **How directories are made** above what names lead to: not at all if there are none in the
path, or on the way to what they lead to. -/
theorem makeDirectories_cases {names : List RawText} {made : Except FileError Unit} {tree : Tree}
    (h : s.makeDirectories names = (made, tree)) : tree = s.tree ∨ ∃ above made',
      above? (s.shown names) = some above ∧ checkPath above = .ok () ∧
      s.tree.makeDirectories Tree.linkLimit s.here (leading (s.names ++ names)) =
        (made', tree) := by
  unfold makeDirectories at h
  cases habove : above? (s.shown names) with
  | none =>
    rw [habove] at h
    exact Or.inl (Prod.mk.inj h).2.symm
  | some above =>
    rw [habove] at h
    dsimp only at h
    split at h
    · exact Or.inl (Prod.mk.inj h).2.symm
    · split at h
      · exact Or.inl (Prod.mk.inj h).2.symm
      · next hpath => exact Or.inr ⟨above, _, rfl, hpath, Prod.ext rfl (Prod.mk.inj h).2⟩

theorem makeDirectories_of_above {names place : List RawText} {above : RawText} {tree : Tree}
    (habove : above? (s.shown names) = some above) (hpath : checkPath above = .ok ())
    (hmade : s.tree.makeDirectories Tree.linkLimit s.here (leading (s.names ++ names)) =
      (.ok place, tree)) : s.makeDirectories names = (.ok (), tree) := by
  have hne : above ≠ "" := by
    rintro rfl
    cases hpath
  unfold makeDirectories
  rw [habove]
  simp only [if_neg hne, hpath, hmade]
  rfl

theorem hash_eq_ok {digest : String} : s.hash f = .ok digest ↔
    ∃ bytes, s.contents f = .ok bytes ∧ (Digest.ofFile bytes).hex = digest := by
  unfold hash
  rw [except_bind_eq_ok]
  refine exists_congr fun bytes => and_congr_right fun _ => ?_
  change (Except.ok _ : Except FileError String) = .ok digest ↔ _
  rw [Except.ok.injEq]

theorem fromUTF8?_toUTF8 (text : String) : String.fromUTF8? text.toUTF8 = some text :=
  dif_pos text.isValidUTF8

theorem read_eq_ok {text : String} : s.read f = .ok text ↔ s.contents f = .ok text.toUTF8 := by
  unfold read
  rw [except_bind_eq_ok]
  constructor
  · rintro ⟨contents, hcontents, h⟩
    unfold String.fromUTF8? at h
    split_ifs at h with hvalid
    cases h
    exact hcontents
  · intro h
    refine ⟨_, h, ?_⟩
    rw [fromUTF8?_toUTF8]
    rfl

theorem extends_of_makeDirectories {names : List RawText} {made : Except FileError Unit}
    {tree : Tree} {P : List RawText → Prop} (h : s.makeDirectories names = (made, tree)) :
    s.tree.Extends P tree := by
  rcases makeDirectories_cases h with rfl | ⟨above, made', -, -, hmade⟩
  · exact Tree.Extends.refl P s.tree
  · exact Tree.extends_makeDirectories hmade

/-- Names are followed from the directory, below which there are no links. -/
theorem follow_below {tree : Tree} {P : List RawText → Prop} (hfree : s.LinkFree)
    (hext : s.tree.Extends P tree) {found : Tree.Found} (hfound : s.directory? [] = some found)
    {names : List RawText} {dest : Tree.Destination}
    (h : tree.follow Tree.linkLimit s.here (s.names ++ names) = .ok dest) :
    tree.follow found.links found.place names = .ok dest ∧
      ∀ q target, tree.at? (found.place ++ q) ≠ some (.link target) := by
  obtain ⟨hfollow, htree⟩ := follow_of_directory? hfound
  rw [Tree.follow_append (Tree.follow_of_extends hext hfollow)] at h
  refine ⟨h, fun q target hq => ?_⟩
  rw [← hext.link, Tree.at?_append, htree] at hq
  exact hfree found hfound q target hq

/-- A path leads to the place that its names spell, below that of the directory. -/
theorem place_of_follow {tree : Tree} {P : List RawText → Prop} (hfree : s.LinkFree)
    (hext : s.tree.Extends P tree) {found : Tree.Found} (hfound : s.directory? [] = some found)
    {names : List RawText} (hplain : ∀ name ∈ names, Tree.IsPlain name) {dest : Tree.Destination}
    (h : tree.follow Tree.linkLimit s.here (s.names ++ names) = .ok dest) :
    dest.place = found.place ++ names := by
  obtain ⟨hbelow, hlinks⟩ := follow_below hfree hext hfound h
  exact Tree.place_of_follow hplain hlinks hbelow

/-- **A write keeps the digests of other files.** -/
theorem hash_of_writeBytes (hfree : s.LinkFree) {found : Tree.Found}
    (hfound : s.directory? [] = some found) (hwrite : s.writeBytes path bytes = (.ok (), t))
    (hne : locate f ≠ locate path) {digest : String} (h : s.hash f = .ok digest) :
    t.hash f = .ok digest := by
  obtain ⟨names, tree, tree', hnames, hmade, -, hwritten, rfl⟩ := writeBytes_eq_ok.mp hwrite
  obtain ⟨contents, hcontents, hdigest⟩ := hash_eq_ok.mp h
  obtain ⟨names', hnames', hpath, hread⟩ := contents_eq_ok.mp hcontents
  obtain ⟨place, left, hfollow, hfile⟩ := Tree.read_eq_ok.mp hread
  obtain ⟨dest, hdest, hext'⟩ := Tree.extends_write hwritten
  have hext : s.tree.Extends (· = dest.place) tree := extends_of_makeDirectories hmade
  have hplace : place = found.place ++ names' :=
    place_of_follow hfree (Tree.Extends.refl (fun _ => False) s.tree) hfound
      (isPlain_of_locate hnames') hfollow
  have hwritten : dest.place = found.place ++ names :=
    place_of_follow hfree hext hfound (isPlain_of_locate hnames) hdest
  have hneq : place ≠ dest.place := by
    rw [hplace, hwritten]
    intro heq
    rw [hnames, hnames', List.append_cancel_left heq] at hne
    exact hne rfl
  obtain ⟨c, hc, hsame⟩ := (hext.trans hext').file place contents hfile
  rw [hsame hneq] at hc
  refine hash_eq_ok.mpr ⟨contents, contents_eq_ok.mpr ⟨names', hnames', hpath, ?_⟩, hdigest⟩
  exact Tree.read_eq_ok.mpr ⟨place, left, Tree.follow_of_extends (hext.trans hext') hfollow, hc⟩

end OfflineManifest.Site
