import OfflineManifest.Proofs.Files.Listing

/-! # Where requests lead

A request leads to a path: that of the directory with the names of the request behind it. The names
are got back from it, whatever the path of the directory looks like. A walk visits a file under the
names that lead to it (`exists_file_of_visits`). So a request is refused exactly if a part of it is
two dots; otherwise it leads to the same path as its canonical form does, which no other request
with another canonical form leads to; and a path in a listing leads to the file that was visited if
the names on the way to the file are texts, and elsewhere if not (`leads_below`). -/

namespace OfflineManifest

/-! ### Trees with links -/

namespace Tree

variable {top t u : Tree} {name : RawText} {entries : List (RawText × Tree)}
  {here way q : List RawText} {ways : List (List RawText)} {links size : ℕ}

/-- **A tree as a file system keeps it**: names in it can be spelled in a path, are not too long,
and stand once in their directory. -/
inductive Sound : Tree → Prop where
  | file (c : ByteArray) : Sound (file c)
  | link (target : RawText) : Sound (link target)
  | directory {entries : List (RawText × Tree)}
    (names : ∀ e ∈ entries, IsName e.1 ∧ isValidName e.1 = true)
    (nodup : (entries.map Prod.fst).Nodup) (below : ∀ e ∈ entries, Sound e.2) :
    Sound (directory entries)

theorem Sound.at? (ht : t.Sound) (h : t.at? q = some u) : u.Sound := by
  induction q generalizing t with
  | nil => cases h; exact ht
  | cons name q ih =>
    obtain ⟨entries, v, rfl, hv, hu⟩ := exists_of_at?_cons h
    cases ht with
    | directory _ _ below => exact ih (below _ (mem_of_lookup hv)) hu

/-- **A walk goes on below an entry**, at the place of the entry or where its link leads. -/
inductive GoesOn (top : Tree) (links : ℕ) (here : List RawText) (name : RawText) (t : Tree)
    (below : List (List RawText)) : Prop where
  | here {size : ℕ} (hlink : ∀ target, t ≠ link target)
    (h : files top links size (here ++ [name]) t = .ok below)
  | linked {size left : ℕ} {target : RawText} {found : Found} (ht : t = link target)
    (hlinks : links = left + 1)
    (hfound : findWithin top left (start target here) (segments target) = .ok found)
    (h : files top found.links size found.place found.tree = .ok below)

theorem exists_goesOn_of_mem_filesOf (h : filesOf top links size here entries = .ok ways)
    (hway : way ∈ ways) : ∃ name t below w,
      (name, t) ∈ entries ∧ way = name :: w ∧ w ∈ below ∧ GoesOn top links here name t below := by
  induction entries generalizing ways with
  | nil =>
    rw [filesOf] at h
    cases h
    cases hway
  | cons e rest ih =>
    obtain ⟨name, t⟩ := e
    have hrest : ∀ below, GoesOn top links here name t below →
        (filesOf top links size here rest >>= fun others =>
          pure (below.map (name :: ·) ++ others)) = .ok ways →
        ∃ name' t' below' w, (name', t') ∈ (name, t) :: rest ∧ way = name' :: w ∧ w ∈ below' ∧
          GoesOn top links here name' t' below' := by
      intro below hbelow h
      obtain ⟨others, hothers, h⟩ := except_bind_eq_ok.mp h
      cases h
      rcases List.mem_append.mp hway with hmem | hmem
      · obtain ⟨w, hw, rfl⟩ := List.mem_map.mp hmem
        exact ⟨name, t, below, w, List.mem_cons_self, rfl, hw, hbelow⟩
      · obtain ⟨name', t', below', w, hmem, hothers⟩ := ih hothers hmem
        exact ⟨name', t', below', w, List.mem_cons_of_mem _ hmem, hothers⟩
    unfold filesOf at h
    dsimp only at h
    split at h
    · cases h
    · split at h
      · split at h
        · next found hfound =>
          obtain ⟨below, hbelow, h⟩ := except_bind_eq_ok.mp h
          exact hrest below (.linked rfl rfl hfound hbelow) h
        · cases h
      · cases h
    · next hzero hsucc =>
      obtain ⟨below, hbelow, h⟩ := except_bind_eq_ok.mp h
      refine hrest below (.here (fun target ht => ?_) hbelow) h
      cases links with
      | zero => exact hzero target ht rfl
      | succ left => exact hsucc target left ht rfl

/-- In a directory a name leads to its entry, or to where the link leads that it stands for. -/
theorem follow_of_goesOn {below : List (List RawText)} (htop : top.Sound)
    (hhere : top.at? here = some (directory entries)) (hmem : (name, t) ∈ entries)
    (h : GoesOn top links here name t below) : IsName name ∧ ∃ place left tree size,
      top.at? place = some tree ∧ files top left size place tree = .ok below ∧
        ∀ w, top.follow links here (name :: w) = top.follow left place w := by
  obtain ⟨hname, hvalid, hlookup⟩ : IsName name ∧ isValidName name = true ∧
      entries.lookup name = some t := by
    cases htop.at? hhere with
    | directory names nodup _ =>
      exact ⟨(names _ hmem).1, (names _ hmem).2, lookup_of_mem nodup hmem⟩
  obtain ⟨hempty, hdot, hup⟩ := hname.isPlain
  have hskip : ¬ (name = "" ∨ name = ".") := not_or.mpr ⟨hempty, hdot⟩
  refine ⟨hname, ?_⟩
  cases h with
  | @here size hlink h =>
    refine ⟨here ++ [name], links, t, size, (at?_snoc hhere).trans hlookup, h, fun w => ?_⟩
    rw [follow, hhere]
    simp only [if_neg hskip, if_neg hup, hvalid, hlookup, Bool.not_true, Bool.false_eq_true,
      if_false]
  | @linked size left target found ht hlinks hfound h =>
    obtain ⟨hfollow, hat⟩ := findWithin_eq_ok.mp hfound
    refine ⟨found.place, found.links, found.tree, size, hat, h, fun w => ?_⟩
    rw [follow, hhere]
    simp only [if_neg hskip, if_neg hup, hvalid, hlookup, ht, hlinks, Bool.not_true,
      Bool.false_eq_true, if_false]
    exact follow_append hfollow w

/-- **A walk visits files** under the names that lead to them. -/
theorem exists_file_of_mem_files (htop : top.Sound) (hhere : top.at? here = some t)
    (h : files top links size here t = .ok ways) (hway : way ∈ ways) :
    (∀ name ∈ way, IsName name) ∧ ∃ place left c,
      top.follow links here way = .ok (.existing place left) ∧ top.at? place = some (file c) := by
  induction way generalizing links size here t ways with
  | nil =>
    refine ⟨fun _ hname => absurd hname List.not_mem_nil, ?_⟩
    cases t with
    | file c => exact ⟨here, links, c, by rw [follow], hhere⟩
    | link target => rw [files] at h; cases h
    | directory entries => exact absurd rfl (ne_nil_of_mem_files h hway)
  | cons name w ih =>
    cases t with
    | file c =>
      rw [files] at h
      cases h
      cases List.mem_singleton.mp hway
    | link target => rw [files] at h; cases h
    | directory entries =>
      rw [files] at h
      split at h
      · obtain ⟨name', t, below, w', hmem, hcons, hw, hbelow⟩ :=
          exists_goesOn_of_mem_filesOf h hway
        cases hcons
        obtain ⟨hname, place, left, tree, size', hat, hfiles, hstep⟩ :=
          follow_of_goesOn htop hhere hmem hbelow
        obtain ⟨hnames, hfile⟩ := ih hat hfiles hw
        rw [hstep]
        exact ⟨List.forall_mem_cons.mpr ⟨hname, hnames⟩, hfile⟩
      · cases h

end Tree

namespace Site

variable {s : Site} {f : String} {path : RawText} {names way : List RawText}

/-! ### Requests -/

/-- **The canonical form of a request**: of the parts between its slashes, those that are empty or a
dot are dropped, and a slash is put before each of the others. -/
def canonical (request : String) : String :=
  String.ofList <| ((request.toList.splitOn '/').filter fun part => part ≠ [] && part ≠ ['.']).flatMap
    ('/' :: ·)

theorem ofList_eq_iff {part : List Char} {text : String} :
    String.ofList part = text ↔ part = text.toList := by
  rw [← String.toList_inj, String.toList_ofList]

theorem url_parts (request : String) : url (parts request) = canonical request := by
  have hempty : "".toList = [] := by decide
  have hdot : ".".toList = ['.'] := by decide
  have hkept : ((fun part => part ≠ "" && part ≠ ".") : String → Bool) ∘ String.ofList =
      fun part => part ≠ [] && part ≠ ['.'] := by
    funext part
    simp only [Function.comp_apply, ne_eq, ofList_eq_iff, hempty, hdot]
  refine String.toList_inj.mp ?_
  rw [toList_url, canonical, String.toList_ofList, parts, requested, List.filter_map, hkept,
    List.flatMap_map, List.flatMap_map]
  simp only [RawText.lossy_ofText, String.toList_ofList]

theorem resolve_eq_error {e : FileError} :
    s.resolve f = .error e ↔ ".." ∈ requested f ∧ e = .outsideRoot f := by
  unfold resolve locate
  by_cases h : ".." ∈ requested f <;> simp [h, Except.map, eq_comm]

theorem resolve_eq_ok : s.resolve f = .ok path ↔
    ∃ names, locate f = .ok names ∧ s.shown names = path :=
  except_map_eq_ok

/-- What a request leads to, by the names that are left of it. -/
theorem exists_names_of_resolve (h : s.resolve f = .ok path) :
    ∃ names, s.shown names = path ∧ (∀ name ∈ names, Tree.IsName name) ∧ asShown names = names ∧
      url names = canonical f ∧ components path = components s.root ++ names := by
  obtain ⟨names, hnames, rfl⟩ := resolve_eq_ok.mp h
  have hname := isName_of_locate hnames
  have htexts := asShown_of_locate hnames
  obtain ⟨-, rfl⟩ := locate_eq_ok.mp hnames
  exact ⟨_, rfl, hname, htexts, url_parts f, components_shown s hname⟩

theorem resolve_url (s : Site) (h : ∀ name ∈ names, Tree.IsName name) :
    s.resolve (url names) = .ok (s.shown (asShown names)) :=
  resolve_eq_ok.mpr ⟨_, locate_url h, rfl⟩

/-! ### Listings -/

/-- **A listing visits a file** under names below the directory. -/
def Visits (s : Site) (request : String) (way : List RawText) : Prop :=
  ∃ names found ways rest, locate request = .ok names ∧ s.directory? names = some found ∧
    s.tree.files found.links (s.walked names) found.place found.tree = .ok ways ∧ rest ∈ ways ∧
    way = names ++ rest

theorem mem_list_iff {listed : List String} (h : s.list f = .ok listed) {u : String} :
    u ∈ listed ↔ ∃ way, s.Visits f way ∧ u = url way := by
  obtain ⟨names, found, ways, hnames, hfound, hways, rfl⟩ := list_eq_ok.mp h
  rw [List.mem_mergeSort, List.mem_map]
  constructor
  · rintro ⟨rest, hrest, rfl⟩
    exact ⟨_, ⟨names, found, ways, rest, hnames, hfound, hways, hrest, rfl⟩, rfl⟩
  · rintro ⟨_, ⟨names', found', ways', rest, hnames', hfound', hways', hrest, rfl⟩, rfl⟩
    cases hnames.symm.trans hnames'
    cases hfound.symm.trans hfound'
    cases hways.symm.trans hways'
    exact ⟨rest, hrest, rfl⟩

/-- **What is visited is a file**, to which the names lead. -/
theorem exists_file_of_visits (htree : s.tree.Sound) (h : s.Visits f way) :
    (∀ name ∈ way, Tree.IsName name) ∧ ∃ c, s.tree.read s.here (s.names ++ way) = .ok c := by
  obtain ⟨names, found, ways, rest, hnames, hfound, hways, hrest, rfl⟩ := h
  obtain ⟨hfind, -⟩ := exists_of_directory? hfound
  obtain ⟨hfollow, hat⟩ := Tree.find_eq_ok.mp hfind
  obtain ⟨hname, place, left, c, hplace, hfile⟩ :=
    Tree.exists_file_of_mem_files htree hat hways hrest
  refine ⟨List.forall_mem_append.mpr ⟨isName_of_locate hnames, hname⟩, c, ?_⟩
  refine Tree.read_eq_ok.mpr ⟨place, left, ?_, hfile⟩
  rw [← List.append_assoc, Tree.follow_append hfollow]
  exact hplace

/-! ### The paths of requests -/

/-- A path lies under that of the directory: it has its components and then names. -/
def Under (s : Site) (path : RawText) : Prop :=
  ∃ names, components path = components s.root ++ names ∧ ∀ name ∈ names, Tree.IsName name

/-- **Requests lead below the directory**, whatever its path looks like.

* A request is refused exactly if one of its parts is two dots.
* Otherwise its path lies under that of the directory, its canonical form is got back from that
  path, and leads there too.
* Two requests lead to the same path exactly if they have the same canonical form.
* A listing gives the canonical path of each file that is visited. It leads to the path of the names
  as they are shown, which is the path of the file exactly if the names are texts; then the contents
  of the file are had for it, if the path can be looked at. -/
theorem leads_below (s : Site) (f : String) :
    (∀ e, s.resolve f = .error e ↔ ".." ∈ requested f ∧ e = .outsideRoot f) ∧
      (∀ path, s.resolve f = .ok path →
        s.Under path ∧ s.urlOf path = .ok (canonical f) ∧ s.resolve (canonical f) = .ok path) ∧
      (∀ g path path', s.resolve f = .ok path → s.resolve g = .ok path' →
        (components path = components path' ↔ canonical f = canonical g) ∧
          (path = path' ↔ canonical f = canonical g)) ∧
      ∀ listed, s.tree.Sound → s.list f = .ok listed →
        (∀ u, u ∈ listed ↔ ∃ way, s.Visits f way ∧ s.urlOf (s.shown way) = .ok u) ∧
          ∀ way u, s.Visits f way → s.urlOf (s.shown way) = .ok u →
            s.resolve u = .ok (s.shown (asShown way)) ∧
              (s.resolve u = .ok (s.shown way) ↔ ∀ name ∈ way, name.IsText) ∧
              ∃ c, s.tree.read s.here (s.names ++ way) = .ok c ∧
                ((∀ name ∈ way, name.IsText) → checkPath (s.shown way) = .ok () →
                  s.contents u = .ok c) := by
  refine ⟨fun e => resolve_eq_error, fun path hpath => ?_, fun g path path' hpath hpath' => ?_,
    fun listed htree hlist => ⟨fun u => ?_, fun way u hway hu => ?_⟩⟩
  · obtain ⟨names, rfl, hnames, htexts, hurl, hcomponents⟩ := exists_names_of_resolve hpath
    have hback := resolve_url s hnames
    rw [htexts, hurl] at hback
    exact ⟨⟨names, hcomponents, hnames⟩, hurl ▸ urlOf_shown s hnames, hback⟩
  · obtain ⟨names, rfl, hnames, htexts, hurl, hcomponents⟩ := exists_names_of_resolve hpath
    obtain ⟨names', rfl, hnames', htexts', hurl', hcomponents'⟩ := exists_names_of_resolve hpath'
    have hforms : names = names' ↔ canonical f = canonical g := by
      rw [← hurl, ← hurl']
      refine ⟨congrArg url, fun h => ?_⟩
      rw [← htexts, ← htexts', asShown_inj hnames hnames' h]
    rw [hcomponents, hcomponents', List.append_cancel_left_eq, shown_inj hnames hnames']
    exact ⟨hforms, hforms⟩
  · rw [mem_list_iff hlist]
    refine exists_congr fun way => and_congr_right fun hway => ?_
    rw [urlOf_shown s (exists_file_of_visits htree hway).1, Except.ok.injEq, eq_comm]
  · obtain ⟨hnames, c, hc⟩ := exists_file_of_visits htree hway
    rw [urlOf_shown s hnames] at hu
    cases hu
    have hresolve := resolve_url s hnames
    refine ⟨hresolve, ?_, c, hc, fun htexts hpath => ?_⟩
    · rw [hresolve, Except.ok.injEq, shown_inj (isName_asShown hnames) hnames, asShown_eq_iff]
    · exact contents_eq_ok.mpr ⟨way, locate_url_of_texts hnames htexts, hpath, hc⟩

/-- A directory in which one of the files is a link to another. -/
def linkedTree : Tree := .directory [("link.js", .link "./real.js"), ("real.js", .file "1".toUTF8)]

/-- The site of that directory, seen from the one above it. -/
def linked : Site where
  tree := .directory [("dist", linkedTree)]
  here := []
  names := ["dist"]
  root := "dist/."

theorem sound_linked : linked.tree.Sound := by
  have hname : ∀ name ∈ ["dist", "link.js", "real.js"],
      Tree.IsName name ∧ Tree.isValidName name = true := by
    intro name h
    simp only [List.mem_cons, List.not_mem_nil, or_false] at h
    obtain rfl | rfl | rfl := h <;> exact ⟨⟨⟨by decide, by decide, by decide⟩, by decide⟩, by decide⟩
  refine .directory ?_ (by decide) (List.forall_mem_singleton.mpr (.directory ?_ (by decide) ?_))
  · exact List.forall_mem_singleton.mpr (hname _ (by simp))
  · exact List.forall_mem_cons.mpr
      ⟨hname _ (by simp), List.forall_mem_singleton.mpr (hname _ (by simp))⟩
  · exact List.forall_mem_cons.mpr ⟨.link _, List.forall_mem_singleton.mpr (.file _)⟩

theorem directory?_linked : linked.directory? [] = some ⟨["dist"], linkedTree, Tree.linkLimit⟩ := by
  refine directory?_eq_some.mpr ⟨by decide, Tree.find_eq_ok.mpr ⟨?_, rfl⟩, _, rfl⟩
  have hdone : linked.tree.follow Tree.linkLimit ["dist"] [] =
      .ok (.existing ["dist"] Tree.linkLimit) := by rw [Tree.follow]
  rw [List.append_nil, linked, Tree.follow]
  exact hdone

/-- The files are visited in the order in which they stand. -/
theorem files_linked : linked.tree.files Tree.linkLimit (linked.walked []) ["dist"] linkedTree =
    .ok [["link.js"], ["real.js"]] := by
  have hfound : linked.tree.findWithin 39 ["dist"] [".", "real.js"] =
      .ok ⟨["dist", "real.js"], .file "1".toUTF8, 39⟩ := by
    have hvalid : Tree.isValidName "real.js" = true := by decide
    refine Tree.findWithin_eq_ok.mpr ⟨?_, rfl⟩
    simp [linked, linkedTree, Tree.follow, Tree.at?, hvalid, List.lookup_cons]
  have hwalked : linked.walked [] = 7 := by decide
  have hsize : 7 + ("link.js" : RawText).size ≤ Tree.pathLimit := by decide
  have hreal : linked.tree.filesOf (39 + 1) 7 ["dist"] [("real.js", .file "1".toUTF8)] =
      .ok [["real.js"]] := by
    rw [Tree.filesOf_cons (.file _), Tree.files, Tree.filesOf]
    rfl
  have hboth : linked.tree.filesOf (39 + 1) 7 ["dist"]
      [("link.js", .link "./real.js"), ("real.js", .file "1".toUTF8)] =
      .ok [["link.js"], ["real.js"]] := by
    rw [Tree.filesOf, hreal]
    simp only [if_pos hsize]
    split
    · next found h =>
      cases hfound.symm.trans h
      rw [Tree.files]
      rfl
    · next h => cases hfound.symm.trans h
  rw [linkedTree, Tree.files, if_pos (by decide), hwalked]
  exact hboth

theorem list_linked : linked.list "./" = .ok ["/link.js", "/real.js"] := by
  have hroot : locate "./" = .ok [] := by decide
  have hsorted : (["/link.js", "/real.js"] : List String).mergeSort = ["/link.js", "/real.js"] :=
    List.mergeSort_of_pairwise (by decide)
  have hurls : ([["link.js"], ["real.js"]] : List (List RawText)).map (fun way => url ([] ++ way)) =
      ["/link.js", "/real.js"] := by decide
  exact list_eq_ok.mpr ⟨[], _, _, hroot, directory?_linked, files_linked, by rw [hurls, hsorted]⟩

theorem leads_below_linked :
    linked.resolve "./real.js" = .ok "dist/./real.js" ∧
      linked.resolve "//real.js/" = .ok "dist/./real.js" ∧
      linked.tree.Sound ∧ linked.list "./" = .ok ["/link.js", "/real.js"] ∧
      linked.Visits "./" ["link.js"] ∧ linked.urlOf "dist/./link.js" = .ok "/link.js" ∧
      linked.urlOf "dist/./real.js" = .ok (canonical "./real.js") ∧
      canonical "./real.js" = canonical "//real.js/" ∧
      linked.resolve "/link.js" = .ok "dist/./link.js" ∧
      ∃ c, linked.tree.read [] ["dist", "link.js"] = .ok c ∧ linked.contents "/link.js" = .ok c := by
  have hpath : linked.resolve "./real.js" = .ok "dist/./real.js" := by decide
  have hpath' : linked.resolve "//real.js/" = .ok "dist/./real.js" := by decide
  have hvisits : linked.Visits "./" ["link.js"] :=
    ⟨[], _, _, ["link.js"], by decide, directory?_linked, files_linked, List.mem_cons_self, rfl⟩
  have hurl : linked.urlOf (linked.shown ["link.js"]) = .ok "/link.js" := by decide
  have htexts : ∀ name ∈ (["link.js"] : List RawText), name.IsText :=
    List.forall_mem_singleton.mpr ⟨_, rfl⟩
  obtain ⟨-, hone, htwo, -⟩ := leads_below linked "./real.js"
  obtain ⟨-, -, -, hlist⟩ := leads_below linked "./"
  obtain ⟨-, hlink, c, hc, hcontents⟩ :=
    (hlist _ sound_linked list_linked).2 ["link.js"] "/link.js" hvisits hurl
  exact ⟨hpath, hpath', sound_linked, list_linked, hvisits, hurl, (hone _ hpath).2.1,
    (htwo _ _ _ hpath hpath').2.mp rfl, hlink.mpr htexts, c, hc, hcontents htexts (by decide)⟩

/-! ### A name that is no text -/

/-- A directory in which the name of a file is no text. -/
def stray : Site where
  tree := .directory [("dist", .directory [(⟨[0xFF]⟩, .file "1".toUTF8)])]
  here := []
  names := ["dist"]
  root := "dist"

theorem sound_stray : stray.tree.Sound := by
  have hname : ∀ name ∈ ([(("dist" : String) : RawText), ⟨[0xFF]⟩] : List RawText),
      Tree.IsName name ∧ Tree.isValidName name = true := by
    intro name h
    simp only [List.mem_cons, List.not_mem_nil, or_false] at h
    obtain rfl | rfl := h <;> exact ⟨⟨⟨by decide, by decide, by decide⟩, by decide⟩, by decide⟩
  refine .directory ?_ (by decide) (List.forall_mem_singleton.mpr (.directory ?_ (by decide) ?_))
  · exact List.forall_mem_singleton.mpr (hname _ (by simp))
  · exact List.forall_mem_singleton.mpr (hname _ (by simp))
  · exact List.forall_mem_singleton.mpr (.file _)

theorem directory?_stray : stray.directory? [] =
    some ⟨["dist"], .directory [(⟨[0xFF]⟩, .file "1".toUTF8)], Tree.linkLimit⟩ := by
  refine directory?_eq_some.mpr ⟨by decide, Tree.find_eq_ok.mpr ⟨?_, rfl⟩, _, rfl⟩
  have hvalid : Tree.isValidName "dist" = true := by decide
  simp [stray, Tree.follow, Tree.at?, hvalid]

theorem files_stray : stray.tree.files Tree.linkLimit (stray.walked []) ["dist"]
    (.directory [(⟨[0xFF]⟩, .file "1".toUTF8)]) = .ok [[⟨[0xFF]⟩]] := by
  rw [Tree.files, if_pos (by decide), Tree.filesOf_cons (.file _), Tree.files, Tree.filesOf]
  rfl

/-- **The path that is listed for such a file** leads to another path, at which there is nothing. -/
theorem stray_leads_elsewhere : stray.tree.Sound ∧ stray.list "/" = .ok ["/\uFFFD"] ∧
    (∃ way, stray.Visits "/" way) ∧
    (∀ way, stray.Visits "/" way → stray.urlOf (stray.shown way) = .ok "/\uFFFD" ∧
      ∃ path, stray.resolve "/\uFFFD" = .ok path ∧ components path ≠ components (stray.shown way)) ∧
    stray.hash "/\uFFFD" = .error (.notFound "/\uFFFD") := by
  have hroot : locate "/" = .ok [] := by decide
  have hurls : ([[⟨[0xFF]⟩]] : List (List RawText)).map (fun way => url ([] ++ way)) =
      ["/\uFFFD"] := by decide
  refine ⟨sound_stray, ?_, ?_, fun way hway => ?_, ?_⟩
  · exact list_eq_ok.mpr ⟨[], _, _, hroot, directory?_stray, files_stray,
      by rw [hurls, List.mergeSort_singleton]⟩
  · exact ⟨_, [], _, _, _, hroot, directory?_stray, files_stray, List.mem_cons_self, rfl⟩
  · obtain ⟨names, found, ways, rest, hnames, hfound, hways, hrest, rfl⟩ := hway
    cases hroot.symm.trans hnames
    cases directory?_stray.symm.trans hfound
    cases files_stray.symm.trans hways
    cases List.mem_singleton.mp hrest
    exact ⟨by decide, "dist/\uFFFD", by decide, by decide⟩
  · have hlocate : locate "/\uFFFD" = .ok ["\uFFFD"] := by decide
    have hpath : checkPath (stray.shown ["\uFFFD"]) = .ok () := by decide
    have hread : stray.tree.read stray.here (stray.names ++ [("\uFFFD" : RawText)]) =
        .error .notFound := by
      have hvalid : Tree.isValidName "dist" = true ∧ Tree.isValidName "\uFFFD" = true := by decide
      have hother : (("\uFFFD" : RawText) == ⟨[0xFF]⟩) = false := by decide
      simp [stray, Tree.read, Tree.find, Tree.findWithin, Tree.follow, Tree.at?, hvalid, hother,
        List.lookup_cons]
    simp only [hash, contents, hlocate, hpath, hread, refusal, Bind.bind, Except.bind]
    rfl

end Site

end OfflineManifest
