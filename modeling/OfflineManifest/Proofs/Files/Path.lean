import Mathlib.Data.List.Induction
import OfflineManifest.Proofs.Files.Site
import OfflineManifest.Proofs.Files.Walk
import OfflineManifest.Proofs.Text.Split

/-! # Paths in sites

The canonical path of names leads to the names as they are shown (`locate_url`): to the names
themselves if they are texts, and no two lists of texts have the same path (`url_inj`).

A name behind a path is the last part of the longer path, and the parts of the path itself come
first (`exists_segments_extend`). So the directory in which something with two names stands has the
path with the first one (`above?_extend`), and the components of a path with names behind it are
those of the path and then the names (`components_shown`), from which the canonical path is got back
(`urlOf_shown`). The bytes before what is in a directory are counted by `walked_append`. -/

namespace OfflineManifest.Site

variable {s : Site} {f : String} {path name : RawText} {names way : List RawText}

/-! ### Requests -/

theorem isText_of_locate (h : locate f = .ok names) : ∀ name ∈ names, name.IsText := by
  obtain ⟨-, rfl⟩ := locate_eq_ok.mp h
  intro name hname
  obtain ⟨part, -, -, rfl⟩ := mem_parts_iff.mp hname
  exact ⟨part, rfl⟩

theorem isName_of_locate (h : locate f = .ok names) : ∀ name ∈ names, Tree.IsName name := by
  intro name hname
  refine ⟨isPlain_of_locate h name hname, ?_⟩
  obtain ⟨-, rfl⟩ := locate_eq_ok.mp h
  obtain ⟨part, hpart, -, rfl⟩ := mem_parts_iff.mp hname
  obtain ⟨l, hl, rfl⟩ := List.mem_map.mp hpart
  rw [RawText.slash_mem_ofText_iff, String.toList_ofList]
  exact not_mem_of_mem_splitOn hl

/-! ### Canonical paths -/

/-- Names as they are shown. -/
def asShown (names : List RawText) : List RawText := names.map fun name => (name.lossy : RawText)

/-- Names are shown as they are exactly if they are texts. -/
theorem asShown_eq_iff : asShown names = names ↔ ∀ name ∈ names, name.IsText := by
  have hmap : asShown names = names.map id ↔ ∀ name ∈ names, (name.lossy : RawText) = id name :=
    List.map_inj_left
  simpa only [List.map_id, id, RawText.ofText_lossy_iff] using hmap

theorem asShown_of_locate (h : locate f = .ok names) : asShown names = names :=
  asShown_eq_iff.mpr (isText_of_locate h)

theorem url_asShown (names : List RawText) : url (asShown names) = url names := by
  simp [url, asShown, Function.comp_def]

theorem isName_lossy (h : Tree.IsName name) : Tree.IsName (name.lossy : RawText) := by
  obtain ⟨⟨hempty, hdot, hup⟩, hslash⟩ := h
  have hne : ∀ text : String, '\uFFFD' ∉ text.toList → name ≠ text →
      (name.lossy : RawText) ≠ text :=
    fun text htext hname heq =>
      hname (RawText.eq_ofText_of_lossy (RawText.ofText_inj.mp heq) htext)
  refine ⟨⟨hne "" (by simp) hempty, hne "." (by simp) hdot, hne ".." (by simp) hup⟩, fun h => ?_⟩
  exact hslash (RawText.slash_mem_of_lossy (RawText.slash_mem_ofText_iff.mp h))

theorem isName_asShown (h : ∀ name ∈ names, Tree.IsName name) :
    ∀ name ∈ asShown names, Tree.IsName name := by
  intro name hname
  obtain ⟨name', hname', rfl⟩ := List.mem_map.mp hname
  exact isName_lossy (h name' hname')

theorem toList_url (names : List RawText) :
    (url names).toList = names.flatMap fun name => '/' :: name.lossy.toList := by
  unfold url
  induction names with
  | nil => rfl
  | cons name names ih =>
    rw [List.map_cons, String.join_cons, String.toList_append, ih, List.flatMap_cons,
      String.toList_append]
    rfl

theorem splitOn_flatMap : ∀ {ls : List String} {first : List Char}, '/' ∉ first →
    (∀ part ∈ ls, '/' ∉ part.toList) →
    (first ++ ls.flatMap fun part => '/' :: part.toList).splitOn '/' =
      first :: ls.map String.toList
  | [], first, hfirst, _ => by
    rw [List.flatMap_nil, List.append_nil, List.splitOn_eq_singleton hfirst, List.map_nil]
  | part :: ls, first, hfirst, h => by
    rw [List.forall_mem_cons] at h
    rw [List.flatMap_cons, List.cons_append,
      List.splitOn_append_cons_self_of_not_mem hfirst, splitOn_flatMap h.1 h.2, List.map_cons]

/-- The parts of a canonical path are the names as they are shown. -/
theorem requested_url (h : ∀ name ∈ names, Tree.IsName name) :
    requested (url names) = "" :: names.map RawText.lossy := by
  have hsplit : ((names.map RawText.lossy).flatMap fun part => '/' :: part.toList).splitOn '/' =
      [] :: (names.map RawText.lossy).map String.toList := by
    refine splitOn_flatMap List.not_mem_nil fun part hpart => ?_
    obtain ⟨name, hname, rfl⟩ := List.mem_map.mp hpart
    exact fun hslash => (h name hname).slash (RawText.slash_mem_of_lossy hslash)
  rw [List.flatMap_map] at hsplit
  unfold requested
  rw [toList_url, hsplit, List.map_cons, List.map_map]
  exact congrArg ("" :: ·) (List.map_id'' (fun part => String.ofList_toList) _)

/-- **The canonical path of names** leads to the names as they are shown. -/
theorem locate_url (h : ∀ name ∈ names, Tree.IsName name) :
    locate (url names) = .ok (asShown names) := by
  have hparts : ∀ name ∈ names, name.lossy ≠ "" ∧ name.lossy ≠ "." ∧ name.lossy ≠ ".." := by
    intro name hname
    obtain ⟨hempty, hdot, hup⟩ := (isName_lossy (h name hname)).isPlain
    exact ⟨fun heq => hempty (congrArg _ heq), fun heq => hdot (congrArg _ heq),
      fun heq => hup (congrArg _ heq)⟩
  rw [locate_eq_ok, parts, requested_url h]
  constructor
  · intro hup
    obtain ⟨name, hname, heq⟩ := List.mem_map.mp ((List.mem_cons.mp hup).resolve_left (by decide))
    exact (hparts name hname).2.2 heq
  · rw [List.filter_cons_of_neg (by simp), List.filter_eq_self.mpr, List.map_map]
    · rfl
    · intro part hpart
      obtain ⟨name, hname, rfl⟩ := List.mem_map.mp hpart
      obtain ⟨hempty, hdot, -⟩ := hparts name hname
      simp [hempty, hdot]

theorem locate_url_of_texts (h : ∀ name ∈ names, Tree.IsName name)
    (htexts : ∀ name ∈ names, name.IsText) : locate (url names) = .ok names := by
  rw [locate_url h, asShown_eq_iff.mpr htexts]

theorem asShown_inj (hnames : ∀ name ∈ names, Tree.IsName name)
    (hway : ∀ name ∈ way, Tree.IsName name) (h : url names = url way) :
    asShown names = asShown way := by
  have hlocate := locate_url hnames
  rw [h, locate_url hway] at hlocate
  exact (Except.ok.inj hlocate).symm

/-- **Texts with the same canonical path** are the same. -/
theorem url_inj (hnames : ∀ name ∈ names, Tree.IsName name) (hway : ∀ name ∈ way, Tree.IsName name)
    (htexts : ∀ name ∈ names, name.IsText) (htexts' : ∀ name ∈ way, name.IsText)
    (h : url names = url way) : names = way := by
  rw [← asShown_eq_iff.mpr htexts, ← asShown_eq_iff.mpr htexts', asShown_inj hnames hway h]

/-! ### A name behind a path -/

theorem extend_eq (path name : RawText) : extend path name = extend path "" ++ name := by
  have hempty (t : RawText) : ("" : RawText) ++ t = t := rfl
  unfold extend
  split
  · rw [hempty]
  · split <;> simp [RawText.append_assoc]

theorem bytes_ne_nil (h : Tree.IsName name) : name.bytes ≠ [] := fun hnil =>
  h.isPlain.1 (RawText.eq_empty_iff.mpr hnil)

theorem extend_ne_empty (path : RawText) (h : Tree.IsName name) : extend path name ≠ "" := by
  intro heq
  rw [extend_eq, RawText.eq_empty_iff, RawText.bytes_append, List.append_eq_nil_iff] at heq
  exact bytes_ne_nil h heq.2

/-- Behind a name a slash is needed before the next one. -/
theorem extend_extend (path next : RawText) (h : Tree.IsName name) :
    extend (extend path name) next = extend path name ++ "/" ++ next := by
  have hlast : (extend path name).bytes.getLast? ≠ some RawText.slash := by
    rw [extend_eq, RawText.bytes_append, List.getLast?_append_of_ne_nil _ (bytes_ne_nil h)]
    exact fun hslash => h.slash (List.mem_of_getLast? hslash)
  have hempty := extend_ne_empty path h
  generalize extend path name = longer at hlast hempty ⊢
  unfold extend
  rw [if_neg hempty, if_neg hlast]

theorem shown_concat (s : Site) (names : List RawText) (name : RawText) :
    s.shown (names ++ [name]) = extend (s.shown names) name := by
  unfold shown
  rw [List.foldl_append]
  rfl

/-- The path of something below the directory is not empty. -/
theorem shown_ne_empty (s : Site) (h : ∀ name ∈ names, Tree.IsName name) (hne : names ≠ []) :
    s.shown names ≠ "" := by
  obtain ⟨above, name, rfl⟩ := (List.eq_nil_or_concat' names).resolve_left hne
  rw [shown_concat]
  exact extend_ne_empty _ (h name (by simp))

/-! ### Sizes -/

theorem size_shown_concat (s : Site) (names : List RawText) (name : RawText) :
    (s.shown (names ++ [name])).size = s.walked names + name.size := by
  rw [shown_concat, extend_eq, RawText.size_append]
  rfl

theorem walked_concat (s : Site) (names : List RawText) (h : Tree.IsName name) :
    s.walked (names ++ [name]) = s.walked names + (name.size + 1) := by
  unfold walked
  rw [shown_concat, extend_extend _ _ h, RawText.append_empty, RawText.size_append, ← shown_concat,
    size_shown_concat]
  rfl

/-- **The bytes before what is in a directory** are those of its names, with a slash for each. -/
theorem walked_append (s : Site) (above : List RawText) (h : ∀ name ∈ names, Tree.IsName name) :
    s.walked (above ++ names) = s.walked above + Tree.waySize names := by
  induction names generalizing above with
  | nil => rw [List.append_nil]; rfl
  | cons name names ih =>
    rw [List.forall_mem_cons] at h
    have hnames := ih (above ++ [name]) h.2
    rw [List.append_assoc, List.singleton_append, walked_concat s above h.1] at hnames
    rw [hnames, Tree.waySize]
    omega

theorem waySize_le_of_prefix (h : way <+: names) : Tree.waySize way ≤ Tree.waySize names := by
  obtain ⟨rest, rfl⟩ := h
  rw [Tree.waySize_append]
  exact Nat.le_add_right _ _

/-- A directory is walked through exactly if its path is not too long to be looked at. -/
theorem walked_le_iff (s : Site) (h : ∀ name ∈ names, Tree.IsName name) (hne : names ≠ []) :
    s.walked names ≤ Tree.pathLimit + 1 ↔ (s.shown names).size ≤ Tree.pathLimit := by
  obtain ⟨above, name, rfl⟩ := (List.eq_nil_or_concat' names).resolve_left hne
  rw [walked_concat s above (h name (by simp)), size_shown_concat]
  omega

theorem size_extend_empty (path : RawText) :
    path.size ≤ (extend path "").size ∧ (extend path "").size ≤ path.size + 1 := by
  have hslash : ("/" : RawText).size = 1 := rfl
  have hempty : ("" : RawText).size = 0 := rfl
  unfold extend
  split_ifs with hpath hlast
  · rw [hpath]
    omega
  · rw [RawText.size_append]
    omega
  · rw [RawText.size_append, RawText.size_append]
    omega

/-- A path is at least as long as that of the directory in which it ends. -/
theorem size_shown_dropLast_le (s : Site) (names : List RawText) :
    (s.shown names.dropLast).size ≤ (s.shown names).size := by
  induction names using List.reverseRecOn with
  | nil => rfl
  | append_singleton names name ih =>
    have hsize := (size_extend_empty (s.shown names)).1
    rw [List.dropLast_concat, shown_concat, extend_eq, RawText.size_append]
    omega

theorem size_le_of_checkPath (h : checkPath path = .ok ()) : path.size ≤ Tree.pathLimit := by
  unfold checkPath at h
  split_ifs at h with hempty hvalid
  unfold Tree.isValidPath at hvalid
  rw [Bool.and_eq_true, decide_eq_true_eq] at hvalid
  exact hvalid.2

/-! ### Parts of paths -/

theorem joined_segments (path : RawText) : joined (Tree.segments path) = path := by
  unfold joined Tree.segments
  rw [List.map_map, RawText.eq_iff]
  exact (congrArg _ (List.map_id _)).trans (List.intercalate_splitOn RawText.slash)

theorem segments_behind_slash (path : RawText) (h : RawText.slash ∉ name.bytes) :
    Tree.segments (path ++ "/" ++ name) = Tree.segments path ++ [name] := by
  have hbytes : (path ++ "/" ++ name).bytes = path.bytes ++ RawText.slash :: name.bytes := by
    rw [RawText.bytes_append, RawText.bytes_append, List.append_assoc]
    rfl
  unfold Tree.segments
  rw [hbytes, List.splitOn_append_cons_self, List.splitOn_eq_singleton h, List.map_append,
    List.map_singleton]

theorem segments_of_name (h : RawText.slash ∉ name.bytes) : Tree.segments name = [name] := by
  unfold Tree.segments
  rw [List.splitOn_eq_singleton h, List.map_singleton]

theorem segments_ne_nil (path : RawText) : Tree.segments path ≠ [] := fun h =>
  List.splitOn_ne_nil RawText.slash path.bytes (List.map_eq_nil_iff.mp h)

/-- A name behind a path is the last part; the others count as before. -/
theorem exists_segments_extend (hslash : RawText.slash ∉ name.bytes) (hpath : path ≠ "") :
    ∃ front, front ≠ [] ∧ Tree.segments (extend path name) = front ++ [name] ∧
      (Tree.segments path = front ∨ Tree.segments path = front ++ [("" : RawText)]) := by
  unfold extend
  rw [if_neg hpath]
  split
  · next hlast =>
    obtain ⟨bytes, hbytes⟩ := List.getLast?_eq_some_iff.mp hlast
    have hfront : path = ⟨bytes⟩ ++ "/" := RawText.eq_iff.mpr hbytes
    have hnone : RawText.slash ∉ ("" : RawText).bytes := List.not_mem_nil
    have hsegments := segments_behind_slash ⟨bytes⟩ hnone
    rw [RawText.append_empty, ← hfront] at hsegments
    refine ⟨_, segments_ne_nil _, ?_, Or.inr hsegments⟩
    rw [hfront]
    exact segments_behind_slash _ hslash
  · exact ⟨_, segments_ne_nil path, segments_behind_slash path hslash, Or.inl rfl⟩

/-! ### The directory above -/

theorem not_isIdle (h : Tree.IsName name) : isIdle name = false := by
  obtain ⟨⟨hempty, hdot, -⟩, -⟩ := h
  simp [isIdle, hempty, hdot]

theorem trimmed_concat (parts : List RawText) (h : Tree.IsName name) :
    trimmed (parts ++ [name]) = parts ++ [name] := by
  unfold trimmed
  rw [List.reverse_append, List.reverse_singleton, List.singleton_append,
    List.dropWhile_cons_of_neg (by simp [not_isIdle h]), List.reverse_cons, List.reverse_reverse]

/-- What is made for names are the directories that the names before the last one lead to. -/
theorem leading_append (above : List RawText) (h : ∀ name ∈ names, Tree.IsName name)
    (hne : names ≠ []) : leading (above ++ names) = above ++ names.dropLast := by
  obtain ⟨init, name, rfl⟩ := (List.eq_nil_or_concat' names).resolve_left hne
  rw [List.dropLast_concat, ← List.append_assoc, leading, trimmed_concat _ (h name (by simp)),
    List.dropLast_concat]

theorem leading_prefix (parts : List RawText) : leading parts <+: parts := by
  have htrimmed : trimmed parts <+: parts := by
    unfold trimmed
    rw [← List.reverse_suffix, List.reverse_reverse]
    exact List.dropWhile_suffix isIdle
  exact (List.dropLast_prefix _).trans htrimmed

/-- **The directory in which something stands** has the path without the last name. -/
theorem above?_extend {next : RawText} (h : Tree.IsName name) (hnext : Tree.IsName next) :
    above? (extend (extend path name) next) = some (extend path name) := by
  have hsegments : Tree.segments (extend (extend path name) next) =
      Tree.segments (extend path name) ++ [next] := by
    rw [extend_extend path next h]
    exact segments_behind_slash _ hnext.slash
  obtain ⟨front, hfront⟩ : ∃ front, Tree.segments (extend path name) = front ++ [name] := by
    by_cases hpath : path = ""
    · refine ⟨[], ?_⟩
      rw [hpath, extend, if_pos rfl, segments_of_name h.slash, List.nil_append]
    · obtain ⟨front, -, hfront, -⟩ := exists_segments_extend h.slash hpath
      exact ⟨front, hfront⟩
  have hjoined := joined_segments (extend path name)
  unfold above?
  rw [hsegments, hfront]
  rw [hfront] at hjoined
  cases front with
  | nil =>
    have hrest : trimmed [next] = [next] := trimmed_concat [] hnext
    have hkept : trimmed [] = [] := rfl
    simpa [hrest, hkept, h.isPlain.1] using hjoined
  | cons first mid =>
    have hrest : trimmed (mid ++ [name] ++ [next]) = mid ++ [name] ++ [next] :=
      trimmed_concat _ hnext
    have hkept : trimmed (mid ++ [name]) = mid ++ [name] := trimmed_concat _ h
    simp only [List.cons_append, List.tail_cons, List.headD_cons, hrest, List.dropLast_concat,
      hkept]
    simpa using hjoined

/-! ### Components -/

/-- The parts of a path that lead somewhere. -/
theorem filter_segments_extend (h : Tree.IsName name) :
    (Tree.segments (extend path name)).filter (!isIdle ·) =
      (Tree.segments path).filter (!isIdle ·) ++ [name] := by
  have hname : [name].filter (!isIdle ·) = [name] := by simp [not_isIdle h]
  have hidle : [("" : RawText)].filter (!isIdle ·) = [] := by decide
  by_cases hpath : path = ""
  · have hnothing : (Tree.segments "").filter (!isIdle ·) = [] := by decide
    rw [hpath, hnothing, extend, if_pos rfl, segments_of_name h.slash, hname, List.nil_append]
  · obtain ⟨front, -, hextend, hfront | hfront⟩ := exists_segments_extend h.slash hpath
    · rw [hextend, hfront, List.filter_append, hname]
    · rw [hextend, hfront, List.filter_append, List.filter_append, hname, hidle, List.append_nil]

theorem origin_extend (h : Tree.IsName name) : origin (extend path name) = origin path := by
  unfold origin
  by_cases hpath : path = ""
  · have hhead : name.bytes.head? ≠ some RawText.slash := fun hhead =>
      h.slash (List.mem_of_head? hhead)
    have hnothing : origin "" = [] := by decide
    unfold origin at hnothing
    rw [hpath, hnothing, extend, if_pos rfl, if_neg hhead, segments_of_name h.slash, if_neg]
    simpa using h.isPlain.2.1
  · obtain ⟨front, hne, hextend, hfront⟩ := exists_segments_extend h.slash hpath
    have hsegments : (Tree.segments (extend path name)).head? = (Tree.segments path).head? := by
      rcases hfront with hfront | hfront <;>
        simp [hextend, hfront, List.head?_append_of_ne_nil _ hne]
    have hbytes : (extend path name).bytes.head? = path.bytes.head? := by
      have hne : path.bytes ≠ [] := fun hnil => hpath (RawText.eq_empty_iff.mpr hnil)
      unfold extend
      rw [if_neg hpath]
      split <;> simp [List.head?_append_of_ne_nil _ hne]
    rw [hsegments, hbytes]

/-- **The components of a path with names behind it.** -/
theorem components_shown (s : Site) (h : ∀ name ∈ names, Tree.IsName name) :
    components (s.shown names) = components s.root ++ names := by
  induction names using List.reverseRecOn with
  | nil => rw [List.append_nil]; rfl
  | append_singleton names name ih =>
    rw [List.forall_mem_append, List.forall_mem_singleton] at h
    rw [shown_concat, components, origin_extend h.2, filter_segments_extend h.2,
      ← List.append_assoc, ← components, ih h.1, List.append_assoc]

theorem shown_inj (hnames : ∀ name ∈ names, Tree.IsName name)
    (hway : ∀ name ∈ way, Tree.IsName name) : s.shown names = s.shown way ↔ names = way := by
  refine ⟨fun h => ?_, congrArg s.shown⟩
  have hsame := congrArg components h
  rwa [components_shown s hnames, components_shown s hway, List.append_cancel_left_eq] at hsame

/-- **The canonical path is got back** from the path. -/
theorem urlOf_shown (s : Site) (h : ∀ name ∈ names, Tree.IsName name) :
    s.urlOf (s.shown names) = .ok (url names) := by
  unfold urlOf
  rw [components_shown s h, if_pos (List.isPrefixOf_iff_prefix.mpr (List.prefix_append _ _)),
    List.drop_left]

end OfflineManifest.Site
