import OfflineManifest.Proofs.Files.Site

/-! # Writing a file again

What is put at a place is there (`Tree.at?_put_snoc`), and to put there what is there already
changes nothing (`Tree.put_self`). So directories that were made are found when they are to be made
again (`Tree.makeDirectories_again`), and writing the same contents to the same path a second time
leaves a site as it is (`Site.writeBytes_again`). Links may be on the way. -/

namespace OfflineManifest

namespace Tree

variable {t u new : Tree} {name : RawText} {entries : List (RawText × Tree)} {p q : List RawText}

/-! ### Putting -/

theorem putEntry_self (h : entries.lookup name = some u) : putEntry name u entries = entries := by
  induction entries with
  | nil => cases h
  | cons e rest ih =>
    rw [lookup_cons_eq] at h
    unfold putEntry
    by_cases hname : e.1 = name
    · rw [if_pos hname.symm] at h
      rw [if_pos hname, ← Option.some.inj h]
    · rw [if_neg (Ne.symm hname)] at h
      rw [if_neg hname, ih h]

theorem put_self (h : t.at? p = some u) : t.put p u = t := by
  induction p generalizing t with
  | nil =>
    cases h
    rw [put]
  | cons name p ih =>
    obtain ⟨entries, v, rfl, hv, hp⟩ := exists_of_at?_cons h
    rw [put_cons hv, ih hp, putEntry_self hv]

/-- A change below a place is a change of what is at the place. -/
theorem at?_put (h : t.at? p = some u) (q : List RawText) (new : Tree) :
    (t.put (p ++ q) new).at? p = some (u.put q new) := by
  induction p generalizing t with
  | nil =>
    cases h
    rfl
  | cons name p ih =>
    obtain ⟨entries, v, rfl, hv, hp⟩ := exists_of_at?_cons h
    rw [List.cons_append, put_cons hv, at?_cons, lookup_putEntry, if_pos rfl, Option.bind_some]
    exact ih hp

theorem at?_put_snoc {d : List RawText} (h : t.at? d = some (directory entries)) :
    (t.put (d ++ [name]) new).at? (d ++ [name]) = some new := by
  have hput := at?_put h [name] new
  rw [put] at hput
  rw [at?_snoc hput, lookup_putEntry, if_pos rfl]

/-! ### Making directories and writing again -/

variable {P : List RawText → Prop} {top top' t' : Tree} {links : ℕ}
  {here names place : List RawText}

/-- A name that is vacant where it is looked up can be that of an entry. -/
theorem not_skipped_of_vacant (h : top.follow links here [name] = .ok (.vacant here name)) :
    ¬ (name = "" ∨ name = ".") ∧ name ≠ ".." ∧ isValidName name = true := by
  obtain ⟨entries, hhere, hnone⟩ := vacant_of_follow h
  rw [follow, hhere] at h
  simp only [hnone] at h
  split at h
  · rw [follow] at h
    cases h
  · next hskip =>
    split at h
    · rw [follow] at h
      cases h
    · next hup =>
      split at h
      · cases h
      · next hvalid => exact ⟨hskip, hup, by simpa using hvalid⟩

theorem follow_of_directory {es fs : List (RawText × Tree)} (hskip : ¬ (name = "" ∨ name = "."))
    (hup : name ≠ "..") (hvalid : isValidName name = true)
    (hhere : top.at? here = some (directory es))
    (hname : top.at? (here ++ [name]) = some (directory fs)) :
    top.follow links here [name] = .ok (.existing (here ++ [name]) links) := by
  rw [at?_snoc hhere] at hname
  rw [follow, hhere]
  simp only [if_neg hskip, if_neg hup, hvalid, hname, Bool.not_true, Bool.false_eq_true, if_false]
  rw [follow]

/-- **Directories that were made** are found again, whatever was added since. -/
theorem makeDirectories_again (h : top.makeDirectories links here names = (.ok place, top'))
    (hext : Extends P top' t') : t'.makeDirectories links here names = (.ok place, t') := by
  induction names generalizing top links here with
  | nil =>
    cases h
    rfl
  | cons name rest ih =>
    unfold makeDirectories at h ⊢
    split at h
    · next d left hfollow =>
      split at h
      · next es hes =>
        have hall : Extends P top t' := (extends_makeDirectories h).trans hext
        obtain ⟨es', hes'⟩ := hall.directory d es hes
        rw [follow_of_extends hall hfollow]
        simp only [hes']
        exact ih h
      · cases h
    · next d new hfollow =>
      split at h
      -- the directory was new then, and is found the second time
      · next heq =>
        rw [heq.1, heq.2] at hfollow
        obtain ⟨hskip, hup, hvalid⟩ := not_skipped_of_vacant hfollow
        obtain ⟨entries, hhere, hnone⟩ := vacant_of_follow hfollow
        have hrest : Extends P (top.put (here ++ [name]) (directory [])) t' :=
          (extends_makeDirectories h).trans hext
        have hput : Extends P top (top.put (here ++ [name]) (directory [])) :=
          extends_put_vacant hhere hnone at?_empty_ne_link
        obtain ⟨es, hes⟩ := (hput.trans hrest).directory here entries hhere
        obtain ⟨fs, hfs⟩ := hrest.directory (here ++ [name]) [] (at?_put_snoc hhere)
        rw [follow_of_directory hskip hup hvalid hes hfs]
        simp only [hfs]
        exact ih h
      · cases h
    · cases h

theorem exists_put_of_write {c : ByteArray} (h : top.write here names c = .ok top') :
    ∃ dest, top.follow linkLimit here names = .ok dest ∧ top' = top.put dest.place (file c) ∧
      top'.at? dest.place = some (file c) := by
  unfold write at h
  split at h
  · next d left hfollow =>
    split at h
    · next old hold =>
      cases h
      have hput := at?_put hold [] (file c)
      rw [List.append_nil] at hput
      exact ⟨_, hfollow, rfl, hput⟩
    · cases h
  · next d name hfollow =>
    obtain ⟨entries, hd, -⟩ := vacant_of_follow hfollow
    cases h
    exact ⟨_, hfollow, rfl, at?_put_snoc hd⟩
  · cases h

/-- **A file that was written** is written again without a change. -/
theorem write_again {c : ByteArray} (h : top.write here names c = .ok top') :
    top'.write here names c = .ok top' := by
  obtain ⟨dest, hdest, hext⟩ := extends_write h
  obtain ⟨dest', hdest', -, hthere⟩ := exists_put_of_write h
  cases hdest.symm.trans hdest'
  obtain ⟨left, hleft, -⟩ := exists_follow_of_extends hext hdest fun d name heq =>
    ⟨file c, by rw [← hthere, heq]; rfl, fun _ h => by cases h⟩
  unfold write
  rw [hleft]
  simp only [hthere, put_self hthere]

end Tree

namespace Site

/-- Directories above a path that were made are found again. -/
theorem makeDirectories_again {s : Site} {names : List RawText} {tree tree' : Tree}
    {P : List RawText → Prop} (h : s.makeDirectories names = (.ok (), tree))
    (hext : tree.Extends P tree') :
    Site.makeDirectories { s with tree := tree' } names = (.ok (), tree') := by
  have hshown : Site.shown { s with tree := tree' } names = s.shown names := rfl
  unfold makeDirectories at h ⊢
  rw [hshown]
  split at h
  · rfl
  · next above habove =>
    split_ifs at h ⊢ with hempty
    · rfl
    · dsimp only at h ⊢
      split at h
      · cases h
      · rcases hmade : s.tree.makeDirectories Tree.linkLimit s.here (leading (s.names ++ names))
          with ⟨made, top⟩
        rw [hmade] at h
        cases made with
        | error fault => cases h
        | ok place =>
          cases h
          rw [Tree.makeDirectories_again hmade hext]
          rfl

/-- **Writing a second time** the same contents to the same path changes nothing. -/
theorem writeBytes_again {s t : Site} {path : String} {bytes : ByteArray}
    (h : s.writeBytes path bytes = (.ok (), t)) : t.writeBytes path bytes = (.ok (), t) := by
  obtain ⟨names, tree, tree', hnames, hmade, hpath, hwritten, rfl⟩ := writeBytes_eq_ok.mp h
  obtain ⟨dest, -, hext⟩ := Tree.extends_write hwritten
  exact writeBytes_eq_ok.mpr ⟨names, tree', tree', hnames, makeDirectories_again hmade hext, hpath,
    Tree.write_again hwritten, rfl⟩

end Site

end OfflineManifest
