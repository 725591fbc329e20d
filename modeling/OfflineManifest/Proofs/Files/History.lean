import Mathlib.Data.Finset.Card
import Mathlib.Data.List.Induction
import OfflineManifest.Proofs.Files.Memory

/-! # A memory store after any operations

Files are added to a memory store, with a pinned digest or without one, and written. An operation
puts a text under its path: a new path comes last, one that is there stays where it is
(`map_fst_putEntry`). By induction on the operations, the paths stand in the order in which they
first came, each once (`map_fst_run`, `nodup_run`), the text under a path is that of the last
operation on it (`get?_run`), and its digest is the one that was pinned last, or that of the text
(`hash_run`). An operation on another path changes nothing that a store says about a path
(`get?_perform_of_ne`, `hash_perform_of_ne`, `filter_list_perform`). -/

namespace OfflineManifest.MemoryStore

/-- What can be done to a store. -/
inductive Operation where
  | add (path text : String)
  | addPinned (path text digest : String)
  | write (path text : String)
  deriving DecidableEq, Repr

namespace Operation

/-- The path on which an operation works. -/
def path : Operation → String
  | add path _ | addPinned path _ _ | write path _ => path

/-- The text that an operation puts under its path. -/
def text : Operation → String
  | add _ text | addPinned _ text _ | write _ text => text

/-- The digest that an operation pins. -/
def pin? : Operation → Option String
  | addPinned _ _ digest => some digest
  | add .. | write .. => none

end Operation

/-- The store after an operation. -/
def perform (s : MemoryStore) : Operation → MemoryStore
  | .add path text => s.put path text
  | .addPinned path text digest => s.putPinned path text digest
  | .write path text => (FileStore.write s path text).2

/-- **The store after operations** on the empty one. -/
def run (ops : List Operation) : MemoryStore := ops.foldl perform empty

/-! ### What operations say -/

/-- The operations on a path. -/
def on (ops : List Operation) (f : String) : List Operation := ops.filter fun op => op.path = f

/-- The text of the last operation on a path. -/
def lastText? (ops : List Operation) (f : String) : Option String :=
  (on ops f).getLast?.map Operation.text

/-- The digest that was pinned last for a path. -/
def lastPin? (ops : List Operation) (f : String) : Option String :=
  ((on ops f).filterMap Operation.pin?).getLast?

/-- A path lies below a directory: it starts with that and a slash, which the directory may have at
its end already. -/
def IsBelow (directory f : String) : Prop :=
  directory.toList ++ ['/'] <+: f.toList ∨
    directory.toList.getLast? = some '/' ∧ directory.toList <+: f.toList

instance (directory f : String) : Decidable (IsBelow directory f) :=
  inferInstanceAs (Decidable (_ ∨ _))

variable {s : MemoryStore} {ops : List Operation} {op : Operation} {f : String}

theorem on_concat : on (ops ++ [op]) f = if op.path = f then on ops f ++ [op] else on ops f := by
  rw [on, on, List.filter_append]
  by_cases h : op.path = f <;> simp [h]

theorem lastText?_concat :
    lastText? (ops ++ [op]) f = if f = op.path then some op.text else lastText? ops f := by
  rw [lastText?, on_concat]
  by_cases h : f = op.path
  · rw [if_pos h.symm, if_pos h, List.getLast?_concat, Option.map_some]
  · rw [if_neg (Ne.symm h), if_neg h, lastText?]

theorem lastPin?_concat :
    lastPin? (ops ++ [op]) f = if f = op.path then op.pin?.or (lastPin? ops f) else lastPin? ops f := by
  rw [lastPin?, on_concat]
  by_cases h : f = op.path
  · rw [if_pos h.symm, if_pos h, List.filterMap_append, List.getLast?_append, lastPin?]
    cases hpin : op.pin? <;> simp [hpin]
  · rw [if_neg (Ne.symm h), if_neg h, lastPin?]

/-! ### One operation -/

theorem entries_perform (s : MemoryStore) (op : Operation) :
    (s.perform op).entries = putEntry op.path op.text s.entries := by
  cases op <;> rfl

theorem get?_perform (s : MemoryStore) (op : Operation) (f : String) :
    (s.perform op).get? f = if f = op.path then some op.text else s.get? f := by
  rw [get?, entries_perform, lookup_putEntry, get?]

theorem lookup_pins_perform (s : MemoryStore) (op : Operation) (f : String) :
    (s.perform op).pins.lookup f =
      if f = op.path then op.pin?.or (s.pins.lookup f) else s.pins.lookup f := by
  have hkept : s.pins.lookup f = if f = op.path then s.pins.lookup f else s.pins.lookup f :=
    (ite_self _).symm
  cases op with
  | add path text => exact hkept
  | write path text => exact hkept
  | addPinned path text digest => exact lookup_cons_eq f (path, digest) s.pins

/-- **The paths after an operation**: a new one comes last. -/
theorem map_fst_putEntry (path text : String) (entries : List (String × String)) :
    (putEntry path text entries).map Prod.fst =
      if path ∈ entries.map Prod.fst then entries.map Prod.fst
      else entries.map Prod.fst ++ [path] := by
  induction entries with
  | nil => rfl
  | cons e rest ih =>
    rw [putEntry]
    by_cases h : e.1 = path
    · simp [h]
    · rw [if_neg h, List.map_cons, ih]
      by_cases hrest : path ∈ rest.map Prod.fst
      · rw [if_pos hrest, List.map_cons, if_pos (List.mem_cons_of_mem _ hrest)]
      · have hnew : path ∉ e.1 :: rest.map Prod.fst :=
          List.not_mem_cons_of_ne_of_not_mem (Ne.symm h) hrest
        rw [if_neg hrest, List.map_cons, if_neg hnew, List.cons_append]

theorem get?_perform_of_ne (h : f ≠ op.path) : (s.perform op).get? f = s.get? f := by
  rw [get?_perform, if_neg h]

theorem hash_perform_of_ne (h : f ≠ op.path) : (s.perform op).hash f = s.hash f := by
  rw [hash, read, get?_perform_of_ne h, lookup_pins_perform, if_neg h, hash, read]

theorem read_perform_of_ne (h : f ≠ op.path) : (s.perform op).read f = s.read f := by
  rw [read, get?_perform_of_ne h, read]

/-- **An operation keeps the listing** but for its own path. -/
theorem filter_list_perform (s : MemoryStore) (op : Operation) (directory : String) :
    ((s.perform op).list directory).filter (· ≠ op.path) =
      (s.list directory).filter (· ≠ op.path) := by
  rw [list, entries_perform, map_fst_putEntry, list]
  by_cases h : op.path ∈ s.entries.map Prod.fst
  · rw [if_pos h]
  · rw [if_neg h, List.filter_append, List.filter_append, List.append_right_eq_self,
      List.filter_filter, List.filter_eq_nil_iff]
    simp

/-! ### Any operations -/

theorem run_concat (ops : List Operation) (op : Operation) :
    run (ops ++ [op]) = (run ops).perform op := by
  rw [run, List.foldl_concat, run]

theorem get?_run (ops : List Operation) (f : String) : (run ops).get? f = lastText? ops f := by
  induction ops using List.reverseRecOn with
  | nil => rfl
  | append_singleton ops op ih => rw [run_concat, get?_perform, ih, lastText?_concat]

theorem lookup_pins_run (ops : List Operation) (f : String) :
    (run ops).pins.lookup f = lastPin? ops f := by
  induction ops using List.reverseRecOn with
  | nil => rfl
  | append_singleton ops op ih => rw [run_concat, lookup_pins_perform, ih, lastPin?_concat]

/-- **The paths stand in the order in which they first came.** -/
theorem map_fst_run (ops : List Operation) :
    (run ops).entries.map Prod.fst = (ops.map Operation.path).eraseDups := by
  induction ops using List.reverseRecOn with
  | nil => rfl
  | append_singleton ops op ih =>
    rw [run_concat, entries_perform, map_fst_putEntry, ih, List.map_append, List.map_singleton,
      List.eraseDups_append]
    by_cases h : op.path ∈ ops.map Operation.path
    · have hold : [op.path].removeAll (ops.map Operation.path) = [] := by
        simpa [List.removeAll] using h
      rw [if_pos (List.mem_eraseDups.mpr h), hold, List.eraseDups_nil, List.append_nil]
    · have hnew : [op.path].removeAll (ops.map Operation.path) = [op.path] := by
        simpa [List.removeAll] using h
      rw [if_neg (h ∘ List.mem_eraseDups.mp), hnew]
      rfl

theorem nodup_run (ops : List Operation) : ((run ops).entries.map Prod.fst).Nodup := by
  induction ops using List.reverseRecOn with
  | nil => exact List.nodup_nil
  | append_singleton ops op ih =>
    rw [run_concat, entries_perform, map_fst_putEntry]
    by_cases h : op.path ∈ (run ops).entries.map Prod.fst
    · rwa [if_pos h]
    · rw [if_neg h]
      exact List.nodup_append.mpr ⟨ih, List.nodup_singleton _, by
        intro a ha b hb
        rw [List.mem_singleton.mp hb]
        exact ne_of_mem_of_not_mem ha h⟩

theorem size_run (ops : List Operation) :
    (run ops).size = (ops.map Operation.path).toFinset.card := by
  have hsame : (ops.map Operation.path).toFinset = ((run ops).entries.map Prod.fst).toFinset := by
    ext f
    rw [map_fst_run, List.mem_toFinset, List.mem_toFinset, List.mem_eraseDups]
  rw [hsame, List.toFinset_card_of_nodup (nodup_run ops), List.length_map, size]

theorem read_run (ops : List Operation) (f : String) :
    (run ops).read f =
      match lastText? ops f with
      | some text => .ok text
      | none => .error (.notFound f) := by
  have hget := get?_run ops f
  cases h : lastText? ops f <;> simp only [read, hget, h]

theorem hash_run (ops : List Operation) (f : String) :
    (run ops).hash f =
      match lastText? ops f with
      | some text => .ok ((lastPin? ops f).getD (Digest.ofBytes text.toUTF8).hex)
      | none => .error (.notFound f) := by
  have hread := read_run ops f
  cases h : lastText? ops f <;> (rw [h] at hread; rw [hash, hread, lookup_pins_run]; rfl)

theorem isPrefixOf_below {directory f : String} :
    (below directory).toList.isPrefixOf f.toList = decide (IsBelow directory f) := by
  rw [Bool.eq_iff_iff, decide_eq_true_iff, List.isPrefixOf_iff_prefix, below, IsBelow]
  by_cases h : directory.toList.getLast? = some '/'
  · rw [if_pos h]
    refine ⟨fun hprefix => Or.inr ⟨h, hprefix⟩, fun hprefix => ?_⟩
    rcases hprefix with hprefix | ⟨-, hprefix⟩
    · exact (List.prefix_append _ _).trans hprefix
    · exact hprefix
  · rw [if_neg h, String.toList_append]
    refine ⟨Or.inl, fun hprefix => hprefix.resolve_right fun hslash => h hslash.1⟩

theorem list_run (ops : List Operation) (directory : String) :
    (run ops).list directory =
      (ops.map Operation.path).eraseDups.filter fun f => IsBelow directory f := by
  rw [list, map_fst_run]
  exact List.filter_congr fun f _ => isPrefixOf_below

/-- **What a store answers after any operations.**

* It holds each path once, and as many paths as the operations name.
* Under a path is the text of the last operation on it; where there was none, nothing is found.
* The digest is the one that was pinned last, if there is one, and that of the text otherwise.
* A listing gives the paths below the directory in the order in which they first came.
* A further operation changes nothing that the store says about any path but its own. -/
theorem answers_run (ops : List Operation) :
    ((run ops).entries.map Prod.fst).Nodup ∧
      (run ops).size = (ops.map Operation.path).toFinset.card ∧
      (∀ f, (run ops).get? f = lastText? ops f ∧
        FileStore.read (run ops) f = (match lastText? ops f with
          | some text => .ok text
          | none => .error (.notFound f)) ∧
        FileStore.hash (run ops) f = (match lastText? ops f with
          | some text => .ok ((lastPin? ops f).getD (Digest.ofBytes text.toUTF8).hex)
          | none => .error (.notFound f))) ∧
      (∀ directory, FileStore.list (run ops) directory =
        .ok ((ops.map Operation.path).eraseDups.filter fun f => IsBelow directory f)) ∧
      ∀ op,
        (∀ f, f ≠ op.path → (run (ops ++ [op])).get? f = (run ops).get? f ∧
          FileStore.read (run (ops ++ [op])) f = FileStore.read (run ops) f ∧
          FileStore.hash (run (ops ++ [op])) f = FileStore.hash (run ops) f) ∧
        ∀ directory, ((run (ops ++ [op])).list directory).filter (· ≠ op.path) =
          ((run ops).list directory).filter (· ≠ op.path) := by
  refine ⟨nodup_run ops, size_run ops, fun f => ⟨get?_run ops f, read_run ops f, hash_run ops f⟩,
    fun directory => congrArg Except.ok (list_run ops directory), fun op => ?_⟩
  rw [run_concat]
  exact ⟨fun f h => ⟨get?_perform_of_ne h, read_perform_of_ne h, hash_perform_of_ne h⟩,
    filter_list_perform (run ops) op⟩

theorem answers_run_rewritten :
    "/b.js" ≠ (Operation.write "/a.js" "3").path ∧
      FileStore.hash (run [.addPinned "/b.js" "1" "b", .add "/a.js" "2", .write "/b.js" "4",
        .write "/a.js" "3"]) "/b.js" = .ok "b" := by
  have hne : "/b.js" ≠ (Operation.write "/a.js" "3").path := by decide
  obtain ⟨-, -, hheld, -, hother⟩ :=
    answers_run [.addPinned "/b.js" "1" "b", .add "/a.js" "2", .write "/b.js" "4"]
  obtain ⟨-, -, hhash⟩ := (hother (.write "/a.js" "3")).1 "/b.js" hne
  exact ⟨hne, hhash.trans (hheld "/b.js").2.2⟩

end OfflineManifest.MemoryStore
