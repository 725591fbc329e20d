import OfflineManifest.Files.Memory
import OfflineManifest.Proofs.KeyMap
import OfflineManifest.Proofs.Url

/-! # A memory store after a write

A write changes what is under one path, where the text is read back (`read_put`). The digest under
any other path stays, and its place in listings (`hash_put_of_ne`, `mem_list_put_of_ne`). A second
write of the same text changes nothing (`put_put`). -/

namespace OfflineManifest.MemoryStore

variable {s : MemoryStore} {f path text : String}

theorem lookup_putEntry (path text f : String) (entries : List (String × String)) :
    (putEntry path text entries).lookup f = if f = path then some text else entries.lookup f := by
  induction entries with
  | nil => rw [putEntry, lookup_cons_eq]
  | cons e rest ih =>
    unfold putEntry
    by_cases h : e.1 = path
    · rw [if_pos h, h]
      exact lookup_cons_replaced h
    · rw [if_neg h]
      exact lookup_cons_kept h ih

theorem get?_put (s : MemoryStore) (path text f : String) :
    (s.put path text).get? f = if f = path then some text else s.get? f :=
  lookup_putEntry path text f s.entries

theorem read_of_get? (h : s.get? f = some text) : s.read f = .ok text := by
  unfold read
  rw [h]

theorem read_put (s : MemoryStore) (path text : String) : (s.put path text).read path = .ok text := by
  refine read_of_get? ?_
  rw [get?_put, if_pos rfl]

/-- **A write keeps the digests under other paths.** -/
theorem hash_put_of_ne (h : f ≠ path) : (s.put path text).hash f = s.hash f := by
  unfold hash read get? put
  rw [lookup_putEntry, if_neg h]

/-- **A write keeps the listing** but for the path. -/
theorem mem_list_put_of_ne (h : f ≠ path) (directory : String) :
    f ∈ (s.put path text).list directory ↔ f ∈ s.list directory := by
  unfold list put
  rw [List.mem_filter, List.mem_filter, mem_map_fst_iff, mem_map_fst_iff, lookup_putEntry,
    if_neg h]

/-- Writing a text that is there changes nothing. -/
theorem put_put (s : MemoryStore) (path text : String) :
    (s.put path text).put path text = s.put path text := by
  have hentries : ∀ entries, putEntry path text (putEntry path text entries) =
      putEntry path text entries := by
    intro entries
    induction entries with
    | nil => rw [putEntry, putEntry, if_pos rfl]
    | cons e rest ih =>
      rw [putEntry]
      by_cases hp : e.1 = path
      · rw [if_pos hp, putEntry, if_pos hp]
      · rw [if_neg hp, putEntry, if_neg hp, ih]
  unfold put
  rw [hentries]

theorem rooted_of_mem_list (h : f ∈ s.list "/") : Url.Rooted f := by
  have hprefix := (List.mem_filter.mp h).2
  have hbelow : (below "/").toList = ['/'] := by decide
  rw [hbelow] at hprefix
  obtain ⟨rest, hrest⟩ := List.isPrefixOf_iff_prefix.mp hprefix
  unfold Url.Rooted
  rw [← hrest]
  rfl

end OfflineManifest.MemoryStore
