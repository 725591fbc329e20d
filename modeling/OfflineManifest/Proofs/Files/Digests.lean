import OfflineManifest.Files.Memory
import OfflineManifest.Proofs.Digest.Pieces
import OfflineManifest.Proofs.Digest.Written
import OfflineManifest.Proofs.Files.Site

/-! # Digests in directories and in memory

A file in a directory is read in pieces, a file in memory is at hand as a whole. The digest is that
of the bytes in either case, so the two kinds of stores report the same digest for the same
contents. -/

namespace OfflineManifest

theorem Digest.ofFile_eq_ofBytes (bytes : ByteArray) : ofFile bytes = ofBytes bytes := by
  unfold ofFile ofBytes
  rw [ofPieces_eq_ofList, flatten_inPieces (by decide)]

/-- The digest of a file in a directory. -/
theorem Site.hash_of_contents {s : Site} {f : String} {bytes : ByteArray}
    (h : s.contents f = .ok bytes) : s.hash f = .ok (Digest.ofBytes bytes).hex :=
  Site.hash_eq_ok.mpr ⟨bytes, h, by rw [Digest.ofFile_eq_ofBytes]⟩

/-- The digest of a file in memory that has no pinned one. -/
theorem MemoryStore.hash_of_get? {s : MemoryStore} {f text : String} (h : s.get? f = some text)
    (hpin : s.pins.lookup f = none) : s.hash f = .ok (Digest.ofBytes text.toUTF8).hex := by
  unfold hash read
  rw [h, hpin]
  rfl

/-- **Digests do not depend on the way in which bytes arrive.** An input in pieces of any sizes has
the digest of the whole input, which is written with 32 lower-case hexadecimal digits, the least
significant byte first. A directory and a memory store that hold the same contents report the same
digest for it. -/
theorem Digest.independent_of_pieces :
    (∀ pieces : List (List UInt8),
      ofPieces pieces = ofList pieces.flatten ∧ (ofPieces pieces).hex.length = 32 ∧
        (ofPieces pieces).hex.toList =
          (List.range 16).flatMap fun i => digitPair (byte (ofList pieces.flatten).value i)) ∧
    ∀ (site : Site) (store : MemoryStore) (f g text : String),
      site.contents f = .ok text.toUTF8 → store.get? g = some text →
        store.pins.lookup g = none →
          FileStore.hash site f = .ok (ofBytes text.toUTF8).hex ∧
            FileStore.hash store g = .ok (ofBytes text.toUTF8).hex := by
  constructor
  · intro pieces
    have heq := ofPieces_eq_ofList pieces
    exact ⟨heq, length_hex _, by rw [heq, toList_hex]⟩
  · intro site store f g text hsite hstore hpin
    exact ⟨Site.hash_of_contents hsite, MemoryStore.hash_of_get? hstore hpin⟩

/-! ### A long note -/

/-- A text of one letter, as long as wanted. -/
def letters (n : ℕ) : String := String.ofList (List.replicate n 'a')

theorem bytes_letters (n : ℕ) : (letters n).toUTF8.data.toList = List.replicate n 0x61 := by
  have hbytes (text : String) :
      text.toUTF8.data.toList = text.toList.flatMap String.utf8EncodeChar := Text.bytes_eq text
  have hchar : String.utf8EncodeChar 'a' = [0x61] := by decide
  rw [hbytes, letters, String.toList_ofList, List.flatMap_replicate, hchar,
    List.flatten_replicate_singleton]

/-- A text that is too long to be read in one piece. -/
def longNote : String := letters 70000

/-- A directory with the note. -/
def Site.note : Site where
  tree := .directory [("dist", .directory [("note.txt", .file longNote.toUTF8)])]
  here := []
  names := ["dist"]
  root := "dist"

/-- A memory store with the same note under another name, and a pinned digest for a second file. -/
def MemoryStore.note : MemoryStore where
  entries := [("/logo.svg", "<svg>"), ("/copy.txt", longNote)]
  pins := [("/logo.svg", "pinned")]

theorem Site.contents_note : note.contents "/./note.txt" = .ok longNote.toUTF8 := by
  have hfollow : note.tree.follow Tree.linkLimit note.here (note.names ++ ["note.txt"]) =
      .ok (.existing ["dist", "note.txt"] Tree.linkLimit) := by
    have hvalid : Tree.isValidName "dist" = true ∧ Tree.isValidName "note.txt" = true := by decide
    simp [note, Tree.follow, Tree.at?, hvalid]
  have hfile : note.tree.at? ["dist", "note.txt"] = some (.file longNote.toUTF8) := by
    simp [note, Tree.at?]
  exact contents_eq_ok.mpr ⟨["note.txt"], by decide, by decide,
    Tree.read_eq_ok.mpr ⟨_, _, hfollow, hfile⟩⟩

/-- The digest of the note in the directory, in memory, and in other pieces. -/
theorem Digest.independent_of_pieces_note : ∃ digest : String, digest.length = 32 ∧
    FileStore.hash Site.note "/./note.txt" = .ok digest ∧
      FileStore.hash MemoryStore.note "/copy.txt" = .ok digest ∧
        (ofPieces [List.replicate 30000 0x61, [], List.replicate 40000 0x61]).hex = digest := by
  obtain ⟨hpieces, hlength, -⟩ :=
    independent_of_pieces.1 [List.replicate 30000 0x61, [], List.replicate 40000 0x61]
  have hcopy : MemoryStore.note.get? "/copy.txt" = some longNote := by
    simp [MemoryStore.note, MemoryStore.get?, lookup_cons_eq]
  obtain ⟨hsite, hstore⟩ := independent_of_pieces.2 Site.note MemoryStore.note "/./note.txt"
    "/copy.txt" longNote Site.contents_note hcopy (by decide)
  have hbytes : longNote.toUTF8.data.toList =
      [List.replicate 30000 0x61, [], List.replicate 40000 0x61].flatten := by
    rw [longNote, bytes_letters, List.flatten_cons, List.flatten_cons, List.flatten_singleton,
      List.nil_append, List.replicate_append_replicate]
  rw [ofBytes, hbytes, ← hpieces] at hsite hstore
  exact ⟨_, hlength, hsite, hstore, rfl⟩

end OfflineManifest
