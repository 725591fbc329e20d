import Mathlib.Data.List.Sort
import Mathlib.Data.String.Basic
import OfflineManifest.Manifest.AssetGroups
import OfflineManifest.Proofs.KeyMap
import OfflineManifest.Proofs.PatternSet
import OfflineManifest.Proofs.Url

/-! # What asset groups claim

A group claims the files of its listing that one of its pattern sets accepts and that no group
before it has claimed, sorted and each once (`mem_claimed`, `sortedLT_claimed`). So the shares of
groups in a row do not overlap, and a file goes to the first group that accepts it
(`mem_shares`).

While groups are resolved, the table of digests has the digest of each claimed file at the URL of
that file, and nothing else (`Records`). Since rooted paths have different URLs, no entry takes the
place of another one. -/

namespace OfflineManifest

theorem exists_mem_iff_exists_getElem? {α : Type} {l : List α} {p : α → Prop} :
    (∃ a ∈ l, p a) ↔ ∃ k : ℕ, ∃ a, l[k]? = some a ∧ p a := by
  simp only [List.mem_iff_getElem?]
  exact ⟨fun ⟨a, ⟨k, hk⟩, ha⟩ => ⟨k, a, hk, ha⟩, fun ⟨k, a, hk, ha⟩ => ⟨a, ⟨k, hk⟩, ha⟩⟩

/-! ### Claiming files -/

section Claim

variable {set : PatternSet} {f : String}

theorem mem_claim : ∀ {listed before : List String},
    f ∈ claim set before listed ↔ f ∈ listed ∧ set.accepts f = true ∧ f ∉ before
  | [], _ => by simp [claim]
  | g :: listed, before => by
    unfold claim
    split
    · next h =>
      rw [Bool.and_eq_true, Bool.not_eq_true', List.contains_eq_mem, decide_eq_false_iff_not] at h
      rw [List.mem_cons, mem_claim, List.mem_cons]
      by_cases hfg : f = g
      · subst hfg
        simp [h]
      · simp [hfg]
    · next h =>
      rw [mem_claim, List.mem_cons]
      by_cases hfg : f = g
      · subst hfg
        simp only [true_or, true_and]
        constructor
        · exact fun h' => h'.2
        · rintro ⟨haccepts, hbefore⟩
          exact absurd (by simp [haccepts, hbefore]) h
      · simp [hfg]

theorem nodup_claim : ∀ {listed before : List String}, (claim set before listed).Nodup
  | [], _ => List.nodup_nil
  | g :: listed, before => by
    unfold claim
    split
    · refine List.nodup_cons.mpr ⟨fun h => ?_, nodup_claim⟩
      exact (mem_claim.mp h).2.2 List.mem_cons_self
    · exact nodup_claim

end Claim

namespace Matching

/-- A file is listed for a group, and one of its pattern sets accepts it. -/
def Takes (m : Matching) (f : String) : Prop :=
  f ∈ m.listed ∧ (m.files.accepts f = true ∨ m.versionedFiles.accepts f = true)

section Claimed

variable {m : Matching} {before : List String} {f : String}

/-- **What a group claims.** -/
theorem mem_claimed : f ∈ m.claimed before ↔ m.Takes f ∧ f ∉ before := by
  unfold claimed Takes
  rw [List.mem_mergeSort, List.mem_append, mem_claim, mem_claim, List.mem_append, mem_claim]
  tauto

theorem nodup_claimed : (m.claimed before).Nodup := by
  unfold claimed
  rw [(List.mergeSort_perm _ _).nodup_iff, List.nodup_append']
  refine ⟨nodup_claim, nodup_claim, fun f h h' => ?_⟩
  exact (mem_claim.mp h').2.2 (List.mem_append_left _ h)

theorem sortedLT_claimed : (m.claimed before).SortedLT :=
  List.sortedLE_mergeSort.sortedLT_of_nodup nodup_claimed

end Claimed

/-! ### Groups in a row -/

/-- The files that groups in a row claim, a list for each. -/
def shares : List String → List Matching → List (List String)
  | _, [] => []
  | before, m :: rest => m.claimed before :: shares (m.claimed before ++ before) rest

section Shares

variable {f : String} {files : List String}

theorem length_shares : ∀ {before : List String} {ms : List Matching},
    (shares before ms).length = ms.length
  | _, [] => rfl
  | _, _ :: _ => congrArg (· + 1) length_shares

theorem sortedLT_of_mem_shares : ∀ {before : List String} {ms : List Matching},
    files ∈ shares before ms → files.SortedLT
  | _, _ :: _, h => by
    rcases List.mem_cons.mp h with rfl | h
    · exact sortedLT_claimed
    · exact sortedLT_of_mem_shares h

theorem not_mem_before_of_mem_shares : ∀ {before : List String} {ms : List Matching},
    files ∈ shares before ms → f ∈ files → f ∉ before
  | _, _ :: _, h, hf => by
    rcases List.mem_cons.mp h with rfl | h
    · exact (mem_claimed.mp hf).2
    · exact fun hb => not_mem_before_of_mem_shares h hf (List.mem_append_right _ hb)

/-- **No file is claimed twice.** -/
theorem pairwise_disjoint_shares : ∀ {before : List String} {ms : List Matching},
    (shares before ms).Pairwise List.Disjoint
  | _, [] => List.Pairwise.nil
  | _, _ :: _ => List.pairwise_cons.mpr
      ⟨fun _ h _ hf hf' => not_mem_before_of_mem_shares h hf' (List.mem_append_left _ hf),
        pairwise_disjoint_shares⟩

/-- The group at an index takes a file. -/
def TakesAt (ms : List Matching) (k : ℕ) (f : String) : Prop := ∃ m, ms[k]? = some m ∧ m.Takes f

/-- **A file goes to the first group that takes it.** -/
theorem mem_shares : ∀ {before : List String} {ms : List Matching} {k : ℕ},
    (shares before ms)[k]? = some files →
      (f ∈ files ↔ f ∉ before ∧ TakesAt ms k f ∧ ∀ j < k, ¬ TakesAt ms j f)
  | before, m :: ms, 0, h => by
    cases h
    rw [mem_claimed]
    simp [TakesAt, and_comm]
  | before, m :: ms, k + 1, h => by
    have hrest : (shares (m.claimed before ++ before) ms)[k]? = some files := h
    rw [mem_shares hrest, List.mem_append, mem_claimed, Nat.forall_lt_succ_left]
    simp only [TakesAt, List.getElem?_cons_succ, List.getElem?_cons_zero, Option.some.injEq,
      exists_eq_left']
    tauto

theorem exists_takes_iff {ms : List Matching} :
    (∃ m ∈ ms, m.Takes f) ↔ ∃ k, TakesAt ms k f :=
  exists_mem_iff_exists_getElem?

theorem mem_flatten_shares : ∀ {before : List String} {ms : List Matching},
    f ∈ (shares before ms).flatten ↔ f ∉ before ∧ ∃ k, TakesAt ms k f
  | before, [] => by simp [shares, TakesAt]
  | before, m :: ms => by
    rw [shares, List.flatten_cons, List.mem_append, mem_claimed, mem_flatten_shares,
      List.mem_append, mem_claimed, ← exists_takes_iff, ← exists_takes_iff,
      List.exists_mem_cons_iff]
    tauto

end Shares

end Matching

/-! ### Digests -/

/-- **A table has the digests of files**, each at the URL of its file, and no other entries. -/
structure Records (base : String) (source : Source) (table : KeyMap String)
    (files : List String) : Prop where
  complete : ∀ f ∈ files, ∃ digest, source.hash f = .ok digest ∧
    table.get? (Url.join base f) = some digest
  sound : ∀ url digest, table.get? url = some digest → ∃ f ∈ files, url = Url.join base f

section Records

variable {base group : String} {source : Source} {table table' : KeyMap String}
  {files done : List String}

theorem records_empty : Records base source .empty [] :=
  ⟨fun _ h => absurd h List.not_mem_nil, fun _ _ h => by cases h⟩

theorem Records.insert (h : Records base source table done) {f digest : String}
    (hf : Url.Rooted f) (hdone : ∀ g ∈ done, Url.Rooted g) (hhash : source.hash f = .ok digest) :
    Records base source (table.insert (Url.join base f) digest) (f :: done) := by
  constructor
  · intro g hg
    rw [KeyMap.get?_insert]
    by_cases hgf : g = f
    · exact ⟨digest, hgf ▸ hhash, by rw [hgf, if_pos rfl]⟩
    · have hmem := List.mem_of_ne_of_mem hgf hg
      obtain ⟨d, hd, hget⟩ := h.complete g hmem
      refine ⟨d, hd, ?_⟩
      rw [if_neg (fun heq => hgf ((Url.join_inj (hdone g hmem) hf).mp heq)), hget]
  · intro url d hget
    rw [KeyMap.get?_insert] at hget
    by_cases hurl : url = Url.join base f
    · exact ⟨f, List.mem_cons_self, hurl⟩
    · rw [if_neg hurl] at hget
      obtain ⟨g, hg, rfl⟩ := h.sound url d hget
      exact ⟨g, List.mem_cons_of_mem _ hg, rfl⟩

theorem Records.of_mem_iff (h : Records base source table files)
    (hmem : ∀ f, f ∈ files ↔ f ∈ done) : Records base source table done :=
  ⟨fun f hf => h.complete f ((hmem f).mpr hf), fun url digest hget => by
    obtain ⟨f, hf, hurl⟩ := h.sound url digest hget
    exact ⟨f, (hmem f).mp hf, hurl⟩⟩

theorem exists_hashAll : ∀ {files : List String} {table : KeyMap String},
    (∀ f ∈ files, ∃ digest, source.hash f = .ok digest) →
      ∃ table', hashAll base source group table files = .ok table'
  | [], table, _ => ⟨table, rfl⟩
  | f :: files, table, h => by
    obtain ⟨digest, hdigest⟩ := h f List.mem_cons_self
    unfold hashAll
    rw [hdigest]
    exact exists_hashAll fun g hg => h g (List.mem_cons_of_mem _ hg)

theorem Records.hashAll : ∀ {files done : List String} {table : KeyMap String},
    Records base source table done → (∀ f ∈ files ++ done, Url.Rooted f) →
      hashAll base source group table files = .ok table' →
        Records base source table' (files ++ done)
  | [], _, _, h, _, hrun => by
    cases hrun
    exact h
  | f :: files, done, table, h, hrooted, hrun => by
    unfold OfflineManifest.hashAll at hrun
    cases hhash : source.hash f with
    | error e =>
      rw [hhash] at hrun
      cases hrun
    | ok digest =>
      rw [hhash] at hrun
      have hrooted' : ∀ g ∈ files ++ f :: done, Url.Rooted g := fun g hg =>
        hrooted g (List.perm_middle.mem_iff.mp hg)
      have hinsert := h.insert (hrooted f List.mem_cons_self)
        (fun g hg => hrooted g (List.mem_append_right _ hg)) hhash
      exact (hinsert.hashAll hrooted' hrun).of_mem_iff fun g => List.perm_middle.mem_iff

end Records

end OfflineManifest
