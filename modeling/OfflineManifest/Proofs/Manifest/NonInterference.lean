import OfflineManifest.Proofs.Manifest.Resolution

/-! # Runs that files do not tell apart

Two sources agree for a configuration if their listings have the same members and the files that
some group accepts have the same digests, or cannot be hashed for the same reason. The order of the
listings, repetitions in them and all other digests are free.

* `Matching.claimed_congr`: groups that take the same files claim the same list of files.
* `Matching.resolveAll_congr`: so groups in a row are resolved alike, with the same faults, notices
  and events.
* `AssetGroup.resolveAll_congr`: sources that agree lead to the same groups, and so to the same
  run. For that they need to agree on accepted files only (`generate_congr_of_accepted`). -/

namespace OfflineManifest

section Corresponds

variable {ε α β γ : Type} {R : β → γ → Prop}

/-- Two results are the same error, or values in a relation. -/
def Corresponds (R : β → γ → Prop) (x : Except ε β) (y : Except ε γ) : Prop :=
  (∃ e, x = .error e ∧ y = .error e) ∨ ∃ b c, x = .ok b ∧ y = .ok c ∧ R b c

theorem mapM_corresponds {f : α → Except ε β} {g : α → Except ε γ} :
    ∀ {l : List α}, (∀ a ∈ l, Corresponds R (f a) (g a)) →
      Corresponds (List.Forall₂ R) (l.mapM f) (l.mapM g)
  | [], _ => Or.inr ⟨[], [], rfl, rfl, .nil⟩
  | a :: l, h => by
    have hl : Corresponds (List.Forall₂ R) (l.mapM f) (l.mapM g) :=
      mapM_corresponds fun a ha => h a (List.mem_cons_of_mem _ ha)
    rw [List.mapM_cons, List.mapM_cons]
    obtain ⟨e, hf, hg⟩ | ⟨b, c, hf, hg, hbc⟩ := h a List.mem_cons_self
    · exact Or.inl ⟨e, by rw [hf]; rfl, by rw [hg]; rfl⟩
    · rw [hf, hg]
      obtain ⟨e, hfs, hgs⟩ | ⟨bs, cs, hfs, hgs, hs⟩ := hl
      · exact Or.inl ⟨e, by rw [hfs]; rfl, by rw [hgs]; rfl⟩
      · exact Or.inr ⟨b :: bs, c :: cs, by rw [hfs]; rfl, by rw [hgs]; rfl, .cons hbc hs⟩

end Corresponds

/-- **Two sources agree** on all that groups can depend on. -/
structure Source.Agree (s t : Source) (groups : List AssetGroup) : Prop where
  list : ∀ i, Corresponds (fun l k => ∀ f, f ∈ l ↔ f ∈ k) (s.list i) (t.list i)
  hash : ∀ i listed f, s.list i = .ok listed → f ∈ listed → (∃ g ∈ groups, g.Accepts f) →
    s.hash f = t.hash f

/-- Two sources agree on the files that some group accepts, in the listings that are made for the
groups. They may list other files, and list them differently. -/
structure Source.AgreeOnAccepted (s t : Source) (groups : List AssetGroup) : Prop where
  list : ∀ i < groups.length, Corresponds
    (fun l k => ∀ f, (∃ g ∈ groups, g.Accepts f) → (f ∈ l ↔ f ∈ k)) (s.list i) (t.list i)
  hash : ∀ i listed f, s.list i = .ok listed → f ∈ listed → (∃ g ∈ groups, g.Accepts f) →
    s.hash f = t.hash f

variable {base : String} {s t : Source} {groups : List AssetGroup}

theorem hashAll_congr {group : String} : ∀ {files : List String} {table : KeyMap String},
    (∀ f ∈ files, s.hash f = t.hash f) →
      hashAll base s group table files = hashAll base t group table files
  | [], _, _ => rfl
  | f :: files, table, h => by
    unfold hashAll
    rw [h f List.mem_cons_self]
    refine congrArg _ (funext fun digest => ?_)
    exact hashAll_congr fun g hg => h g (List.mem_cons_of_mem _ hg)

namespace Matching

/-- Two matchings of one group take the same files. -/
def Alike (m n : Matching) : Prop := m.group = n.group ∧ ∀ f, m.Takes f ↔ n.Takes f

variable {m n : Matching} {ms ns : List Matching}

theorem claimed_congr (h : m.Alike n) (before : List String) :
    m.claimed before = n.claimed before :=
  sortedLT_claimed.eq_of_mem_iff sortedLT_claimed fun f => by
    rw [mem_claimed, mem_claimed, h.2]

theorem resolve_congr (h : m.Alike n) {claims : Claims}
    (hhash : ∀ f ∈ m.claimed claims.files, s.hash f = t.hash f) :
    m.resolve base s claims = n.resolve base t claims := by
  have hclaimed := claimed_congr h claims.files
  have hall : hashAll base s m.group.name claims.hashTable (m.claimed claims.files) =
      hashAll base t n.group.name claims.hashTable (n.claimed claims.files) := by
    rw [← hclaimed, ← h.1]
    exact hashAll_congr hhash
  cases hs : hashAll base s m.group.name claims.hashTable (m.claimed claims.files) with
  | error e => rw [resolve_error hs, resolve_error (hall.symm.trans hs), h.1]
  | ok table =>
    rw [resolve_ok hs, resolve_ok (hall.symm.trans hs), ← hclaimed]
    simp only [resolved, h.1]

/-- **Groups in a row** are resolved alike if they take the same files, which have the same
digests. -/
theorem resolveAll_congr {claims : Claims} (h : List.Forall₂ Alike ms ns)
    (hhash : ∀ f ∈ (shares claims.files ms).flatten, s.hash f = t.hash f) :
    resolveAll base s claims ms = resolveAll base t claims ns := by
  induction h generalizing claims with
  | nil => rfl
  | @cons m n ms ns hmn _ ih =>
    rw [shares, List.flatten_cons, List.forall_mem_append] at hhash
    unfold resolveAll
    rw [← resolve_congr hmn hhash.1]
    cases htable : hashAll base s m.group.name claims.hashTable (m.claimed claims.files) with
    | error e => rw [resolve_error htable, Run.bind_error rfl, Run.bind_error rfl]
    | ok table =>
      have hrest : resolveAll base s ⟨m.claimed claims.files ++ claims.files, table⟩ ms =
          resolveAll base t ⟨m.claimed claims.files ++ claims.files, table⟩ ns :=
        ih hhash.2
      rw [resolve_ok htable, Run.bind_ok rfl, Run.bind_ok rfl]
      simp only [hrest]

end Matching

theorem Source.Agree.onAccepted (h : Source.Agree s t groups) :
    Source.AgreeOnAccepted s t groups where
  list i _ := by
    obtain ⟨e, hs, ht⟩ | ⟨l, k, hs, ht, hmem⟩ := h.list i
    · exact Or.inl ⟨e, hs, ht⟩
    · exact Or.inr ⟨l, k, hs, ht, fun f _ => hmem f⟩
  hash := h.hash

namespace AssetGroup

theorem matching_corresponds (h : Source.AgreeOnAccepted s t groups) {g : AssetGroup} {i : ℕ}
    (hg : groups[i]? = some g) :
    Corresponds Matching.Alike (g.matching s i) (g.matching t i) := by
  have hi : i < groups.length := (List.getElem?_eq_some_iff.mp hg).1
  obtain ⟨e, hs, ht⟩ | ⟨l, k, hs, ht, hmem⟩ := h.list i hi
  · exact Or.inl ⟨.list g.name e, matching_error hs, matching_error ht⟩
  · obtain ⟨m, hm⟩ : ∃ m, g.matching s i = .ok m := exists_matching_eq_ok hs
    obtain ⟨n, hn⟩ : ∃ n, g.matching t i = .ok n := exists_matching_eq_ok ht
    obtain ⟨hmg, -, -, hml⟩ := matching_eq_ok.mp hm
    obtain ⟨hng, -, -, hnk⟩ := matching_eq_ok.mp hn
    rw [hs, Except.ok.injEq] at hml
    rw [ht, Except.ok.injEq] at hnk
    refine Or.inr ⟨m, n, hm, hn, hmg.trans hng.symm, fun f => ?_⟩
    rw [takes_of_matching hm, takes_of_matching hn, ← hml, ← hnk]
    exact and_congr_left fun haccepts => hmem f ⟨g, List.mem_of_getElem? hg, haccepts⟩

theorem resolveAll_congr_of_accepted (h : Source.AgreeOnAccepted s t groups) :
    resolveAll base s groups = resolveAll base t groups := by
  have hmatchings : Corresponds (List.Forall₂ Matching.Alike)
      (groups.zipIdx.mapM fun p => p.1.matching s p.2)
      (groups.zipIdx.mapM fun p => p.1.matching t p.2) :=
    mapM_corresponds fun _ hp => matching_corresponds h (List.mem_zipIdx_iff_getElem?.mp hp)
  obtain ⟨e, hs, ht⟩ | ⟨ms, ns, hs, ht, halike⟩ := hmatchings
  · rw [resolveAll_of_error hs, resolveAll_of_error ht]
  · have hmatched : Matched s groups ms := mapM_eq_ok.mp hs
    have hhash : ∀ f ∈ (Matching.shares [] ms).flatten, s.hash f = t.hash f := fun f hf => by
      obtain ⟨i, listed, hlisted, hmem, haccepts⟩ := hmatched.exists_listed hf
      exact h.hash i listed f hlisted hmem haccepts
    rw [hmatched.resolveAll_eq, Matched.resolveAll_eq (mapM_eq_ok.mp ht)]
    exact Matching.resolveAll_congr halike hhash

/-- **Sources that agree** lead to the same asset groups. -/
theorem resolveAll_congr (h : Source.Agree s t groups) :
    resolveAll base s groups = resolveAll base t groups :=
  resolveAll_congr_of_accepted h.onAccepted

end AssetGroup

namespace Manifest

/-- **Non-interference.** If two sources have the same files in their listings, in any order and any
number of times, and the same digests for the files that some group accepts, then the manifest of a
configuration is the same for both, or the same error is, and so are all notices and events. -/
theorem generate_congr {c : Config} (h : Source.Agree s t c.assetGroups) :
    generate base s c = generate base t c := by
  unfold generate
  rw [AssetGroup.resolveAll_congr h]

theorem generate_congr_of_accepted {c : Config} (h : Source.AgreeOnAccepted s t c.assetGroups) :
    generate base s c = generate base t c := by
  unfold generate
  rw [AssetGroup.resolveAll_congr_of_accepted h]

/-- A group for scripts. -/
def scripts : AssetGroup where
  name := "code"
  resources := { files := ["/*.js"] }

/-- The files of `twoFiles` in another order, one of which cannot be hashed. -/
def damaged : Source where
  list _ := .ok ["/a.css", "/a.css", "/b.js"]
  hash f := if f = "/a.css" then .error (.notFound f) else twoFiles.hash f

theorem not_accepts_scripts : ¬ scripts.Accepts "/a.css" := by decide +kernel

theorem agree_damaged : twoFiles.Agree damaged [scripts] where
  list i := Or.inr ⟨_, _, rfl, rfl, fun f => by by_cases hi : i = 0 <;> simp [hi, or_comm]⟩
  hash i listed f hlisted hf haccepts := by
    have hne : f ≠ "/a.css" := by
      rintro rfl
      obtain ⟨g, hg, hga⟩ := haccepts
      rw [List.mem_singleton.mp hg] at hga
      exact not_accepts_scripts hga
    exact (if_neg hne).symm

theorem generate_congr_damaged :
    twoFiles.hash "/a.css" ≠ damaged.hash "/a.css" ∧
      generate "/" twoFiles { index := "/", assetGroups := [scripts] } =
        generate "/" damaged { index := "/", assetGroups := [scripts] } :=
  ⟨by decide, generate_congr agree_damaged⟩

end Manifest

end OfflineManifest
