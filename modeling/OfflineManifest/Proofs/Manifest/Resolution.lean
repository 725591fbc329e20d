import OfflineManifest.Manifest.Generate
import OfflineManifest.Proofs.Except
import OfflineManifest.Proofs.Manifest.Claiming
import OfflineManifest.Proofs.Text.ByteOrder

/-! # Resolving groups against files

A manifest is made by matching the asset groups with their listings, by resolving the matchings in
a row, and by resolving the data groups. If all of this succeeds, the asset groups of the manifest
are the matchings with their shares, and its table has the digests of the shares
(`exists_matched_of_generate`). From that the URLs of the groups are described in terms of the
configuration alone: every file goes to the first group that accepts it
(`AssetGroup.Matched.mem_share_iff`). -/

namespace OfflineManifest

/-! ### Runs with a value -/

namespace Run

variable {ε α β : Type}

theorem result_bind_eq_ok {x : Run ε α} {f : α → Run ε β} {b : β} :
    (x >>= f).result = .ok b ↔ ∃ a, x.result = .ok a ∧ (f a).result = .ok b := by
  cases h : x.result with
  | error e => simp [bind_error h]
  | ok a => simp [bind_ok h]

theorem bind_pure_eq (x : Run ε α) (f : α → β) :
    (x >>= fun a => Pure.pure (f a)) =
      { result := x.result.map f, diagnostics := x.diagnostics, events := x.events } := by
  cases h : x.result with
  | error e => rw [bind_error h]; rfl
  | ok a => rw [bind_ok h]; simp [pure_eq, Except.map]

theorem forM_notice (ds : List Diagnostic) :
    (ds.forM notice : Run ε Unit) = { result := .ok (), diagnostics := ds } := by
  induction ds with
  | nil => rfl
  | cons d ds ih =>
    calc (d :: ds).forM notice
        = (notice d : Run ε Unit) >>= fun _ => ds.forM notice := rfl
      _ = { result := .ok (), diagnostics := d :: ds } := by rw [ih]; rfl

end Run

/-! ### Matchings -/

namespace AssetGroup

/-- One of the pattern sets of a group accepts a file. -/
def Accepts (g : AssetGroup) (f : String) : Prop :=
  ∃ globs ∈ [g.resources.files, g.resources.versionedFiles],
    ∃ set, PatternSet.ofGlobs g.name globs = .ok set ∧ set.accepts f = true

/-- Whether a group accepts a file is found by compiling its globs. -/
instance (g : AssetGroup) (f : String) : Decidable (g.Accepts f) :=
  decidable_of_iff (([g.resources.files, g.resources.versionedFiles].any fun globs =>
    (PatternSet.ofGlobs g.name globs).toOption.any (·.accepts f)) = true) <| by
    simp only [Accepts, List.any_eq_true, Option.any_eq_true, except_toOption_eq_some]

variable {g : AssetGroup} {source : Source} {i : ℕ} {m : Matching}

theorem patternSet_eq_ok {globs : List String} {set : PatternSet} :
    g.patternSet globs = .ok set ↔ PatternSet.ofGlobs g.name globs = .ok set := by
  unfold patternSet
  exact mapError_eq_ok

theorem matching_eq_ok : g.matching source i = .ok m ↔
    m.group = g ∧ PatternSet.ofGlobs g.name g.resources.files = .ok m.files ∧
      PatternSet.ofGlobs g.name g.resources.versionedFiles = .ok m.versionedFiles ∧
      source.list i = .ok m.listed := by
  unfold matching
  simp only [except_bind_eq_ok, mapError_eq_ok, patternSet_eq_ok]
  constructor
  · rintro ⟨files, hfiles, versionedFiles, hversioned, listed, hlisted, h⟩
    cases h
    exact ⟨rfl, hfiles, hversioned, hlisted⟩
  · rintro ⟨rfl, hfiles, hversioned, hlisted⟩
    exact ⟨m.files, hfiles, m.versionedFiles, hversioned, m.listed, hlisted, rfl⟩

theorem exists_matching_eq_ok {listed : List String} (h : source.list i = .ok listed) :
    ∃ m, g.matching source i = .ok m := by
  obtain ⟨files, hfiles⟩ := PatternSet.exists_ofGlobs g.name g.resources.files
  obtain ⟨versionedFiles, hversioned⟩ :=
    PatternSet.exists_ofGlobs g.name g.resources.versionedFiles
  exact ⟨⟨g, files, versionedFiles, listed⟩, matching_eq_ok.mpr ⟨rfl, hfiles, hversioned, h⟩⟩

theorem matching_error {e : FileError} (h : source.list i = .error e) :
    g.matching source i = .error (.list g.name e) := by
  obtain ⟨files, hfiles⟩ := PatternSet.exists_ofGlobs g.name g.resources.files
  obtain ⟨versionedFiles, hversioned⟩ :=
    PatternSet.exists_ofGlobs g.name g.resources.versionedFiles
  unfold matching
  rw [patternSet_eq_ok.mpr hfiles, patternSet_eq_ok.mpr hversioned, h]
  rfl

theorem takes_of_matching {f : String} (h : g.matching source i = .ok m) :
    m.Takes f ↔ f ∈ m.listed ∧ g.Accepts f := by
  obtain ⟨-, hfiles, hversioned, -⟩ := matching_eq_ok.mp h
  unfold Matching.Takes Accepts
  simp [hfiles, hversioned]

end AssetGroup

namespace Matching

variable {base : String} {source : Source} {m : Matching} {ms : List Matching}
  {claims claims' : Claims}

/-- A group with the files that it has claimed. -/
def resolved (base : String) (m : Matching) (files : List String) : ResolvedAssetGroup where
  name := m.group.name
  installMode := m.group.installMode.getD .prefetch
  updateMode := m.group.updateMode.getD (m.group.installMode.getD .prefetch)
  urls := files.map (Url.join base)
  patterns := urlPatterns base m.group.resources.urls

theorem resolve_ok {table : KeyMap String}
    (h : hashAll base source m.group.name claims.hashTable (m.claimed claims.files) = .ok table) :
    m.resolve base source claims =
      { result := .ok (m.resolved base (m.claimed claims.files),
          { files := m.claimed claims.files ++ claims.files, hashTable := table })
        diagnostics := m.group.notices
        events := [.assetGroup m.group.name (m.claimed claims.files).length
          (m.group.installMode.getD .prefetch)] } := by
  unfold resolve
  rw [Run.forM_notice, Run.bind_ok rfl, Run.bind_ok h, Run.bind_ok rfl, Run.pure_eq]
  simp [resolved, Run.ofExcept, Run.log]

theorem resolve_error {e : GenerateError}
    (h : hashAll base source m.group.name claims.hashTable (m.claimed claims.files) = .error e) :
    m.resolve base source claims = { result := .error e, diagnostics := m.group.notices } := by
  unfold resolve
  rw [Run.forM_notice, Run.bind_ok rfl, Run.bind_error h]
  simp [Run.ofExcept]

/-- **Groups resolved in a row**, if all their files can be hashed. -/
theorem resolveAll_ok : ∀ {ms : List Matching} {claims claims' : Claims}
    {groups : List ResolvedAssetGroup},
    (resolveAll base source claims ms).result = .ok (groups, claims') →
      groups = List.zipWith (resolved base) ms (shares claims.files ms) ∧
      (∀ f, f ∈ claims'.files ↔ f ∈ (shares claims.files ms).flatten ∨ f ∈ claims.files) ∧
      ((∀ f ∈ claims'.files, Url.Rooted f) →
        Records base source claims.hashTable claims.files →
          Records base source claims'.hashTable claims'.files)
  | [], claims, claims', groups, h => by
    cases h
    exact ⟨rfl, fun f => by simp [shares], fun _ h => h⟩
  | m :: ms, claims, claims', groups, h => by
    obtain ⟨⟨r, mid⟩, hm, h⟩ := Run.result_bind_eq_ok.mp h
    obtain ⟨⟨rs, last⟩, hms, h⟩ := Run.result_bind_eq_ok.mp h
    cases h
    cases hhash : hashAll base source m.group.name claims.hashTable (m.claimed claims.files) with
    | error e =>
      rw [resolve_error hhash] at hm
      cases hm
    | ok table =>
      rw [resolve_ok hhash] at hm
      cases hm
      obtain ⟨rfl, hmem, hrecords⟩ := resolveAll_ok hms
      refine ⟨rfl, fun f => ?_, fun hrooted hclaims => hrecords hrooted ?_⟩
      · rw [hmem, shares, List.flatten_cons, List.mem_append, List.mem_append]
        tauto
      · exact hclaims.hashAll (fun f hf => hrooted f ((hmem f).mpr (Or.inr hf))) hhash

theorem exists_resolveAll_ok : ∀ {ms : List Matching} {claims : Claims},
    (∀ f ∈ (shares claims.files ms).flatten, ∃ digest, source.hash f = .ok digest) →
      ∃ groups claims', (resolveAll base source claims ms).result = .ok (groups, claims')
  | [], claims, _ => ⟨[], claims, rfl⟩
  | m :: ms, claims, h => by
    rw [shares, List.flatten_cons, List.forall_mem_append] at h
    obtain ⟨table, htable⟩ := exists_hashAll h.1
    let mid : Claims := ⟨m.claimed claims.files ++ claims.files, table⟩
    obtain ⟨groups, claims', hrest⟩ : ∃ groups claims',
        (resolveAll base source mid ms).result = .ok (groups, claims') :=
      exists_resolveAll_ok h.2
    refine ⟨m.resolved base (m.claimed claims.files) :: groups, claims', ?_⟩
    refine Run.result_bind_eq_ok.mpr ⟨(_, mid), by rw [resolve_ok htable], ?_⟩
    exact Run.result_bind_eq_ok.mpr ⟨(groups, claims'), hrest, rfl⟩

end Matching

/-! ### The matchings of a configuration -/

namespace AssetGroup

/-- The groups of a list, each matched with the listing that is made for it. -/
def Matched (source : Source) (groups : List AssetGroup) (ms : List Matching) : Prop :=
  List.Forall₂ (fun p m => p.1.matching source p.2 = .ok m) groups.zipIdx ms

/-- The group at an index accepts a file. -/
def AcceptsAt (groups : List AssetGroup) (k : ℕ) (f : String) : Prop :=
  ∃ g, groups[k]? = some g ∧ g.Accepts f

instance (groups : List AssetGroup) (k : ℕ) (f : String) : Decidable (AcceptsAt groups k f) :=
  decidable_of_iff ((groups[k]?.any fun g => decide (g.Accepts f)) = true) <| by
    simp only [AcceptsAt, Option.any_eq_true, decide_eq_true_eq]

/-- The group at an index accepts a file that is listed for it. -/
def FindsAt (source : Source) (groups : List AssetGroup) (k : ℕ) (f : String) : Prop :=
  ∃ g listed, groups[k]? = some g ∧ source.list k = .ok listed ∧ f ∈ listed ∧ g.Accepts f

/-- **The group at an index claims a file**: it is the first one that finds it. -/
def ClaimsAt (source : Source) (groups : List AssetGroup) (k : ℕ) (f : String) : Prop :=
  FindsAt source groups k f ∧ ∀ j < k, ¬ FindsAt source groups j f

/-- The group at an index is the first one that accepts a file. -/
def FirstAccepts (groups : List AssetGroup) (k : ℕ) (f : String) : Prop :=
  AcceptsAt groups k f ∧ ∀ j < k, ¬ AcceptsAt groups j f

instance (groups : List AssetGroup) (k : ℕ) (f : String) : Decidable (FirstAccepts groups k f) :=
  inferInstanceAs (Decidable (AcceptsAt groups k f ∧ ∀ j < k, ¬ AcceptsAt groups j f))

end AssetGroup

/-- Every listing that succeeds consists of the same files, in any order and any number of
times. -/
def Source.Lists (s : Source) (files : List String) : Prop :=
  ∀ i listed, s.list i = .ok listed → ∀ f, f ∈ listed ↔ f ∈ files

theorem AssetGroup.resolveAll_of_error {base : String} {source : Source} {groups : List AssetGroup}
    {e : GenerateError}
    (h : (groups.zipIdx.mapM fun p => p.1.matching source p.2) = .error e) :
    resolveAll base source groups = { result := .error e } := by
  unfold resolveAll
  exact Run.bind_error h

namespace AssetGroup.Matched

variable {source : Source} {groups : List AssetGroup} {ms : List Matching} {m : Matching}
  {files : List String} {f : String} {k : ℕ}

theorem length_eq (h : Matched source groups ms) : ms.length = groups.length := by
  rw [← List.Forall₂.length_eq h, List.length_zipIdx]

theorem resolveAll_eq {base : String} (h : Matched source groups ms) :
    resolveAll base source groups = Matching.resolveAll base source {} ms := by
  have hms : (groups.zipIdx.mapM fun p => p.1.matching source p.2) = .ok ms := mapM_eq_ok.mpr h
  unfold resolveAll
  exact Run.bind_ok hms

theorem exists_group (h : Matched source groups ms) (hm : ms[k]? = some m) :
    ∃ g, groups[k]? = some g ∧ g.matching source k = .ok m := by
  obtain ⟨hlength, hall⟩ := List.forall₂_iff_get.mp h
  obtain ⟨hk, rfl⟩ := List.getElem?_eq_some_iff.mp hm
  have hk' : k < groups.length := h.length_eq ▸ hk
  refine ⟨groups[k], List.getElem?_eq_getElem hk', ?_⟩
  simpa using hall k (hlength ▸ hk) hk

theorem exists_matching {g : AssetGroup} (h : Matched source groups ms)
    (hg : groups[k]? = some g) : ∃ m, ms[k]? = some m ∧ g.matching source k = .ok m := by
  obtain ⟨hk, -⟩ := List.getElem?_eq_some_iff.mp hg
  have hm := List.getElem?_eq_getElem (h.length_eq ▸ hk)
  obtain ⟨g', hg', hmatch⟩ := h.exists_group hm
  rw [hg] at hg'
  cases hg'
  exact ⟨_, hm, hmatch⟩

theorem map_group (h : Matched source groups ms) : ms.map (·.group) = groups := by
  refine List.ext_getElem (by rw [List.length_map, h.length_eq]) fun k hk hk' => ?_
  rw [List.length_map] at hk
  obtain ⟨g, hg, hmatch⟩ := h.exists_group (List.getElem?_eq_getElem hk)
  rw [List.getElem?_eq_getElem hk', Option.some.injEq] at hg
  rw [List.getElem_map, hg, (matching_eq_ok.mp hmatch).1]

theorem exists_listed (h : Matched source groups ms)
    (hf : f ∈ (Matching.shares [] ms).flatten) :
    ∃ i listed, source.list i = .ok listed ∧ f ∈ listed ∧ ∃ g ∈ groups, g.Accepts f := by
  obtain ⟨-, k, m, hm, htakes⟩ := Matching.mem_flatten_shares.mp hf
  obtain ⟨g, hg, hmatch⟩ := h.exists_group hm
  obtain ⟨hlisted, haccepts⟩ := (takes_of_matching hmatch).mp htakes
  obtain ⟨-, -, -, hlist⟩ := matching_eq_ok.mp hmatch
  exact ⟨k, m.listed, hlist, hlisted, g, List.mem_of_getElem? hg, haccepts⟩

theorem takesAt_iff_findsAt (h : Matched source groups ms) :
    Matching.TakesAt ms k f ↔ FindsAt source groups k f := by
  constructor
  · rintro ⟨m, hm, htakes⟩
    obtain ⟨g, hg, hmatch⟩ := h.exists_group hm
    obtain ⟨hlisted, haccepts⟩ := (takes_of_matching hmatch).mp htakes
    obtain ⟨-, -, -, hlist⟩ := matching_eq_ok.mp hmatch
    exact ⟨g, m.listed, hg, hlist, hlisted, haccepts⟩
  · rintro ⟨g, listed, hg, hlist, hlisted, haccepts⟩
    obtain ⟨m, hm, hmatch⟩ := h.exists_matching hg
    obtain ⟨-, -, -, hlist'⟩ := matching_eq_ok.mp hmatch
    cases hlist.symm.trans hlist'
    exact ⟨m, hm, (takes_of_matching hmatch).mpr ⟨hlisted, haccepts⟩⟩

theorem mem_share_iff_claimsAt (h : Matched source groups ms) {share : List String}
    (hshare : (Matching.shares [] ms)[k]? = some share) :
    f ∈ share ↔ ClaimsAt source groups k f := by
  rw [Matching.mem_shares hshare]
  simp only [h.takesAt_iff_findsAt, ClaimsAt, List.not_mem_nil, not_false_eq_true, true_and]

theorem exists_share (h : Matched source groups ms) (hclaims : ClaimsAt source groups k f) :
    ∃ share, (Matching.shares [] ms)[k]? = some share ∧ f ∈ share := by
  obtain ⟨g, -, hg, -⟩ := hclaims.1
  obtain ⟨hk, -⟩ := List.getElem?_eq_some_iff.mp hg
  have hk' : k < (Matching.shares [] ms).length := by
    rwa [Matching.length_shares, h.length_eq]
  have hshare := List.getElem?_eq_getElem hk'
  exact ⟨_, hshare, (h.mem_share_iff_claimsAt hshare).mpr hclaims⟩

/-- **Groups take the files that they accept.** -/
theorem takesAt_iff (h : Matched source groups ms) (lists : source.Lists files) :
    Matching.TakesAt ms k f ↔ f ∈ files ∧ AcceptsAt groups k f := by
  rw [h.takesAt_iff_findsAt]
  constructor
  · rintro ⟨g, listed, hg, hlist, hlisted, haccepts⟩
    exact ⟨(lists k listed hlist f).mp hlisted, g, hg, haccepts⟩
  · rintro ⟨hf, g, hg, haccepts⟩
    obtain ⟨m, -, hmatch⟩ := h.exists_matching hg
    obtain ⟨-, -, -, hlist⟩ := matching_eq_ok.mp hmatch
    exact ⟨g, m.listed, hg, hlist, (lists k _ hlist f).mpr hf, haccepts⟩

theorem mem_share_iff (h : Matched source groups ms) (lists : source.Lists files)
    {share : List String} (hshare : (Matching.shares [] ms)[k]? = some share) :
    f ∈ share ↔ f ∈ files ∧ FirstAccepts groups k f := by
  rw [Matching.mem_shares hshare]
  simp only [h.takesAt_iff lists, FirstAccepts, List.not_mem_nil, not_false_eq_true, true_and]
  grind

theorem mem_flatten_shares_iff (h : Matched source groups ms) (lists : source.Lists files) :
    f ∈ (Matching.shares [] ms).flatten ↔ f ∈ files ∧ ∃ g ∈ groups, g.Accepts f := by
  have haccepts : (∃ g ∈ groups, g.Accepts f) ↔ ∃ k, AcceptsAt groups k f :=
    exists_mem_iff_exists_getElem?
  rw [Matching.mem_flatten_shares, haccepts]
  simp only [h.takesAt_iff lists, List.not_mem_nil, not_false_eq_true, true_and, exists_and_left]

end AssetGroup.Matched

/-! ### Data groups -/

namespace DataGroup

/-- **Data groups** are resolved one by one, without notices. -/
theorem resolveAll_eq (base : String) : ∀ groups : List DataGroup,
    (resolveAll base groups).result = groups.mapM (resolve base) ∧
      (resolveAll base groups).diagnostics = []
  | [] => ⟨rfl, rfl⟩
  | g :: groups => by
    obtain ⟨hresult, hnone⟩ := resolveAll_eq base groups
    unfold resolveAll at hresult hnone ⊢
    rw [List.mapM_cons, List.mapM_cons, ← hresult]
    cases hg : g.resolve base with
    | error e =>
      have hlogged : g.resolveLogged base = { result := .error e } := by
        unfold resolveLogged
        exact Run.bind_error hg
      rw [hlogged, Run.bind_error rfl]
      exact ⟨rfl, rfl⟩
    | ok resolved =>
      have hlogged : g.resolveLogged base =
          { result := .ok resolved, events := [.dataGroup resolved.name resolved.maxAge] } := by
        unfold resolveLogged
        rw [Run.bind_ok hg, Run.bind_ok rfl]
        rfl
      rw [hlogged, Run.bind_ok rfl, Run.bind_pure_eq]
      exact ⟨rfl, hnone⟩

theorem exists_resolveAll_ok {base : String} {groups : List DataGroup}
    (h : ∀ g ∈ groups, ∃ resolved, g.resolve base = .ok resolved) :
    ∃ resolved, (resolveAll base groups).result = .ok resolved := by
  rw [(resolveAll_eq base groups).1]
  exact exists_mapM_eq_ok h

end DataGroup

/-! ### The URLs of shares -/

section Urls

variable {base : String} {ms : List Matching} {shares : List (List String)}

theorem map_name_zipWith_resolved (h : shares.length = ms.length) :
    (List.zipWith (Matching.resolved base) ms shares).map (·.name) =
      (ms.map (·.group)).map (·.name) :=
  calc (List.zipWith (Matching.resolved base) ms shares).map (·.name)
      = (ms.zip shares).map fun p => p.1.group.name := by
        rw [List.map_zipWith, ← List.map_uncurry_zip_eq_zipWith]
        rfl
    _ = ((ms.zip shares).map Prod.fst).map fun m => m.group.name := by rw [List.map_map]; rfl
    _ = (ms.map (·.group)).map (·.name) := by rw [List.map_fst_zip h.ge, List.map_map]; rfl

theorem map_urls_zipWith_resolved (h : shares.length = ms.length) :
    (List.zipWith (Matching.resolved base) ms shares).map (·.urls) =
      shares.map (List.map (Url.join base)) :=
  calc (List.zipWith (Matching.resolved base) ms shares).map (·.urls)
      = (ms.zip shares).map fun p => p.2.map (Url.join base) := by
        rw [List.map_zipWith, ← List.map_uncurry_zip_eq_zipWith]
        rfl
    _ = ((ms.zip shares).map Prod.snd).map (List.map (Url.join base)) := (List.map_map ..).symm
    _ = shares.map (List.map (Url.join base)) := by rw [List.map_snd_zip h.le]

theorem pairwise_disjoint_urls (rooted : ∀ share ∈ shares, ∀ f ∈ share, Url.Rooted f)
    (h : shares.Pairwise List.Disjoint) :
    (shares.map (List.map (Url.join base))).Pairwise List.Disjoint := by
  refine List.pairwise_map.mpr (h.imp_of_mem ?_)
  intro s t hs ht hst url hu hv
  obtain ⟨f, hf, rfl⟩ := List.mem_map.mp hu
  obtain ⟨g, hg, hgf⟩ := List.mem_map.mp hv
  exact hst hf ((Url.join_inj (rooted t ht g hg) (rooted s hs f hf)).mp hgf ▸ hg)

theorem pairwise_bytes_urls {share : List String} (rooted : ∀ f ∈ share, Url.Rooted f)
    (h : share.SortedLT) :
    (share.map (Url.join base)).Pairwise fun u v => Text.bytes u < Text.bytes v := by
  refine List.pairwise_map.mpr (h.pairwise.imp_of_mem fun hf hg hfg => ?_)
  exact Text.bytes_lt_bytes.mpr (Url.join_lt_join (rooted _ hf) (rooted _ hg) hfg)

end Urls

/-! ### Manifests -/

namespace Manifest

variable {base : String} {source : Source} {c : Config} {m : Manifest} {files : List String}

/-- **What a manifest is made of**: the groups and the table that the matched groups resolve to. -/
theorem exists_matched (h : (generate base source c).result = .ok m) :
    ∃ ms claimed, AssetGroup.Matched source c.assetGroups ms ∧
      (Matching.resolveAll base source {} ms).result =
        .ok (m.assetGroups, ⟨claimed, m.hashTable⟩) := by
  obtain ⟨⟨groups, claims⟩, hgroups, h⟩ := Run.result_bind_eq_ok.mp h
  obtain ⟨ms, hms, hgroups⟩ := Run.result_bind_eq_ok.mp hgroups
  obtain ⟨dataGroups, -, h⟩ := Run.result_bind_eq_ok.mp h
  obtain ⟨u, -, h⟩ := Run.result_bind_eq_ok.mp h
  cases h
  exact ⟨ms, claims.files, mapM_eq_ok.mp hms, hgroups⟩

/-- The URLs of the groups of a manifest. -/
theorem exists_matched_urls (h : (generate base source c).result = .ok m) :
    ∃ ms, AssetGroup.Matched source c.assetGroups ms ∧
      m.assetGroups.map (·.urls) = (Matching.shares [] ms).map (List.map (Url.join base)) := by
  obtain ⟨ms, claimed, hmatched, hgroups⟩ := exists_matched h
  have hresolved := (Matching.resolveAll_ok hgroups).1
  exact ⟨ms, hmatched, hresolved ▸ map_urls_zipWith_resolved Matching.length_shares⟩

/-- The table of a manifest, if listings have the same files. -/
theorem exists_matched_of_generate (lists : source.Lists files)
    (rooted : ∀ f ∈ files, Url.Rooted f) (h : (generate base source c).result = .ok m) :
    ∃ ms, AssetGroup.Matched source c.assetGroups ms ∧
      m.assetGroups = List.zipWith (Matching.resolved base) ms (Matching.shares [] ms) ∧
      Records base source m.hashTable (Matching.shares [] ms).flatten := by
  obtain ⟨ms, claimed, hmatched, hgroups⟩ := exists_matched h
  obtain ⟨hresolved, hmem, hrecords⟩ := Matching.resolveAll_ok hgroups
  have hmem' : ∀ f, f ∈ claimed ↔ f ∈ (Matching.shares [] ms).flatten := fun f => by
    rw [hmem]
    exact or_iff_left List.not_mem_nil
  have hrooted : ∀ f ∈ claimed, Url.Rooted f := fun f hf =>
    rooted f ((hmatched.mem_flatten_shares_iff lists).mp ((hmem' f).mp hf)).1
  exact ⟨ms, hmatched, hresolved, (hrecords hrooted records_empty).of_mem_iff hmem'⟩

/-- **A manifest exists** if listings succeed, accepted files have digests and the times of data
groups can be read. -/
theorem exists_generate_ok (hlist : ∀ i, ∃ listed, source.list i = .ok listed)
    (hhash : ∀ i listed f, source.list i = .ok listed → f ∈ listed →
      (∃ g ∈ c.assetGroups, g.Accepts f) → ∃ digest, source.hash f = .ok digest)
    (hdata : ∀ g ∈ c.dataGroups, ∃ resolved, g.resolve base = .ok resolved) :
    ∃ m, (generate base source c).result = .ok m := by
  have hmatching : ∀ p ∈ c.assetGroups.zipIdx, ∃ m, p.1.matching source p.2 = .ok m := fun p _ => by
    obtain ⟨listed, hlisted⟩ := hlist p.2
    exact AssetGroup.exists_matching_eq_ok hlisted
  obtain ⟨ms, hms⟩ := exists_mapM_eq_ok hmatching
  have hmatched : AssetGroup.Matched source c.assetGroups ms := mapM_eq_ok.mp hms
  have hshares : ∀ f ∈ (Matching.shares [] ms).flatten, ∃ digest, source.hash f = .ok digest := by
    intro f hf
    obtain ⟨i, listed, hlisted, hmem, haccepts⟩ := hmatched.exists_listed hf
    exact hhash i listed f hlisted hmem haccepts
  obtain ⟨groups, claims, hgroups⟩ : ∃ groups claims,
      (Matching.resolveAll base source {} ms).result = .ok (groups, claims) :=
    Matching.exists_resolveAll_ok hshares
  obtain ⟨dataGroups, hdataGroups⟩ := DataGroup.exists_resolveAll_ok hdata
  have hassets : (AssetGroup.resolveAll base source c.assetGroups).result = .ok (groups, claims) :=
    Run.result_bind_eq_ok.mpr ⟨ms, hms, hgroups⟩
  exact ⟨_, Run.result_bind_eq_ok.mpr ⟨_, hassets, Run.result_bind_eq_ok.mpr
    ⟨dataGroups, hdataGroups, rfl⟩⟩⟩

/-- The digests of accepted files. -/
theorem get?_hashTable_of_generate (lists : source.Lists files)
    (rooted : ∀ f ∈ files, Url.Rooted f) (h : (generate base source c).result = .ok m)
    {f : String} (hf : f ∈ files) (haccepts : ∃ g ∈ c.assetGroups, g.Accepts f) :
    ∃ digest, source.hash f = .ok digest ∧ m.hashTable.get? (Url.join base f) = some digest := by
  obtain ⟨ms, hmatched, -, hrecords⟩ := exists_matched_of_generate lists rooted h
  exact hrecords.complete f ((hmatched.mem_flatten_shares_iff lists).mpr ⟨hf, haccepts⟩)

/-- **First-match classification.** A manifest has the asset groups of the configuration in order.
The URLs of a group are those of the files for which it is the first group to accept them, in the
order of their bytes. No URL belongs to two groups, the table has exactly the URLs of the groups,
and gives each of them the digest of its file. -/
theorem generate_first_match (lists : source.Lists files) (rooted : ∀ f ∈ files, Url.Rooted f)
    (h : (generate base source c).result = .ok m) :
    m.assetGroups.map (·.name) = c.assetGroups.map (·.name) ∧
    (∀ k g, m.assetGroups[k]? = some g →
      (∀ url, url ∈ g.urls ↔ ∃ f ∈ files, AssetGroup.FirstAccepts c.assetGroups k f ∧
        url = Url.join base f) ∧
      g.urls.Pairwise fun u v => Text.bytes u < Text.bytes v) ∧
    (m.assetGroups.Pairwise fun g g' => g.urls.Disjoint g'.urls) ∧
    (∀ url, url ∈ m.hashTable.entries.map Prod.fst ↔ ∃ g ∈ m.assetGroups, url ∈ g.urls) ∧
    ∀ f ∈ files, (∃ g ∈ c.assetGroups, g.Accepts f) →
      ∃ digest, source.hash f = .ok digest ∧ m.hashTable.get? (Url.join base f) = some digest := by
  obtain ⟨ms, hmatched, hgroups, hrecords⟩ := exists_matched_of_generate lists rooted h
  have hnames : m.assetGroups.map (·.name) = (ms.map (·.group)).map (·.name) :=
    hgroups ▸ map_name_zipWith_resolved Matching.length_shares
  have hurls : m.assetGroups.map (·.urls) =
      (Matching.shares [] ms).map (List.map (Url.join base)) :=
    hgroups ▸ map_urls_zipWith_resolved Matching.length_shares
  have hrooted : ∀ share ∈ Matching.shares [] ms, ∀ f ∈ share, Url.Rooted f :=
    fun share hshare f hf =>
      rooted f ((hmatched.mem_flatten_shares_iff lists).mp (List.mem_flatten_of_mem hshare hf)).1
  refine ⟨hnames.trans (by rw [hmatched.map_group]), fun k g hg => ?_, ?_, fun url => ?_,
    fun f hf haccepts => get?_hashTable_of_generate lists rooted h hf haccepts⟩
  · have hk : ((Matching.shares [] ms).map (List.map (Url.join base)))[k]? = some g.urls := by
      rw [← hurls, List.getElem?_map, hg, Option.map_some]
    rw [List.getElem?_map, Option.map_eq_some_iff] at hk
    obtain ⟨share, hshare, hk⟩ := hk
    have hmem := List.mem_of_getElem? hshare
    rw [← hk]
    refine ⟨fun url => ?_, pairwise_bytes_urls (hrooted share hmem)
      (Matching.sortedLT_of_mem_shares hmem)⟩
    simp only [List.mem_map, hmatched.mem_share_iff lists hshare, and_assoc, eq_comm]
  · have hdisjoint : (m.assetGroups.map (·.urls)).Pairwise List.Disjoint :=
      hurls ▸ pairwise_disjoint_urls hrooted Matching.pairwise_disjoint_shares
    exact List.pairwise_map.mp hdisjoint
  · have hurl : (∃ g ∈ m.assetGroups, url ∈ g.urls) ↔
        ∃ f ∈ (Matching.shares [] ms).flatten, url = Url.join base f := by
      rw [← List.mem_flatMap, List.flatMap_def, hurls, ← List.map_flatten, List.mem_map]
      simp only [eq_comm]
    rw [KeyMap.mem_keys_iff, hurl]
    constructor
    · rintro ⟨digest, hdigest⟩
      exact hrecords.sound url digest hdigest
    · rintro ⟨f, hf, rfl⟩
      obtain ⟨digest, -, hdigest⟩ := hrecords.complete f hf
      exact ⟨digest, hdigest⟩

/-- Two files, which come in another order and more than once for every group but the first. -/
def twoFiles : Source where
  list i := .ok (if i = 0 then ["/b.js", "/a.css"] else ["/a.css", "/b.js", "/b.js"])
  hash f := .ok ("digest of " ++ f)

/-- A group for scripts, and one for all files. -/
def twoGroups : Config where
  index := "/index.html"
  assetGroups :=
    [{ name := "code", resources := { files := ["/*.js"] } },
      { name := "rest", resources := { files := ["/**"] } }]

theorem lists_twoFiles : twoFiles.Lists ["/a.css", "/b.js"] := by
  intro i listed h f
  obtain rfl := Except.ok.inj h
  by_cases hi : i = 0 <;> simp [hi, or_comm]

/-- A group to which one of the files goes has one URL. -/
theorem urls_eq_singleton {p : String → Prop} {urls : List String} {f : String} (hf : f ∈ files)
    (hp : ∀ f' ∈ files, p f' ↔ f' = f)
    (hmem : ∀ url, url ∈ urls ↔ ∃ f' ∈ files, p f' ∧ url = Url.join base f')
    (hpairwise : urls.Pairwise fun u v => Text.bytes u < Text.bytes v) :
    urls = [Url.join base f] := by
  refine (hpairwise.imp Text.bytes_lt_bytes.mp).sortedLT.eq_of_mem_iff
    (List.pairwise_singleton _ _).sortedLT fun url => ?_
  rw [hmem, List.mem_singleton]
  constructor
  · rintro ⟨f', hf', hfirst, rfl⟩
    rw [(hp f' hf').mp hfirst]
  · rintro rfl
    exact ⟨f, hf, (hp f hf).mpr rfl, rfl⟩

/-- The URLs and digests that come out for the two files. -/
theorem generate_first_match_twoFiles :
    ∃ m, (generate "/app" twoFiles twoGroups).result = .ok m ∧
      m.assetGroups.map (·.name) = ["code", "rest"] ∧
      m.assetGroups.map (·.urls) = [["/app/b.js"], ["/app/a.css"]] ∧
      (∀ url, url ∈ m.hashTable.entries.map Prod.fst ↔ url = "/app/b.js" ∨ url = "/app/a.css") ∧
      m.hashTable.get? "/app/b.js" = some "digest of /b.js" ∧
      m.hashTable.get? "/app/a.css" = some "digest of /a.css" := by
  obtain ⟨m, hm⟩ : ∃ m, (generate "/app" twoFiles twoGroups).result = .ok m :=
    exists_generate_ok (fun _ => ⟨_, rfl⟩) (fun _ _ _ _ _ _ => ⟨_, rfl⟩)
      (fun _ h => absurd h List.not_mem_nil)
  obtain ⟨hnames, hgroups, -, hkeys, hdigests⟩ :=
    generate_first_match lists_twoFiles (by decide) hm
  have hcode : ∀ f ∈ ["/a.css", "/b.js"],
      AssetGroup.FirstAccepts twoGroups.assetGroups 0 f ↔ f = "/b.js" := by decide +kernel
  have hrest : ∀ f ∈ ["/a.css", "/b.js"],
      AssetGroup.FirstAccepts twoGroups.assetGroups 1 f ↔ f = "/a.css" := by decide +kernel
  have haccepts : ∀ f ∈ ["/a.css", "/b.js"], ∃ g ∈ twoGroups.assetGroups, g.Accepts f := by
    decide +kernel
  have hjoin : Url.join "/app" "/a.css" = "/app/a.css" ∧ Url.join "/app" "/b.js" = "/app/b.js" := by
    decide
  obtain ⟨code, rest, hassets⟩ : ∃ code rest, m.assetGroups = [code, rest] := by
    have hlength : m.assetGroups.length = 2 := by
      rw [← List.length_map (f := (·.name)), hnames]
      rfl
    exact List.length_eq_two.mp hlength
  have hurls : code.urls = ["/app/b.js"] ∧ rest.urls = ["/app/a.css"] := by
    obtain ⟨hmem, hpairwise⟩ := hgroups 0 code (by rw [hassets]; rfl)
    obtain ⟨hmem', hpairwise'⟩ := hgroups 1 rest (by rw [hassets]; rfl)
    rw [← hjoin.1, ← hjoin.2]
    exact ⟨urls_eq_singleton (by decide) hcode hmem hpairwise,
      urls_eq_singleton (by decide) hrest hmem' hpairwise'⟩
  have hdigest : ∀ f ∈ ["/a.css", "/b.js"],
      m.hashTable.get? (Url.join "/app" f) = some ("digest of " ++ f) := by
    intro f hf
    obtain ⟨digest, hdigest, hget⟩ := hdigests f hf (haccepts f hf)
    rw [hget, ← Except.ok.inj hdigest]
  refine ⟨m, hm, hnames, by rw [hassets]; simp [hurls], fun url => ?_, ?_, ?_⟩
  · rw [hkeys, hassets]
    simp [hurls]
  · exact hjoin.2 ▸ hdigest "/b.js" (by decide)
  · exact hjoin.1 ▸ hdigest "/a.css" (by decide)

end Manifest

end OfflineManifest
