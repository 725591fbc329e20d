import OfflineManifest.Files.Memory
import OfflineManifest.Proofs.Manifest.Precedence

/-! # Moving globs between options

The globs of an asset group stand under two options, each of which is a set of its own: an
exclamation mark takes files out of its own option only. If all globs are moved into one option, a
file gets lost that one of the two options accepts and the other one excludes
(`AssetGroup.accepts_merged_iff`). Apart from such files every group claims what it has claimed
before, so a manifest can still be made, and it is the same one exactly if the group claims no such
file (`Manifest.generate_mergedAt`). -/

namespace OfflineManifest

theorem Run.result_bind_congr {ε α β : Type} {x y : Run ε α} (h : x.result = y.result)
    (f : α → Run ε β) : (x >>= f).result = (y >>= f).result := by
  cases hy : y.result with
  | error e => rw [bind_error (h.trans hy), bind_error hy]
  | ok a => rw [bind_ok (h.trans hy), bind_ok hy]

/-! ### The files that a group accepts -/

namespace AssetGroup

open PatternSet

variable {source : Source} {groups : List AssetGroup} {g : AssetGroup} {f : String} {j k : ℕ}

/-- The group with all its globs for files under one option. -/
def merged (g : AssetGroup) : AssetGroup :=
  { g with
    resources :=
      { g.resources with
        files := g.resources.files ++ g.resources.versionedFiles
        versionedFiles := [] } }

/-- One of the two options for files accepts a file, and the other one excludes it. -/
def Disputes (g : AssetGroup) (f : String) : Prop :=
  (Includes g.resources.files f ∧ ¬ Excludes g.resources.files f ∧
    Excludes g.resources.versionedFiles f) ∨
  (Includes g.resources.versionedFiles f ∧ ¬ Excludes g.resources.versionedFiles f ∧
    Excludes g.resources.files f)

theorem not_disputes_of_unsigned (h : ∀ glob ∈ g.resources.files ++ g.resources.versionedFiles,
    glob.toList.head? ≠ some '!') : ¬ g.Disputes f := by
  have hnone : ∀ globs, (∀ glob ∈ globs, glob.toList.head? ≠ some '!') → ¬ Excludes globs f := by
    rintro globs hglobs ⟨glob, hglob, hsign, -⟩
    rw [signed_of_ne (hglobs glob hglob)] at hsign
    cases hsign
  rw [List.forall_mem_append] at h
  rintro (⟨-, -, hexcludes⟩ | ⟨-, -, hexcludes⟩)
  · exact hnone _ h.2 hexcludes
  · exact hnone _ h.1 hexcludes

theorem accepts_iff : g.Accepts f ↔
    (Includes g.resources.files f ∧ ¬ Excludes g.resources.files f) ∨
    (Includes g.resources.versionedFiles f ∧ ¬ Excludes g.resources.versionedFiles f) := by
  obtain ⟨files, hfiles⟩ := exists_ofGlobs g.name g.resources.files
  obtain ⟨versionedFiles, hversioned⟩ := exists_ofGlobs g.name g.resources.versionedFiles
  rw [← accepts_of_ofGlobs hfiles, ← accepts_of_ofGlobs hversioned]
  simp [Accepts, hfiles, hversioned]

/-- **Merging loses the files that are disputed**, and no others. -/
theorem accepts_merged_iff : g.merged.Accepts f ↔ g.Accepts f ∧ ¬ g.Disputes f := by
  have hnone : ¬ Includes [] f := fun ⟨_, h, _⟩ => absurd h List.not_mem_nil
  rw [accepts_iff, accepts_iff]
  unfold merged Disputes
  dsimp only
  rw [includes_append, excludes_append]
  tauto

theorem exists_claimsAt (h : FindsAt source groups k f) :
    ∃ j ≤ k, ClaimsAt source groups j f := by
  classical
  have hex : ∃ j, FindsAt source groups j f := ⟨k, h⟩
  exact ⟨Nat.find hex, Nat.find_min' hex h, Nat.find_spec hex, fun j hj => Nat.find_min hex hj⟩

theorem findsAt_modify_of_ne (h : j ≠ k) :
    FindsAt source (groups.modify k merged) j f ↔ FindsAt source groups j f := by
  unfold FindsAt
  rw [List.getElem?_modify_ne _ _ (Ne.symm h)]

theorem findsAt_modify_self (hg : groups[k]? = some g) :
    FindsAt source (groups.modify k merged) k f ↔
      FindsAt source groups k f ∧ ¬ g.Disputes f := by
  unfold FindsAt
  rw [List.getElem?_modify_eq, hg]
  constructor
  · rintro ⟨_, listed, ⟨⟩, hlist, hf, haccepts⟩
    obtain ⟨haccepts, hdisputes⟩ := accepts_merged_iff.mp haccepts
    exact ⟨⟨g, listed, rfl, hlist, hf, haccepts⟩, hdisputes⟩
  · rintro ⟨⟨_, listed, ⟨⟩, hlist, hf, haccepts⟩, hdisputes⟩
    exact ⟨_, listed, rfl, hlist, hf, accepts_merged_iff.mpr ⟨haccepts, hdisputes⟩⟩

theorem findsAt_of_modify (hg : groups[k]? = some g)
    (h : FindsAt source (groups.modify k merged) j f) : FindsAt source groups j f := by
  by_cases hjk : j = k
  · subst hjk
    exact ((findsAt_modify_self hg).mp h).1
  · exact (findsAt_modify_of_ne hjk).mp h

/-- **What a merged group claims**: what it has claimed before, without the files that are
disputed. -/
theorem claimsAt_modify_self (hg : groups[k]? = some g) :
    ClaimsAt source (groups.modify k merged) k f ↔
      ClaimsAt source groups k f ∧ ¬ g.Disputes f := by
  unfold ClaimsAt
  have hbefore : (∀ i < k, ¬ FindsAt source (groups.modify k merged) i f) ↔
      ∀ i < k, ¬ FindsAt source groups i f :=
    forall₂_congr fun i hi => not_congr (findsAt_modify_of_ne hi.ne)
  rw [findsAt_modify_self hg, hbefore]
  tauto

/-- If it claims no such file, all groups claim what they have claimed before. -/
theorem claimsAt_modify (hg : groups[k]? = some g)
    (h : ∀ f, ClaimsAt source groups k f → ¬ g.Disputes f) :
    ClaimsAt source (groups.modify k merged) j f ↔ ClaimsAt source groups j f := by
  by_cases hjk : j = k
  · subst hjk
    rw [claimsAt_modify_self hg]
    exact and_iff_left_of_imp (h f)
  unfold ClaimsAt
  rw [findsAt_modify_of_ne hjk]
  refine and_congr_right fun _ => ⟨fun hbefore i hi hfinds => ?_, fun hbefore i hi hfinds =>
    hbefore i hi (findsAt_of_modify hg hfinds)⟩
  -- the first group that finds the file still finds it
  obtain ⟨i', hi', hclaims⟩ := exists_claimsAt hfinds
  refine hbefore i' (hi'.trans_lt hi) ?_
  by_cases hik : i' = k
  · subst hik
    exact (findsAt_modify_self hg).mpr ⟨hclaims.1, h f hclaims⟩
  · exact (findsAt_modify_of_ne hik).mpr hclaims.1

end AssetGroup

/-! ### What a manifest depends on -/

namespace Matching

variable {base : String} {source : Source} {ms ns : List Matching} {claims : Claims}

/-- **The result for groups in a row** depends on the files that they claim, and on the form that
they give to them. -/
theorem result_resolveAll_congr
    (hform : List.Forall₂ (fun m n => ∀ files, m.resolved base files = n.resolved base files) ms ns)
    (hshares : shares claims.files ms = shares claims.files ns) :
    (resolveAll base source claims ms).result = (resolveAll base source claims ns).result := by
  induction hform generalizing claims with
  | nil => rfl
  | @cons m n ms ns hmn _ ih =>
    obtain ⟨hclaimed, hrest⟩ := List.cons.inj hshares
    have hname : m.group.name = n.group.name := congrArg (·.name) (hmn [])
    rw [← hclaimed] at hrest
    unfold resolveAll
    cases htable : hashAll base source m.group.name claims.hashTable (m.claimed claims.files) with
    | error e =>
      have htable' := htable
      rw [hname, hclaimed] at htable'
      rw [resolve_error htable, resolve_error htable', Run.bind_error rfl, Run.bind_error rfl]
    | ok table =>
      have htable' := htable
      rw [hname, hclaimed] at htable'
      rw [resolve_ok htable, resolve_ok htable', Run.bind_ok rfl, Run.bind_ok rfl, ← hclaimed,
        hmn]
      exact Run.result_bind_congr (ih hrest) _

end Matching

/-- The configuration with all globs for files of the group at an index under one option. -/
def Config.mergedAt (c : Config) (k : ℕ) : Config :=
  { c with assetGroups := c.assetGroups.modify k AssetGroup.merged }

namespace AssetGroup

variable {base : String} {source : Source} {groups : List AssetGroup} {g : AssetGroup} {k : ℕ}
  {ms ns : List Matching}

/-- Merging leaves the form of groups as it is. -/
theorem Matched.resolved_modify (h : Matched source groups ms)
    (h' : Matched source (groups.modify k merged) ns) :
    List.Forall₂ (fun m n => ∀ files, m.resolved base files = n.resolved base files) ms ns := by
  have hlength : ms.length = ns.length := by
    rw [h.length_eq, h'.length_eq, List.length_modify]
  refine List.forall₂_iff_get.mpr ⟨hlength, fun i hi hi' files => ?_⟩
  obtain ⟨g, hg, hmatch⟩ := h.exists_group (List.getElem?_eq_getElem hi)
  obtain ⟨g', hg', hmatch'⟩ := h'.exists_group (List.getElem?_eq_getElem hi')
  rw [List.getElem?_modify, hg] at hg'
  unfold Matching.resolved
  rw [List.get_eq_getElem, List.get_eq_getElem, (matching_eq_ok.mp hmatch).1,
    (matching_eq_ok.mp hmatch').1]
  by_cases hk : k = i
  · simp only [hk, if_true, Option.map_eq_map, Option.map_some, Option.some.injEq] at hg'
    rw [← hg']
    rfl
  · simp only [hk, if_false, Option.map_eq_map, Option.map_some, Option.some.injEq] at hg'
    rw [← hg']

/-- Groups that claim the same files have the same shares. -/
theorem Matched.shares_congr {groups' : List AssetGroup} (h : Matched source groups ms)
    (h' : Matched source groups' ns) (hlength : groups.length = groups'.length)
    (hclaims : ∀ k f, ClaimsAt source groups k f ↔ ClaimsAt source groups' k f) :
    Matching.shares [] ms = Matching.shares [] ns := by
  have hlength' : (Matching.shares [] ms).length = (Matching.shares [] ns).length := by
    rw [Matching.length_shares, Matching.length_shares, h.length_eq, h'.length_eq, hlength]
  refine List.ext_getElem hlength' fun k hk hk' => ?_
  have hshare := List.getElem?_eq_getElem hk
  have hshare' := List.getElem?_eq_getElem hk'
  have hsorted := Matching.sortedLT_of_mem_shares (List.mem_of_getElem? hshare)
  have hsorted' := Matching.sortedLT_of_mem_shares (List.mem_of_getElem? hshare')
  refine hsorted.eq_of_mem_iff hsorted' fun f => ?_
  rw [h.mem_share_iff_claimsAt hshare, h'.mem_share_iff_claimsAt hshare', hclaims]

end AssetGroup

namespace Manifest

open AssetGroup

variable {base : String} {source : Source} {c : Config} {g : AssetGroup} {k : ℕ} {m m' : Manifest}

/-- **When there is a manifest.** -/
theorem exists_generate_ok_iff : (∃ m, (generate base source c).result = .ok m) ↔
    (∀ k < c.assetGroups.length, ¬ Fails (source.list k)) ∧
      (∀ k f, ClaimsAt source c.assetGroups k f → ¬ Fails (source.hash f)) ∧
      ¬ Fails (c.dataGroups.mapM (DataGroup.resolve base)) := by
  rw [← not_fails_iff]
  rcases generate_cases base source c with ⟨k, g, e, hfirst, hrun⟩ | ⟨hlisted, hrest⟩
  · have hk : k < c.assetGroups.length := (List.getElem?_eq_some_iff.mp hfirst.group).1
    constructor
    · exact fun hok => absurd ⟨_, congrArg (·.result) hrun⟩ hok
    · exact fun h => absurd ⟨e, hfirst.fault⟩ (h.1 k hk)
  rcases hrest with ⟨k, g, f, e, hfirst, hresult, -⟩ | ⟨hhashed, -, herror⟩
  · constructor
    · exact fun hok => absurd ⟨_, hresult⟩ hok
    · exact fun h => absurd ⟨e, hfirst.fault⟩ (h.2.1 k f hfirst.claimed)
  · have hfails : Fails (generate base source c).result ↔
        Fails (c.dataGroups.mapM (DataGroup.resolve base)) := exists_congr herror
    rw [hfails]
    exact ⟨fun h => ⟨hlisted, hhashed, h⟩, fun h => h.2.2⟩

/-- A group that claims fewer files has fewer URLs. -/
theorem urls_ne_of_claims {c' : Config} {f : String}
    (h : (generate base source c).result = .ok m) (h' : (generate base source c').result = .ok m')
    (hlength : k < c'.assetGroups.length)
    (hsub : ∀ f, ClaimsAt source c'.assetGroups k f → ClaimsAt source c.assetGroups k f)
    (hf : ClaimsAt source c.assetGroups k f) (hf' : ¬ ClaimsAt source c'.assetGroups k f) :
    m' ≠ m := by
  rintro rfl
  obtain ⟨ms, hmatched, hurls⟩ := exists_matched_urls h
  obtain ⟨ns, hmatched', hurls'⟩ := exists_matched_urls h'
  obtain ⟨share, hshare, hmem⟩ := hmatched.exists_share hf
  have hk' : k < (Matching.shares [] ns).length := by
    rwa [Matching.length_shares, hmatched'.length_eq]
  have hshare' := List.getElem?_eq_getElem hk'
  have hsorted := Matching.sortedLT_of_mem_shares (List.mem_of_getElem? hshare')
  have hsubset : (Matching.shares [] ns)[k] ⊆ share := fun f' hf' =>
    (hmatched.mem_share_iff_claimsAt hshare).mpr
      (hsub f' ((hmatched'.mem_share_iff_claimsAt hshare').mp hf'))
  have hlengths : share.length = (Matching.shares [] ns)[k].length := by
    have hk := congrArg (·[k]?) (hurls.symm.trans hurls')
    simp only [List.getElem?_map, hshare, hshare', Option.map_some, Option.some.injEq] at hk
    simpa using congrArg List.length hk
  have hperm := (List.subperm_of_subset hsorted.nodup hsubset).perm_of_length_le hlengths.le
  exact hf' ((hmatched'.mem_share_iff_claimsAt hshare').mp (hperm.mem_iff.mpr hmem))

/-- If the merged group claims what the group has claimed before, the result is the same. -/
theorem result_generate_mergedAt (hg : c.assetGroups[k]? = some g)
    (hnone : ∀ f, ClaimsAt source c.assetGroups k f → ¬ g.Disputes f)
    (h : (generate base source c).result = .ok m)
    (h' : (generate base source (c.mergedAt k)).result = .ok m') :
    (generate base source (c.mergedAt k)).result = (generate base source c).result := by
  obtain ⟨ms, hmatched, -⟩ := exists_matched_urls h
  obtain ⟨ns, hmatched', -⟩ := exists_matched_urls h'
  have hshares : Matching.shares [] ms = Matching.shares [] ns :=
    hmatched.shares_congr hmatched' (List.length_modify ..).symm
      fun j f => (claimsAt_modify hg hnone).symm
  have hresult : (AssetGroup.resolveAll base source (c.mergedAt k).assetGroups).result =
      (AssetGroup.resolveAll base source c.assetGroups).result := by
    rw [hmatched.resolveAll_eq, hmatched'.resolveAll_eq]
    exact (Matching.result_resolveAll_congr (hmatched.resolved_modify hmatched') hshares).symm
  unfold generate
  exact Run.result_bind_congr hresult _

theorem exists_generate_mergedAt (hg : c.assetGroups[k]? = some g)
    (h : (generate base source c).result = .ok m) :
    ∃ m', (generate base source (c.mergedAt k)).result = .ok m' := by
  obtain ⟨hlisted, hhashed, hdata⟩ := exists_generate_ok_iff.mp ⟨m, h⟩
  have hlength : (c.mergedAt k).assetGroups.length = c.assetGroups.length :=
    List.length_modify ..
  refine exists_generate_ok_iff.mpr ⟨fun j hj => hlisted j (hlength ▸ hj), fun j f hf => ?_, hdata⟩
  obtain ⟨j', -, hf'⟩ := exists_claimsAt (findsAt_of_modify hg hf.1)
  exact hhashed j' f hf'

theorem eq_iff_not_disputes (hg : c.assetGroups[k]? = some g)
    (h : (generate base source c).result = .ok m)
    (h' : (generate base source (c.mergedAt k)).result = .ok m') :
    m' = m ↔ ∀ f, ClaimsAt source c.assetGroups k f → ¬ g.Disputes f := by
  constructor
  · intro heq f hf hdisputes
    have hk : k < (c.mergedAt k).assetGroups.length :=
      (List.length_modify ..).symm ▸ (List.getElem?_eq_some_iff.mp hg).1
    refine urls_ne_of_claims h h' hk (fun f' hf' => ?_) hf (fun hf' => ?_) heq
    · exact ((claimsAt_modify_self hg).mp hf').1
    · exact ((claimsAt_modify_self hg).mp hf').2 hdisputes
  · intro hnone
    have hsame := result_generate_mergedAt hg hnone h h'
    exact Except.ok.inj (h'.symm.trans (hsame.trans h))

/-- **Moving all globs of a group into one option** leads to a manifest again. It is the same one
exactly if the group claims no file that one of its options accepts and the other one excludes; so
it is if no glob of the group has an exclamation mark. -/
theorem generate_mergedAt (hg : c.assetGroups[k]? = some g)
    (h : (generate base source c).result = .ok m) :
    ∃ m', (generate base source (c.mergedAt k)).result = .ok m' ∧
      (m' = m ↔ ∀ f, ClaimsAt source c.assetGroups k f → ¬ g.Disputes f) ∧
      ((∀ glob ∈ g.resources.files ++ g.resources.versionedFiles,
        glob.toList.head? ≠ some '!') → m' = m) := by
  obtain ⟨m', h'⟩ := exists_generate_mergedAt hg h
  have hiff := eq_iff_not_disputes hg h h'
  exact ⟨m', h', hiff, fun hunsigned => hiff.mpr fun f _ => not_disputes_of_unsigned hunsigned⟩

/-- Two options without exclamation marks. -/
def styled : Config where
  index := "/index.html"
  assetGroups :=
    [{ name := "app", resources := { files := ["/*.js"], versionedFiles := ["/*.css"] } }]

theorem generate_mergedAt_styled :
    ∃ m, (generate "/" twoFiles styled).result = .ok m ∧
      (generate "/" twoFiles (styled.mergedAt 0)).result = .ok m := by
  obtain ⟨m, hm⟩ : ∃ m, (generate "/" twoFiles styled).result = .ok m :=
    exists_generate_ok (fun _ => ⟨_, rfl⟩) (fun _ _ _ _ _ _ => ⟨_, rfl⟩)
      (fun _ h => absurd h List.not_mem_nil)
  obtain ⟨m', hm', -, hsame⟩ := generate_mergedAt (k := 0) rfl hm
  exact ⟨m, hm, hsame (by decide) ▸ hm'⟩

/-! ### A file that gets lost -/

/-- A script that is taken out of one option and named under the other one. -/
def split : Config where
  index := "/index.html"
  assetGroups :=
    [{ name := "app"
       resources := { files := ["/*.js", "!/vendor.js"], versionedFiles := ["/vendor.js"] } }]

/-- A store with that script and another one. -/
def twoScripts : MemoryStore where
  entries := [("/main.js", "main"), ("/vendor.js", "vendor")]
  pins := [("/main.js", "m"), ("/vendor.js", "v")]

theorem claimsAt_split : ClaimsAt (.ofStore twoScripts) split.assetGroups 0 "/vendor.js" :=
  ⟨⟨_, _, rfl, rfl, by decide, by decide +kernel⟩, fun j hj => absurd hj j.not_lt_zero⟩

theorem disputes_split : ∃ g, split.assetGroups[0]? = some g ∧ g.Disputes "/vendor.js" := by
  have haccepts : Glob.Accepts .wildcard "/vendor.js".toList "/vendor.js".toList := by
    refine (?_ : Glob.SegmentsAccept _ [[], "vendor.js".toList] _)
    simp [Glob.SegmentsAccept, Glob.SegmentAccepts, Glob.wild]
  refine ⟨_, rfl, Or.inr ⟨⟨"/vendor.js", List.mem_cons_self, rfl, haccepts⟩, ?_,
    ⟨"!/vendor.js", by simp, rfl, haccepts⟩⟩⟩
  rintro ⟨glob, hglob, hsign, -⟩
  rw [List.mem_singleton.mp hglob] at hsign
  cases hsign

/-- **Moving the globs into one option changes a manifest**: a script is no longer in it. -/
theorem exists_generate_mergedAt_ne :
    ∃ m m', (generate "/" (.ofStore twoScripts) split).result = .ok m ∧
      (generate "/" (.ofStore twoScripts) (split.mergedAt 0)).result = .ok m' ∧ m' ≠ m := by
  obtain ⟨g, hg, hdisputes⟩ := disputes_split
  obtain ⟨m, hm⟩ : ∃ m, (generate "/" (.ofStore twoScripts) split).result = .ok m := by
    refine exists_generate_ok (fun _ => ⟨_, rfl⟩) (fun _ listed f hlisted hf _ => ?_)
      (fun _ h => absurd h List.not_mem_nil)
    cases hlisted
    obtain rfl | rfl := List.mem_pair.mp hf
    · exact ⟨"m", rfl⟩
    · exact ⟨"v", rfl⟩
  obtain ⟨m', hm'⟩ := exists_generate_mergedAt hg hm
  refine ⟨m, m', hm, hm', fun heq => ?_⟩
  exact (eq_iff_not_disputes hg hm hm').mp heq _ claimsAt_split hdisputes

end Manifest

end OfflineManifest
