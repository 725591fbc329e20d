import OfflineManifest.Diagnostic.Sink
import OfflineManifest.Proofs.Manifest.Resolution

/-! # Which fault is reported

Making a manifest takes three phases: files are listed for all asset groups, the groups claim and
hash their files in order, and the data groups are resolved. The first fault ends it. So a listing
that fails is reported before a file that cannot be hashed, and that before a time that is no
duration; among faults of one kind the one of the first group counts, and in an asset group the one
of the first file (`Manifest.generate_cases`). The notices that were given before the fault remain:
those of the groups up to the one at fault in the second phase, those of all groups after it. -/

namespace OfflineManifest

/-! ### Hashing files in order -/

theorem hashAll_cases (base group : String) (source : Source) :
    ∀ (files : List String) (table : KeyMap String), files.Pairwise (· < ·) →
      ((∀ f ∈ files, ¬ Fails (source.hash f)) ∧
        ∃ table', hashAll base source group table files = .ok table') ∨
      ∃ f e, f ∈ files ∧ source.hash f = .error e ∧
        (∀ g ∈ files, g < f → ¬ Fails (source.hash g)) ∧
        hashAll base source group table files = .error (.hash group f e)
  | [], table, _ => Or.inl ⟨fun _ h => absurd h List.not_mem_nil, table, rfl⟩
  | f :: files, table, hsorted => by
    rw [List.pairwise_cons] at hsorted
    unfold hashAll
    cases hhash : source.hash f with
    | error e =>
      refine Or.inr ⟨f, e, List.mem_cons_self, hhash, fun g hg hgf => ?_, rfl⟩
      rcases List.mem_cons.mp hg with rfl | hg
      · exact absurd hgf (lt_irrefl _)
      · exact absurd hgf (hsorted.1 g hg).asymm
    | ok digest =>
      have hok : ¬ Fails (source.hash f) := not_fails_iff.mpr ⟨digest, hhash⟩
      rcases hashAll_cases base group source files (table.insert (Url.join base f) digest)
          hsorted.2 with
        ⟨hall, table', htable⟩ | ⟨g, e, hg, he, hbefore, hrun⟩
      · exact Or.inl ⟨List.forall_mem_cons.mpr ⟨hok, hall⟩, table', htable⟩
      · exact Or.inr ⟨g, e, List.mem_cons_of_mem _ hg, he,
          List.forall_mem_cons.mpr ⟨fun _ => hok, hbefore⟩, hrun⟩

/-! ### Asset groups in order -/

namespace AssetGroup

/-- The notices that groups call for: one for each group that uses the former name of an option. -/
def noticesFor (groups : List AssetGroup) : List Diagnostic :=
  (groups.filter fun g => !g.resources.versionedFiles.isEmpty).map fun g => .versionedFiles g.name

theorem noticesFor_cons (g : AssetGroup) (groups : List AssetGroup) :
    noticesFor (g :: groups) = g.notices ++ noticesFor groups := by
  unfold noticesFor notices
  cases h : g.resources.versionedFiles.isEmpty <;> simp [h]

end AssetGroup

namespace Matching

variable {base : String} {source : Source}

/-- **The first file that cannot be hashed**, among the files that groups claim: the group comes
first, and in it the name of the file. -/
structure FirstFault (source : Source) (shares : List (List String)) (k : ℕ) (f : String)
    (e : FileError) : Prop where
  claimed : ∃ share, shares[k]? = some share ∧ f ∈ share ∧
    ∀ g ∈ share, g < f → ¬ Fails (source.hash g)
  fault : source.hash f = .error e
  before : ∀ j < k, ∀ share, shares[j]? = some share → ∀ g ∈ share, ¬ Fails (source.hash g)

theorem FirstFault.cons {shares : List (List String)} {k : ℕ} {f : String} {e : FileError}
    (h : FirstFault source shares k f e) {share : List String}
    (hshare : ∀ g ∈ share, ¬ Fails (source.hash g)) :
    FirstFault source (share :: shares) (k + 1) f e := by
  refine ⟨h.claimed, h.fault, fun j hj share' hshare' => ?_⟩
  cases j with
  | zero => exact Option.some.inj hshare' ▸ hshare
  | succ j => exact h.before j (Nat.lt_of_succ_lt_succ hj) share' hshare'

/-- **Groups in a row** are resolved up to the first file that cannot be hashed. -/
theorem resolveAll_cases (base : String) (source : Source) :
    ∀ (ms : List Matching) (claims : Claims),
    ((∀ f ∈ (shares claims.files ms).flatten, ¬ Fails (source.hash f)) ∧
      (∃ v, (resolveAll base source claims ms).result = .ok v) ∧
      (resolveAll base source claims ms).diagnostics =
        AssetGroup.noticesFor (ms.map (·.group))) ∨
    ∃ k m f e, ms[k]? = some m ∧ FirstFault source (shares claims.files ms) k f e ∧
      (resolveAll base source claims ms).result = .error (.hash m.group.name f e) ∧
      (resolveAll base source claims ms).diagnostics =
        AssetGroup.noticesFor ((ms.map (·.group)).take (k + 1))
  | [], claims => Or.inl ⟨fun _ h => absurd h List.not_mem_nil, ⟨_, rfl⟩, rfl⟩
  | m :: ms, claims => by
    rw [List.map_cons, resolveAll]
    have hsorted : (m.claimed claims.files).Pairwise (· < ·) := sortedLT_claimed.pairwise
    rcases hashAll_cases base m.group.name source _ claims.hashTable hsorted with
      ⟨hall, table, htable⟩ | ⟨f, e, hf, he, hbefore, hrun⟩
    · rw [resolve_ok htable, Run.bind_ok rfl]
      dsimp only
      rw [Run.bind_pure_eq]
      dsimp only
      rcases resolveAll_cases base source ms
          ⟨m.claimed claims.files ++ claims.files, table⟩ with
        ⟨hrest, ⟨v, hv⟩, hnotices⟩ | ⟨k, m', f, e, hm', hfirst, hresult, hnotices⟩
      · refine Or.inl ⟨List.forall_mem_append.mpr ⟨hall, hrest⟩, ⟨_, by rw [hv]; rfl⟩, ?_⟩
        rw [hnotices, AssetGroup.noticesFor_cons]
      · refine Or.inr ⟨k + 1, m', f, e, hm', hfirst.cons hall, by rw [hresult]; rfl, ?_⟩
        rw [hnotices, List.take_succ_cons, AssetGroup.noticesFor_cons]
    · rw [resolve_error hrun, Run.bind_error rfl]
      refine Or.inr ⟨0, m, f, e, rfl, ⟨⟨_, rfl, hf, hbefore⟩, he, ?_⟩, rfl, ?_⟩
      · exact fun j hj => absurd hj j.not_lt_zero
      · rw [List.take_succ_cons, AssetGroup.noticesFor_cons]
        simp [AssetGroup.noticesFor]

end Matching

/-! ### Listing files -/

namespace AssetGroup

variable {base : String} {source : Source} {groups : List AssetGroup} {k : ℕ} {g : AssetGroup}
  {f : String}

/-- Files cannot be listed for the group at an index, but for all groups before it. -/
structure FirstUnlisted (source : Source) (groups : List AssetGroup) (k : ℕ) (g : AssetGroup)
    (e : FileError) : Prop where
  group : groups[k]? = some g
  fault : source.list k = .error e
  before : ∀ j < k, ¬ Fails (source.list j)

/-- The group at an index claims a file that cannot be hashed, but whatever groups before it claim
can be, and so can the files of the group whose names have smaller bytes. -/
structure FirstUnhashed (source : Source) (groups : List AssetGroup) (k : ℕ) (g : AssetGroup)
    (f : String) (e : FileError) : Prop where
  group : groups[k]? = some g
  claimed : ClaimsAt source groups k f
  fault : source.hash f = .error e
  least : ∀ f', ClaimsAt source groups k f' → Text.bytes f' < Text.bytes f →
    ¬ Fails (source.hash f')
  before : ∀ j < k, ∀ f', ClaimsAt source groups j f' → ¬ Fails (source.hash f')

theorem matching_fails_iff : Fails (g.matching source k) ↔ Fails (source.list k) := by
  constructor
  · intro h
    by_contra hlist
    obtain ⟨listed, hlisted⟩ := not_fails_iff.mp hlist
    exact not_fails_iff.mpr (exists_matching_eq_ok hlisted) h
  · rintro ⟨e, he⟩
    exact ⟨_, matching_error he⟩

theorem mapM_matching_eq_error {e : GenerateError} :
    (groups.zipIdx.mapM fun p => p.1.matching source p.2) = .error e ↔
      ∃ k g fault, FirstUnlisted source groups k g fault ∧ e = .list g.name fault := by
  rw [mapM_eq_error]
  constructor
  · rintro ⟨k, ⟨g, i⟩, ⟨hk, hfails, hbefore⟩, he⟩
    rw [List.getElem?_zipIdx, Option.map_eq_some_iff] at hk
    obtain ⟨g, hg, heq⟩ := hk
    cases heq
    rw [Nat.zero_add] at hfails he
    obtain ⟨fault, hfault⟩ := matching_fails_iff.mp hfails
    refine ⟨k, g, fault, ⟨hg, hfault, fun j hj => ?_⟩, ?_⟩
    · obtain ⟨hk, -⟩ := List.getElem?_eq_some_iff.mp hg
      have hj' : groups.zipIdx[j]? = some (groups.get ⟨j, hj.trans hk⟩, j) := by
        rw [List.getElem?_zipIdx, List.getElem?_eq_getElem (hj.trans hk), Nat.zero_add]
        rfl
      exact fun hlist => hbefore j hj _ hj' (matching_fails_iff.mpr hlist)
    · exact Except.error.inj (he.symm.trans (matching_error hfault))
  · rintro ⟨k, g, fault, ⟨hg, hfault, hbefore⟩, rfl⟩
    refine ⟨k, (g, k), ⟨?_, matching_fails_iff.mpr ⟨_, hfault⟩, ?_⟩, matching_error hfault⟩
    · rw [List.getElem?_zipIdx, hg, Nat.zero_add]
      rfl
    · rintro j hj ⟨g', j'⟩ hp
      rw [List.getElem?_zipIdx, Option.map_eq_some_iff] at hp
      obtain ⟨g'', -, heq⟩ := hp
      cases heq
      rw [Nat.zero_add]
      exact fun hfails => hbefore j hj (matching_fails_iff.mp hfails)

namespace Matched

variable {ms : List Matching}

theorem listed (h : Matched source groups ms) (hk : k < groups.length) :
    ¬ Fails (source.list k) := by
  obtain ⟨m, -, hmatch⟩ := h.exists_matching (List.getElem?_eq_getElem hk)
  obtain ⟨-, -, -, hlist⟩ := matching_eq_ok.mp hmatch
  exact not_fails_iff.mpr ⟨_, hlist⟩

theorem hashed (h : Matched source groups ms)
    (hall : ∀ f ∈ (Matching.shares [] ms).flatten, ¬ Fails (source.hash f))
    (hclaims : ClaimsAt source groups k f) : ¬ Fails (source.hash f) := by
  obtain ⟨share, hshare, hf⟩ := h.exists_share hclaims
  exact hall f (List.mem_flatten_of_mem (List.mem_of_getElem? hshare) hf)

theorem firstUnhashed (h : Matched source groups ms) {m : Matching} {e : FileError}
    (hm : ms[k]? = some m) (hfirst : Matching.FirstFault source (Matching.shares [] ms) k f e) :
    FirstUnhashed source groups k m.group f e := by
  obtain ⟨⟨share, hshare, hf, hleast⟩, hfault, hbefore⟩ := hfirst
  obtain ⟨g, hg, hmatch⟩ := h.exists_group hm
  refine ⟨?_, (h.mem_share_iff_claimsAt hshare).mp hf, hfault, fun f' hf' hlt => ?_,
    fun j hj f' hf' => ?_⟩
  · rw [hg, (matching_eq_ok.mp hmatch).1]
  · exact hleast f' ((h.mem_share_iff_claimsAt hshare).mpr hf') (Text.bytes_lt_bytes.mp hlt)
  · obtain ⟨share', hshare', hmem⟩ := h.exists_share hf'
    exact hbefore j hj share' hshare' f' hmem

end Matched

end AssetGroup

/-! ### Data groups -/

namespace DataGroup

variable {base : String} {g : DataGroup} {groups : List DataGroup}

/-- A time of a data group is no duration. A timeout that is empty counts as absent. -/
def HasFault (g : DataGroup) (fault : Duration.Malformed) : TimeField → Prop
  | .maxAge => Duration.parse g.cache.maxAge = .error fault
  | .timeout => ∃ text, g.cache.timeout = some text ∧ text ≠ "" ∧
      Duration.parse text = .error fault

/-- The fault of a data group that is reported: one of the timeout only if there is no other. -/
def Reports (g : DataGroup) (field : TimeField) (fault : Duration.Malformed) : Prop :=
  g.HasFault fault field ∧ (field = .timeout → ∀ other, ¬ g.HasFault other .maxAge)

theorem timeoutMilliseconds_eq_error {e : GenerateError} : g.timeoutMilliseconds = .error e ↔
    ∃ fault, g.HasFault fault .timeout ∧ e = .duration g.name .timeout fault := by
  unfold timeoutMilliseconds HasFault milliseconds
  cases htimeout : g.cache.timeout with
  | none => simp
  | some text =>
    by_cases hempty : text = ""
    · simp [hempty]
    · cases hparse : Duration.parse text <;>
        simp [hempty, hparse, Except.mapError, Except.map, eq_comm]

theorem resolve_eq_error {e : GenerateError} : g.resolve base = .error e ↔
    ∃ field fault, g.Reports field fault ∧ e = .duration g.name field fault := by
  unfold resolve
  cases hage : Duration.parse g.cache.maxAge with
  | error fault =>
    have hmilliseconds : g.milliseconds .maxAge g.cache.maxAge =
        .error (.duration g.name .maxAge fault) := by
      rw [milliseconds, hage]
      rfl
    rw [hmilliseconds]
    constructor
    · intro h
      cases h
      exact ⟨.maxAge, fault, ⟨hage, fun h => by cases h⟩, rfl⟩
    · rintro ⟨field, other, ⟨hfault, honly⟩, rfl⟩
      cases field with
      | maxAge =>
        cases hage.symm.trans hfault
        rfl
      | timeout => exact absurd hage (honly rfl fault)
  | ok age =>
    have hmilliseconds : g.milliseconds .maxAge g.cache.maxAge = .ok age := by
      rw [milliseconds, hage]
      rfl
    have hnone : ∀ fault, ¬ g.HasFault fault .maxAge := fun fault h => by
      cases hage.symm.trans h
    have htimeout : g.resolve base = .error e ↔ g.timeoutMilliseconds = .error e := by
      unfold resolve
      rw [hmilliseconds]
      cases g.timeoutMilliseconds <;> simp [Bind.bind, Except.bind, Pure.pure, Except.pure]
    rw [← resolve, htimeout, timeoutMilliseconds_eq_error]
    constructor
    · rintro ⟨fault, hfault, rfl⟩
      exact ⟨.timeout, fault, ⟨hfault, fun _ => hnone⟩, rfl⟩
    · rintro ⟨field, fault, ⟨hfault, -⟩, rfl⟩
      cases field with
      | maxAge => exact absurd hfault (hnone fault)
      | timeout => exact ⟨fault, hfault, rfl⟩

theorem fails_resolve_iff (base : String) :
    Fails (g.resolve base) ↔ ∃ field fault, g.HasFault fault field := by
  constructor
  · rintro ⟨e, he⟩
    obtain ⟨field, fault, hreports, -⟩ := resolve_eq_error.mp he
    exact ⟨field, fault, hreports.1⟩
  · rintro ⟨field, fault, hfault⟩
    by_cases hage : ∃ other, g.HasFault other .maxAge
    · obtain ⟨other, hother⟩ := hage
      exact ⟨_, resolve_eq_error.mpr ⟨.maxAge, other, ⟨hother, fun h => by cases h⟩, rfl⟩⟩
    · exact ⟨_, resolve_eq_error.mpr ⟨field, fault, ⟨hfault, fun _ other h => hage ⟨other, h⟩⟩,
        rfl⟩⟩

end DataGroup

/-! ### Manifests -/

namespace Manifest

open AssetGroup DataGroup

variable {base : String} {source : Source} {c : Config}

theorem generate_of_firstUnlisted {k : ℕ} {g : AssetGroup} {e : FileError}
    (h : FirstUnlisted source c.assetGroups k g e) :
    generate base source c = { result := .error (.list g.name e) } := by
  have hmapM := mapM_matching_eq_error.mpr ⟨k, g, e, h, rfl⟩
  unfold generate
  rw [resolveAll_of_error hmapM, Run.bind_error rfl]

/-- Whether the data groups can be resolved decides on the rest of a run. -/
theorem generate_of_resolveAll {v : List ResolvedAssetGroup × Claims}
    (h : (AssetGroup.resolveAll base source c.assetGroups).result = .ok v) :
    (generate base source c).diagnostics =
        (AssetGroup.resolveAll base source c.assetGroups).diagnostics ∧
      ((∀ e, (generate base source c).result = .error e ↔
        c.dataGroups.mapM (DataGroup.resolve base) = .error e)) := by
  obtain ⟨hresult, hnone⟩ := DataGroup.resolveAll_eq base c.dataGroups
  unfold generate
  rw [Run.bind_ok h]
  dsimp only
  rw [← hresult]
  cases hdata : (DataGroup.resolveAll base c.dataGroups).result with
  | error e =>
    rw [Run.bind_error hdata]
    exact ⟨by rw [hnone, List.append_nil], fun _ => by simp only [Except.error.injEq]⟩
  | ok groups =>
    rw [Run.bind_ok hdata, Run.bind_ok rfl]
    refine ⟨by simp [hnone, Run.log, Run.pure_eq], fun e => ?_⟩
    constructor <;> exact fun h => by cases h

/-- **The phases of a run**, and the first fault in it. -/
theorem generate_cases (base : String) (source : Source) (c : Config) :
    (∃ k g e, FirstUnlisted source c.assetGroups k g e ∧
      generate base source c = { result := .error (.list g.name e) }) ∨
    (∀ k < c.assetGroups.length, ¬ Fails (source.list k)) ∧
      ((∃ k g f e, FirstUnhashed source c.assetGroups k g f e ∧
        (generate base source c).result = .error (.hash g.name f e) ∧
        (generate base source c).diagnostics = noticesFor (c.assetGroups.take (k + 1))) ∨
      (∀ k f, ClaimsAt source c.assetGroups k f → ¬ Fails (source.hash f)) ∧
        (generate base source c).diagnostics = noticesFor c.assetGroups ∧
        ∀ e, (generate base source c).result = .error e ↔
          c.dataGroups.mapM (DataGroup.resolve base) = .error e) := by
  cases hmapM : (c.assetGroups.zipIdx.mapM fun p => p.1.matching source p.2) with
  | error e =>
    obtain ⟨k, g, fault, hfirst, -⟩ := mapM_matching_eq_error.mp hmapM
    exact Or.inl ⟨k, g, fault, hfirst, generate_of_firstUnlisted hfirst⟩
  | ok ms =>
    have hmatched : Matched source c.assetGroups ms := mapM_eq_ok.mp hmapM
    refine Or.inr ⟨fun k hk => hmatched.listed hk, ?_⟩
    rcases Matching.resolveAll_cases base source ms {} with
      ⟨hall, ⟨v, hv⟩, hnotices⟩ | ⟨k, m, f, e, hm, hfirst, hresult, hnotices⟩
    · rw [← hmatched.resolveAll_eq] at hv hnotices
      obtain ⟨hdiagnostics, herror⟩ := generate_of_resolveAll hv
      rw [hmatched.map_group] at hnotices
      exact Or.inr ⟨fun k f => hmatched.hashed hall, hdiagnostics.trans hnotices, herror⟩
    · rw [← hmatched.resolveAll_eq] at hresult hnotices
      rw [hmatched.map_group] at hnotices
      refine Or.inl ⟨k, m.group, f, e, hmatched.firstUnhashed hm hfirst, ?_, ?_⟩
      · rw [generate, Run.bind_error hresult]
      · rw [generate, Run.bind_error hresult, hnotices]

theorem exists_reports_of_mapM_eq_error {e : GenerateError}
    (h : c.dataGroups.mapM (DataGroup.resolve base) = .error e) :
    ∃ k g field fault, FirstAt (fun g => ∃ field fault, g.HasFault fault field) c.dataGroups k g ∧
      g.Reports field fault ∧ e = .duration g.name field fault := by
  obtain ⟨k, g, hfirst, he⟩ := mapM_eq_error.mp h
  simp only [fails_resolve_iff] at hfirst
  obtain ⟨field, fault, hreports, rfl⟩ := resolve_eq_error.mp he
  exact ⟨k, g, field, fault, hfirst, hreports, rfl⟩

theorem fails_mapM_resolve (base : String)
    (h : ∃ g ∈ c.dataGroups, ∃ field fault, g.HasFault fault field) :
    Fails (c.dataGroups.mapM (DataGroup.resolve base)) := by
  obtain ⟨g, hg, hfault⟩ := h
  exact fails_mapM_iff.mpr ⟨g, hg, (fails_resolve_iff base).mpr hfault⟩

/-- **Which fault ends a run, and what a sink has got by then.** -/
theorem generate_precedence (base : String) (source : Source) (c : Config) (sink : Sink) :
    ((∃ k < c.assetGroups.length, Fails (source.list k)) →
      ∃ k g e, FirstUnlisted source c.assetGroups k g e ∧
        (generate base source c).result = .error (.list g.name e) ∧
        sink.emitAll (generate base source c).diagnostics = sink ∧
        ∀ hash, generate base { source with hash } c = generate base source c) ∧
    ((∀ k < c.assetGroups.length, ¬ Fails (source.list k)) →
      ((∃ k f, ClaimsAt source c.assetGroups k f ∧ Fails (source.hash f)) →
        ∃ k g f e, FirstUnhashed source c.assetGroups k g f e ∧
          (generate base source c).result = .error (.hash g.name f e) ∧
          sink.emitAll (generate base source c).diagnostics =
            sink.emitAll (noticesFor (c.assetGroups.take (k + 1)))) ∧
      ((∀ k f, ClaimsAt source c.assetGroups k f → ¬ Fails (source.hash f)) →
        sink.emitAll (generate base source c).diagnostics =
          sink.emitAll (noticesFor c.assetGroups) ∧
        ((∃ g ∈ c.dataGroups, ∃ field fault, g.HasFault fault field) →
          ∃ k g field fault,
            FirstAt (fun g => ∃ field fault, g.HasFault fault field) c.dataGroups k g ∧
            g.Reports field fault ∧
            (generate base source c).result = .error (.duration g.name field fault)) ∧
        ((∀ g ∈ c.dataGroups, ∀ field fault, ¬ g.HasFault fault field) →
          ∃ m, (generate base source c).result = .ok m))) ∧
    ∀ fault, (generate base source c).result ≠ .error (.invalidPattern fault) := by
  rcases generate_cases base source c with ⟨k, g, e, hfirst, hrun⟩ | ⟨hlisted, hrest⟩
  · have hk : k < c.assetGroups.length := (List.getElem?_eq_some_iff.mp hfirst.group).1
    refine ⟨fun _ => ⟨k, g, e, hfirst, by rw [hrun], by rw [hrun]; rfl, fun hash => ?_⟩,
      fun hlisted => absurd ⟨e, hfirst.fault⟩ (hlisted k hk), fun fault => by rw [hrun]; simp⟩
    -- which listing fails first does not depend on digests
    have hfirst' : FirstUnlisted { source with hash } c.assetGroups k g e :=
      ⟨hfirst.group, hfirst.fault, hfirst.before⟩
    rw [hrun, generate_of_firstUnlisted hfirst']
  refine ⟨fun ⟨k, hk, hfails⟩ => absurd hfails (hlisted k hk), fun _ => ?_, ?_⟩
  · rcases hrest with ⟨k, g, f, e, hfirst, hresult, hnotices⟩ | ⟨hhashed, hnotices, herror⟩
    · exact ⟨fun _ => ⟨k, g, f, e, hfirst, hresult, by rw [hnotices]⟩,
        fun hhashed => absurd ⟨e, hfirst.fault⟩ (hhashed k f hfirst.claimed)⟩
    · refine ⟨fun ⟨k, f, hclaims, hfails⟩ => absurd hfails (hhashed k f hclaims), fun _ =>
        ⟨by rw [hnotices], fun hfault => ?_, fun hnone => ?_⟩⟩
      · obtain ⟨e, he⟩ := fails_mapM_resolve base hfault
        obtain ⟨k, g, field, fault, hfirst, hreports, rfl⟩ := exists_reports_of_mapM_eq_error he
        exact ⟨k, g, field, fault, hfirst, hreports, (herror _).mpr he⟩
      · refine not_fails_iff.mp fun ⟨e, he⟩ => ?_
        obtain ⟨k, g, -, -, hfirst, -⟩ := exists_reports_of_mapM_eq_error ((herror e).mp he)
        obtain ⟨field, fault, hfault⟩ := hfirst.holds
        exact hnone g (List.mem_of_getElem? hfirst.getElem) field fault hfault
  · intro fault hinvalid
    rcases hrest with ⟨k, g, f, e, -, hresult, -⟩ | ⟨-, -, herror⟩
    · cases hresult.symm.trans hinvalid
    · obtain ⟨_, _, _, _, -, -, heq⟩ :=
        exists_reports_of_mapM_eq_error ((herror _).mp hinvalid)
      cases heq

/-! ### Faults in every phase -/

/-- A group that uses the former name of an option, and a timeout that is no duration. -/
def latent : Config where
  index := "/index.html"
  assetGroups :=
    [{ name := "code", resources := { files := ["/*.js"], versionedFiles := ["/lib/**"] } }]
  dataGroups :=
    [{ name := "api", urls := ["/api/**"],
       cache := { maxSize := 10, maxAge := "1h", timeout := some "3 days" } }]

/-- A directory that cannot be listed. -/
def unlisted : Source where
  list _ := .error (.walk "/" "loop")
  hash f := .error (.notFound f)

/-- Files that are gone when they are hashed. -/
def gone : Source where
  list _ := .ok ["/b.js", "/a.js"]
  hash f := .error (.notFound f)

/-- An empty directory. -/
def noFiles : Source where
  list _ := .ok []
  hash f := .error (.notFound f)

theorem claimsAt_gone : ClaimsAt gone latent.assetGroups 0 "/a.js" :=
  ⟨⟨_, _, rfl, rfl, by decide, by decide +kernel⟩, fun j hj => absurd hj j.not_lt_zero⟩

theorem not_claimsAt_noFiles {groups : List AssetGroup} {k : ℕ} {f : String} :
    ¬ ClaimsAt noFiles groups k f := by
  rintro ⟨⟨g, listed, -, hlist, hf, -⟩, -⟩
  cases hlist
  cases hf

theorem exists_hasFault_latent : ∃ g ∈ latent.dataGroups, ∃ field fault, g.HasFault fault field :=
  ⟨_, List.mem_cons_self, .timeout, ⟨"3 days", "3 days"⟩, "3 days", rfl, by decide,
    by decide +kernel⟩

/-- What an empty sink has got when all notices were emitted. -/
def noticed : Sink where
  pending := [.versionedFiles "code"]
  warningCounter := 1

theorem generate_precedence_latent :
    (∃ g e, (generate "/" unlisted latent).result = .error (.list g e) ∧
      Sink.empty.emitAll (generate "/" unlisted latent).diagnostics = .empty) ∧
    (∃ g f e, (generate "/" gone latent).result = .error (.hash g f e) ∧
      Sink.empty.emitAll (generate "/" gone latent).diagnostics = noticed) ∧
    (∃ g field fault, (generate "/" noFiles latent).result = .error (.duration g field fault) ∧
      Sink.empty.emitAll (generate "/" noFiles latent).diagnostics = noticed) ∧
    ∃ m, (generate "/" noFiles { latent with dataGroups := [] }).result = .ok m ∧
      Sink.empty.emitAll (generate "/" noFiles { latent with dataGroups := [] }).diagnostics =
        noticed := by
  have hlisted : ∀ files hash k, ¬ Fails (Source.list ⟨fun _ => .ok files, hash⟩ k) :=
    fun files hash k => not_fails_iff.mpr ⟨files, rfl⟩
  have hnotices : Sink.empty.emitAll (noticesFor latent.assetGroups) = noticed := by decide
  have hnone : ∀ k f, ClaimsAt noFiles latent.assetGroups k f → ¬ Fails (noFiles.hash f) :=
    fun _ _ h => absurd h not_claimsAt_noFiles
  refine ⟨?_, ?_, ?_, ?_⟩
  · obtain ⟨_, g, e, -, h, hsink, -⟩ := (generate_precedence "/" unlisted latent .empty).1
      ⟨0, by decide, _, rfl⟩
    exact ⟨_, _, h, hsink⟩
  · obtain ⟨k, g, f, e, -, h, hsink⟩ := ((generate_precedence "/" gone latent .empty).2.1
      fun k _ => hlisted _ _ k).1 ⟨0, _, claimsAt_gone, _, rfl⟩
    have hall : latent.assetGroups.take (k + 1) = latent.assetGroups :=
      List.take_of_length_le (Nat.le_add_left 1 k)
    rw [hall] at hsink
    exact ⟨_, _, _, h, hsink.trans hnotices⟩
  · obtain ⟨hsink, hfault, -⟩ := ((generate_precedence "/" noFiles latent .empty).2.1
      fun k _ => hlisted _ _ k).2 hnone
    obtain ⟨_, g, field, fault, -, -, h⟩ := hfault exists_hasFault_latent
    exact ⟨_, _, _, h, hsink.trans hnotices⟩
  · obtain ⟨hsink, -, hresult⟩ :=
      ((generate_precedence "/" noFiles { latent with dataGroups := [] } .empty).2.1
        fun k _ => hlisted _ _ k).2 hnone
    obtain ⟨m, hm⟩ := hresult fun _ h => absurd h List.not_mem_nil
    exact ⟨m, hm, hsink.trans hnotices⟩

end Manifest

end OfflineManifest
