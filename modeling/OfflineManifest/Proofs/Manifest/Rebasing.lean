import OfflineManifest.Proofs.Manifest.NonInterference

/-! # Moving a manifest below another base

A manifest can be made for a base at once, or for its last part and then be moved below the first
one. Joining is associative, so every URL that is made for the last part becomes the one that is
made for the whole base if the first part is joined in front. On URLs of files this keeps the order
and merges nothing, so tables are moved entry by entry (`KeyMap.Moved`), and the two runs go side by
side to the end (`Manifest.generate_moved`). Patterns are not moved but compiled anew; relative ones
from the glob that is joined with both parts. -/

namespace OfflineManifest

/-! ### Runs side by side -/

namespace Run

variable {ε α α' β β' : Type} {R : α → α' → Prop} {S : β → β' → Prop}

/-- **Two runs go side by side**: they say the same, and end with the same error or with values in a
relation. -/
structure Alike (R : α → α' → Prop) (x : Run ε α) (y : Run ε α') : Prop where
  result : Corresponds R x.result y.result
  diagnostics : x.diagnostics = y.diagnostics
  events : x.events = y.events

namespace Alike

theorem pure {a : α} {a' : α'} (h : R a a') :
    Alike R (Pure.pure a : Run ε α) (Pure.pure a') :=
  ⟨Or.inr ⟨a, a', rfl, rfl, h⟩, rfl, rfl⟩

theorem ofExcept {x : Except ε α} {y : Except ε α'} (h : Corresponds R x y) :
    Alike R (Run.ofExcept x) (Run.ofExcept y) :=
  ⟨h, rfl, rfl⟩

theorem bind {x : Run ε α} {y : Run ε α'} {f : α → Run ε β} {g : α' → Run ε β'}
    (h : Alike R x y) (hrest : ∀ a a', R a a' → Alike S (f a) (g a')) :
    Alike S (x >>= f) (y >>= g) := by
  obtain ⟨e, hx, hy⟩ | ⟨a, a', hx, hy, ha⟩ := h.result
  · rw [bind_error hx, bind_error hy]
    exact ⟨Or.inl ⟨e, rfl, rfl⟩, h.diagnostics, h.events⟩
  · obtain ⟨hresult, hdiagnostics, hevents⟩ := hrest a a' ha
    rw [bind_ok hx, bind_ok hy, h.diagnostics, h.events, hdiagnostics, hevents]
    exact ⟨hresult, rfl, rfl⟩

theorem mapM {γ : Type} {f : γ → Run ε α} {g : γ → Run ε α'} :
    ∀ {l : List γ}, (∀ c ∈ l, Alike R (f c) (g c)) → Alike (List.Forall₂ R) (l.mapM f) (l.mapM g)
  | [], _ => .pure .nil
  | c :: l, h => by
    rw [List.forall_mem_cons] at h
    rw [List.mapM_cons, List.mapM_cons]
    exact h.1.bind fun a a' ha => (mapM h.2).bind fun as as' has => .pure (.cons ha has)

end Alike

end Run

/-! ### Tables -/

namespace KeyMap

variable {α : Type} {base outer key : String} {value : α} {m m' : KeyMap α}

/-- **A table of URLs of files is moved below another base.** -/
structure Moved (outer base : String) (m m' : KeyMap α) : Prop where
  keys : ∀ k ∈ m.entries.map Prod.fst, ∃ f, Url.Rooted f ∧ k = Url.join base f
  entries : m'.entries = m.entries.map fun e => (Url.join outer e.1, e.2)

theorem insertEntry_map {φ : String → String} {entries : List (String × α)}
    (hlt : ∀ k ∈ entries.map Prod.fst, φ key < φ k ↔ key < k)
    (heq : ∀ k ∈ entries.map Prod.fst, φ key = φ k ↔ key = k) :
    insertEntry (φ key) value (entries.map fun e => (φ e.1, e.2)) =
      (insertEntry key value entries).map fun e => (φ e.1, e.2) := by
  induction entries with
  | nil => rfl
  | cons e entries ih =>
    rw [List.map_cons, List.forall_mem_cons] at hlt heq
    rw [List.map_cons, insertEntry, insertEntry]
    simp only [hlt.1, heq.1, ih hlt.2 heq.2]
    split_ifs <;> rfl

theorem Moved.empty : Moved outer base (.empty : KeyMap α) .empty :=
  ⟨fun _ h => absurd h List.not_mem_nil, rfl⟩

theorem Moved.insert (h : Moved outer base m m') {f : String} (hf : Url.Rooted f) (value : α) :
    Moved outer base (m.insert (Url.join base f) value)
      (m'.insert (Url.join (Url.join outer base) f) value) := by
  refine ⟨fun k hk => ?_, ?_⟩
  · rcases mem_keys_insertEntry hk with rfl | hk
    · exact ⟨f, hf, rfl⟩
    · exact h.keys k hk
  · have hlt : ∀ k ∈ m.entries.map Prod.fst,
        Url.join outer (Url.join base f) < Url.join outer k ↔ Url.join base f < k := by
      intro k hk
      obtain ⟨g, hg, rfl⟩ := h.keys k hk
      rw [← Url.join_assoc, ← Url.join_assoc, Url.join_lt_join_iff hf hg,
        Url.join_lt_join_iff hf hg]
    have heq : ∀ k ∈ m.entries.map Prod.fst,
        Url.join outer (Url.join base f) = Url.join outer k ↔ Url.join base f = k := by
      intro k hk
      obtain ⟨g, hg, rfl⟩ := h.keys k hk
      rw [← Url.join_assoc, ← Url.join_assoc, Url.join_inj hf hg, Url.join_inj hf hg]
    calc insertEntry (Url.join (Url.join outer base) f) value m'.entries
        = insertEntry (Url.join outer (Url.join base f)) value
            (m.entries.map fun e => (Url.join outer e.1, e.2)) := by
          rw [h.entries, Url.join_assoc]
      _ = (insertEntry (Url.join base f) value m.entries).map
            fun e => (Url.join outer e.1, e.2) := insertEntry_map hlt heq

end KeyMap

/-! ### Groups -/

variable {outer base : String} {source : Source}

theorem hashAll_moved {group : String} : ∀ {files : List String} {table table' : KeyMap String},
    (∀ f ∈ files, Url.Rooted f) → table.Moved outer base table' →
      Corresponds (KeyMap.Moved outer base) (hashAll base source group table files)
        (hashAll (Url.join outer base) source group table' files)
  | [], table, table', _, htable => Or.inr ⟨table, table', rfl, rfl, htable⟩
  | f :: files, table, table', hfiles, htable => by
    rw [List.forall_mem_cons] at hfiles
    unfold hashAll
    cases source.hash f with
    | error e => exact Or.inl ⟨_, rfl, rfl⟩
    | ok digest => exact hashAll_moved hfiles.2 (htable.insert hfiles.1 digest)

/-- A group is moved below another base: its URLs are. Patterns are left open. -/
def ResolvedAssetGroup.Moved (outer : String) (g g' : ResolvedAssetGroup) : Prop :=
  g' = { g with urls := g.urls.map (Url.join outer), patterns := g'.patterns }

/-- The groups are the same but for their patterns. -/
def ResolvedDataGroup.Moved (g g' : ResolvedDataGroup) : Prop :=
  g' = { g with patterns := g'.patterns }

/-- What groups have claimed is the same, and the digests are moved. -/
structure Claims.Moved (outer base : String) (claims claims' : Claims) : Prop where
  files : claims'.files = claims.files
  hashTable : claims.hashTable.Moved outer base claims'.hashTable

namespace Matching

variable {m : Matching} {ms : List Matching} {claims claims' : Claims}

theorem resolved_moved (files : List String) :
    (m.resolved base files).Moved outer (m.resolved (Url.join outer base) files) := by
  simp [ResolvedAssetGroup.Moved, resolved, Url.join_assoc]

theorem resolve_moved (hlisted : ∀ f ∈ m.listed, Url.Rooted f)
    (hclaims : claims.Moved outer base claims') :
    Run.Alike (fun p p' => p.1.Moved outer p'.1 ∧ p.2.Moved outer base p'.2)
      (m.resolve base source claims) (m.resolve (Url.join outer base) source claims') := by
  obtain ⟨_, table⟩ := claims
  obtain ⟨before, table'⟩ := claims'
  obtain ⟨rfl, htable⟩ := hclaims
  have hrooted : ∀ f ∈ m.claimed before, Url.Rooted f := fun f hf =>
    hlisted f (mem_claimed.mp hf).1.1
  have hhashed : Corresponds (KeyMap.Moved outer base)
      (hashAll base source m.group.name table (m.claimed before))
      (hashAll (Url.join outer base) source m.group.name table' (m.claimed before)) :=
    hashAll_moved hrooted htable
  obtain ⟨e, hrun, hrun'⟩ | ⟨last, last', hrun, hrun', hlast⟩ := hhashed
  · rw [resolve_error hrun, resolve_error hrun']
    exact ⟨Or.inl ⟨e, rfl, rfl⟩, rfl, rfl⟩
  · rw [resolve_ok hrun, resolve_ok hrun']
    exact ⟨Or.inr ⟨_, _, rfl, rfl, resolved_moved _, rfl, hlast⟩, rfl, rfl⟩

/-- **Groups in a row are moved.** -/
theorem resolveAll_moved (hlisted : ∀ m ∈ ms, ∀ f ∈ m.listed, Url.Rooted f)
    (hclaims : claims.Moved outer base claims') :
    Run.Alike
      (fun p p' => List.Forall₂ (ResolvedAssetGroup.Moved outer) p.1 p'.1 ∧
        p.2.Moved outer base p'.2)
      (resolveAll base source claims ms)
      (resolveAll (Url.join outer base) source claims' ms) := by
  induction ms generalizing claims claims' with
  | nil => exact .pure ⟨.nil, hclaims⟩
  | cons m ms ih =>
    rw [List.forall_mem_cons] at hlisted
    refine (resolve_moved hlisted.1 hclaims).bind fun p p' hp => ?_
    exact (ih hlisted.2 hp.2).bind fun q q' hq => .pure ⟨.cons hp.1 hq.1, hq.2⟩

end Matching

namespace AssetGroup

theorem resolveAll_moved {groups : List AssetGroup}
    (rooted : ∀ k listed, source.list k = .ok listed → ∀ f ∈ listed, Url.Rooted f) :
    Run.Alike
      (fun p p' => List.Forall₂ (ResolvedAssetGroup.Moved outer) p.1 p'.1 ∧
        p.2.Moved outer base p'.2)
      (resolveAll base source groups) (resolveAll (Url.join outer base) source groups) := by
  cases hms : groups.zipIdx.mapM fun p => p.1.matching source p.2 with
  | error e =>
    rw [resolveAll_of_error hms, resolveAll_of_error hms]
    exact ⟨Or.inl ⟨e, rfl, rfl⟩, rfl, rfl⟩
  | ok ms =>
    have hmatched : Matched source groups ms := mapM_eq_ok.mp hms
    have hlisted : ∀ m ∈ ms, ∀ f ∈ m.listed, Url.Rooted f := fun m hm f hf => by
      obtain ⟨k, hk⟩ := List.getElem?_of_mem hm
      obtain ⟨g, -, hmatch⟩ := hmatched.exists_group hk
      obtain ⟨-, -, -, hlist⟩ := matching_eq_ok.mp hmatch
      exact rooted k m.listed hlist f hf
    rw [hmatched.resolveAll_eq, hmatched.resolveAll_eq]
    exact Matching.resolveAll_moved hlisted ⟨rfl, .empty⟩

end AssetGroup

namespace DataGroup

theorem resolve_moved (base base' : String) (g : DataGroup) :
    Corresponds ResolvedDataGroup.Moved (g.resolve base) (g.resolve base') := by
  unfold resolve
  cases g.milliseconds .maxAge g.cache.maxAge with
  | error e => exact Or.inl ⟨e, rfl, rfl⟩
  | ok maxAge =>
    cases g.timeoutMilliseconds with
    | error e => exact Or.inl ⟨e, rfl, rfl⟩
    | ok timeout => exact Or.inr ⟨_, _, rfl, rfl, rfl⟩

theorem resolveAll_moved (base base' : String) (groups : List DataGroup) :
    Run.Alike (List.Forall₂ ResolvedDataGroup.Moved) (resolveAll base groups)
      (resolveAll base' groups) := by
  refine .mapM fun g _ => ?_
  refine (Run.Alike.ofExcept (resolve_moved base base' g)).bind fun r r' hr => ?_
  rw [ResolvedDataGroup.Moved] at hr
  rw [hr]
  exact ⟨Or.inr ⟨_, _, rfl, rfl, rfl⟩, rfl, rfl⟩

end DataGroup

/-! ### Manifests -/

namespace Manifest

variable {c : Config} {m m' : Manifest}

/-- **A manifest is moved below another base**: its URLs are. Patterns are left open. -/
structure Moved (outer : String) (m m' : Manifest) : Prop where
  configVersion : m'.configVersion = m.configVersion
  appData : m'.appData = m.appData
  push : m'.push = m.push
  index : m'.index = Url.join outer m.index
  assetGroups : List.Forall₂ (ResolvedAssetGroup.Moved outer) m.assetGroups m'.assetGroups
  dataGroups : List.Forall₂ ResolvedDataGroup.Moved m.dataGroups m'.dataGroups
  hashTable : m'.hashTable.entries = m.hashTable.entries.map fun e => (Url.join outer e.1, e.2)

theorem generate_moved
    (rooted : ∀ k listed, source.list k = .ok listed → ∀ f ∈ listed, Url.Rooted f) (c : Config) :
    Run.Alike (Moved outer) (generate base source c)
      (generate (Url.join outer base) source c) := by
  refine (AssetGroup.resolveAll_moved rooted).bind fun p p' ⟨hgroups, hclaims⟩ => ?_
  refine (DataGroup.resolveAll_moved _ _ _).bind fun dataGroups dataGroups' hdata => ?_
  have hsize : p'.2.hashTable.size = p.2.hashTable.size := by
    rw [KeyMap.size, hclaims.hashTable.entries, List.length_map]
    rfl
  rw [hsize, ← hgroups.length_eq, ← hdata.length_eq]
  refine .bind (R := Eq) ⟨Or.inr ⟨(), (), rfl, rfl, rfl⟩, rfl, rfl⟩ fun _ _ _ => .pure ?_
  exact ⟨rfl, rfl, rfl, Url.join_assoc outer base c.index, hgroups, hdata,
    hclaims.hashTable.entries⟩

theorem map_congr_of_forall₂ {α β γ : Type} {R : α → β → Prop} {f : α → γ} {g : β → γ}
    {as : List α} {bs : List β} (h : List.Forall₂ R as bs) (hR : ∀ a b, R a b → g b = f a) :
    bs.map g = as.map f := by
  induction h with
  | nil => rfl
  | cons hab _ ih => rw [List.map_cons, List.map_cons, hR _ _ hab, ih]

/-- A table that is moved merges no two keys. -/
theorem Moved.injective (h : Moved outer m m') {k k' : String}
    (hk : k ∈ m.hashTable.entries.map Prod.fst) (hk' : k' ∈ m.hashTable.entries.map Prod.fst)
    (heq : Url.join outer k = Url.join outer k') : k = k' := by
  have hnodup : ((m.hashTable.entries.map Prod.fst).map (Url.join outer)).Nodup := by
    have hkeys : m'.hashTable.entries.map Prod.fst =
        (m.hashTable.entries.map Prod.fst).map (Url.join outer) := by
      rw [h.hashTable, List.map_map, List.map_map]
      rfl
    rw [← hkeys]
    exact m'.hashTable.sorted.imp fun hlt => Std.ne_of_lt hlt
  exact List.inj_on_of_nodup_map hnodup hk hk' heq

theorem Moved.map_name (h : Moved outer m m') :
    m'.assetGroups.map (·.name) = m.assetGroups.map (·.name) :=
  map_congr_of_forall₂ h.assetGroups fun _ _ hg => by rw [hg]

theorem Moved.map_urls (h : Moved outer m m') :
    m'.assetGroups.map (·.urls) = m.assetGroups.map (·.urls.map (Url.join outer)) :=
  map_congr_of_forall₂ h.assetGroups fun _ _ hg => by rw [hg]

/-- **A base in two parts.** Joining is associative, for any three texts. If listings have rooted
paths only, a manifest can be made for two parts of a base joined exactly if it can be made for the
last part, with the same error, notices and events; and then its URLs are those for the last part
below the first one. Relative patterns are compiled from the glob that is joined with both parts. -/
theorem generate_join (outer base : String) (source : Source) (c : Config)
    (rooted : ∀ k listed, source.list k = .ok listed → ∀ f ∈ listed, Url.Rooted f) :
    (∀ x y z : String, Url.join (Url.join x y) z = Url.join x (Url.join y z)) ∧
    ((∃ m', (generate (Url.join outer base) source c).result = .ok m') ↔
      ∃ m, (generate base source c).result = .ok m) ∧
    (∀ e, (generate (Url.join outer base) source c).result = .error e ↔
      (generate base source c).result = .error e) ∧
    (generate (Url.join outer base) source c).diagnostics = (generate base source c).diagnostics ∧
    (generate (Url.join outer base) source c).events = (generate base source c).events ∧
    (∀ m m', (generate base source c).result = .ok m →
      (generate (Url.join outer base) source c).result = .ok m' →
        m'.index = Url.join outer m.index ∧
        m'.assetGroups.map (·.name) = m.assetGroups.map (·.name) ∧
        m'.assetGroups.map (·.urls) = m.assetGroups.map (·.urls.map (Url.join outer)) ∧
        m'.hashTable.entries = m.hashTable.entries.map (fun e => (Url.join outer e.1, e.2)) ∧
        ∀ k ∈ m.hashTable.entries.map Prod.fst, ∀ k' ∈ m.hashTable.entries.map Prod.fst,
          Url.join outer k = Url.join outer k' → k = k') ∧
    ∀ q pattern, Url.isAbsolute pattern.toList = false →
      Url.fragment (Url.join outer base) pattern q =
        Glob.fragment q (Url.join outer (Url.join base pattern)) := by
  obtain ⟨hresult, hdiagnostics, hevents⟩ : Run.Alike (Moved outer) (generate base source c)
      (generate (Url.join outer base) source c) := generate_moved rooted c
  refine ⟨Url.join_assoc, ?_, ?_, hdiagnostics.symm, hevents.symm, fun m m' hm hm' => ?_,
    fun q pattern hrelative => ?_⟩
  · obtain ⟨e, h, h'⟩ | ⟨m, m', h, h', -⟩ := hresult
    · simp [h, h']
    · simp [h, h']
  · obtain ⟨e, h, h'⟩ | ⟨m, m', h, h', -⟩ := hresult
    · simp [h, h']
    · simp [h, h']
  · obtain ⟨e, h, -⟩ | ⟨n, n', h, h', hmoved⟩ := hresult
    · cases h.symm.trans hm
    · cases h.symm.trans hm
      cases h'.symm.trans hm'
      exact ⟨hmoved.index, hmoved.map_name, hmoved.map_urls, hmoved.hashTable,
        fun k hk k' hk' => hmoved.injective hk hk'⟩
  · rw [Url.fragment, Url.resolve_of_relative _ hrelative, Url.join_assoc]

/-- Two groups of files below a base with a slash at its end, and a base without one in front. -/
theorem generate_join_twoFiles :
    ∃ m m', (generate "app/" twoFiles twoGroups).result = .ok m ∧
      (generate (Url.join "/v1" "app/") twoFiles twoGroups).result = .ok m' ∧
      m'.hashTable.entries = m.hashTable.entries.map fun e => (Url.join "/v1" e.1, e.2) := by
  have hrooted : ∀ k listed, twoFiles.list k = .ok listed → ∀ f ∈ listed, Url.Rooted f := by
    intro k listed hlisted f hf
    exact (by decide : ∀ f ∈ ["/a.css", "/b.js"], Url.Rooted f) f
      ((lists_twoFiles k listed hlisted f).mp hf)
  obtain ⟨m, hm⟩ : ∃ m, (generate "app/" twoFiles twoGroups).result = .ok m :=
    exists_generate_ok (fun _ => ⟨_, rfl⟩) (fun _ _ _ _ _ _ => ⟨_, rfl⟩)
      (fun _ h => absurd h List.not_mem_nil)
  obtain ⟨-, hiff, -, -, -, hmoved, -⟩ := generate_join "/v1" "app/" twoFiles twoGroups hrooted
  obtain ⟨m', hm'⟩ := hiff.mpr ⟨m, hm⟩
  exact ⟨m, m', hm, hm', (hmoved m m' hm hm').2.2.2.1⟩

end Manifest

end OfflineManifest
