import OfflineManifest.Proofs.Files.Memory
import OfflineManifest.Proofs.Files.Site
import OfflineManifest.Proofs.Manifest.Resolution

/-! # Digests after publication

A manifest vouches for a file if it gives the digest that a store reports for it. A manifest vouches
for all claimed files of the store from which it is made (`vouches_of_generate`). When it is written
into that store, it takes the place of whatever was at its path, so it keeps vouching for all
claimed files but, in general, the one at that path. That one can be claimed: a manifest of an
earlier run is a file like any other. -/

namespace OfflineManifest

namespace Manifest

/-- A manifest gives the digest that a store reports for a file. -/
def Vouches {σ : Type} [FileStore σ] (m : Manifest) (base : String) (s : σ) (f : String) : Prop :=
  ∃ digest, FileStore.hash s f = .ok digest ∧ m.hashTable.get? (Url.join base f) = some digest

/-- **A manifest is made from a store** and written into it, which gives another store. -/
structure Published {σ : Type} [FileStore σ] (base path : String) (c : Config) (m : Manifest)
    (s t : σ) : Prop where
  generated : (generate base (.ofStore s) c).result = .ok m
  written : m.publish path s = (.ok (), t)

end Manifest

/-- A file of a store that some group accepts. -/
def Config.Claims {σ : Type} [FileStore σ] (c : Config) (s : σ) (f : String) : Prop :=
  (∃ listed, FileStore.list s "/" = .ok listed ∧ f ∈ listed) ∧ ∃ g ∈ c.assetGroups, g.Accepts f

namespace Manifest

section Published

variable {σ : Type} [FileStore σ] {base path f : String} {c : Config} {m : Manifest} {s t : σ}

theorem vouches_of_generate
    (rooted : ∀ listed, FileStore.list s "/" = .ok listed → ∀ f ∈ listed, Url.Rooted f)
    (h : (generate base (.ofStore s) c).result = .ok m) (hf : c.Claims s f) :
    m.Vouches base s f := by
  obtain ⟨⟨listed, hlist, hmem⟩, haccepts⟩ := hf
  have lists : (Source.ofStore s).Lists listed := by
    intro i listed' hlist' f
    rw [Except.ok.inj (hlist.symm.trans hlist')]
  exact get?_hashTable_of_generate lists (rooted listed hlist) h hmem haccepts

theorem vouches_iff_of_vouches (h : m.Vouches base s f) :
    m.Vouches base t f ↔ FileStore.hash t f = FileStore.hash s f := by
  obtain ⟨digest, hdigest, hget⟩ := h
  rw [hdigest]
  constructor
  · rintro ⟨d, hd, hget'⟩
    rw [hd, Option.some.inj (hget.symm.trans hget')]
  · exact fun hd => ⟨digest, hd, hget⟩

theorem write_of_published (h : m.publish path s = (.ok (), t)) :
    FileStore.write s path m.render = (.ok (), t) := by
  unfold publish at h
  cases hw : FileStore.write s path m.render with
  | mk result s' =>
    rw [hw] at h
    cases result with
    | error e => cases h
    | ok u =>
      cases h
      rfl

end Published

/-- **Publication keeps digests.** After a manifest is written into the store from which it is made,
it vouches for a claimed file exactly if the file is not the one at its own path, or has the digest
that it had before. The store is one in memory, or a directory without links. -/
theorem vouches_of_published_iff {base path f : String} {c : Config} {m : Manifest} :
    (∀ s t : MemoryStore, Published base path c m s t → c.Claims s f →
      (m.Vouches base t f ↔ (f = path → FileStore.hash t f = FileStore.hash s f))) ∧
    ∀ s t : Site, s.LinkFree → Published base path c m s t → c.Claims s f →
      (m.Vouches base t f ↔
        (Site.locate f = Site.locate path → FileStore.hash t f = FileStore.hash s f)) := by
  constructor
  · intro s t hpublished hf
    have rooted : ∀ listed, FileStore.list s "/" = .ok listed → ∀ f ∈ listed, Url.Rooted f := by
      rintro listed ⟨⟩ f hf
      exact MemoryStore.rooted_of_mem_list hf
    rw [vouches_iff_of_vouches (vouches_of_generate rooted hpublished.generated hf)]
    refine ⟨fun h _ => h, fun h => ?_⟩
    by_cases hne : f = path
    · exact h hne
    · cases write_of_published hpublished.written
      exact MemoryStore.hash_put_of_ne hne
  · intro s t hfree hpublished hf
    have hvouches := vouches_of_generate (fun _ hl _ => Site.rooted_of_list hl)
      hpublished.generated hf
    rw [vouches_iff_of_vouches hvouches]
    refine ⟨fun h _ => h, fun h => ?_⟩
    by_cases hne : Site.locate f = Site.locate path
    · exact h hne
    · obtain ⟨⟨listed, hlist, -⟩, -⟩ := hf
      obtain ⟨found, hfound⟩ := Site.exists_directory?_of_list hlist
      obtain ⟨digest, hdigest, -⟩ := hvouches
      exact (Site.hash_of_writeBytes hfree hfound (write_of_published hpublished.written) hne
        hdigest).trans hdigest.symm

/-! ### A script beside the manifest -/

/-- A group for all files. -/
def allFiles : Config where
  index := "/index.html"
  assetGroups := [{ name := "app", resources := { files := ["/**"] } }]
  navigationUrls := some []

/-- A store with a script. -/
def memory : MemoryStore where
  entries := [("/a.js", "1")]

/-- A directory with a script. -/
def scriptTree : Tree := .directory [("a.js", .file "1".toUTF8)]

/-- The site of that directory, seen from the one above it. -/
def site : Site where
  tree := .directory [("dist", scriptTree)]
  here := []
  names := ["dist"]
  root := "dist"

theorem accepts_allFiles :
    ∀ f ∈ ["/a.js", "/ngsw.json"], ∃ g ∈ allFiles.assetGroups, g.Accepts f := by decide +kernel

theorem follow_site :
    site.tree.follow Tree.linkLimit [] ["dist"] = .ok (.existing ["dist"] Tree.linkLimit) := by
  have hvalid : Tree.isValidName "dist" = true := by decide
  simp [site, scriptTree, Tree.follow, Tree.at?, hvalid]

theorem directory?_site : site.directory? [] = some ⟨["dist"], scriptTree, Tree.linkLimit⟩ := by
  refine Site.directory?_eq_some.mpr ⟨by decide, Tree.find_eq_ok.mpr ⟨?_, rfl⟩, _, rfl⟩
  rw [List.append_nil]
  exact follow_site

theorem linkFree_site : site.LinkFree := by
  intro found hfound q target
  cases directory?_site.symm.trans hfound
  cases q with
  | nil => exact fun h => by cases h
  | cons name q =>
    rw [scriptTree, Tree.at?_cons, lookup_cons_eq]
    by_cases hname : name = "a.js"
    · rw [if_pos hname]
      exact Tree.at?_file_ne_link _ q target
    · rw [if_neg hname]
      exact fun h => by cases h

theorem list_site : site.list "/" = .ok ["/a.js"] := by
  have hsize : site.walked [] ≤ Tree.pathLimit + 1 := by decide
  have hfiles : site.tree.files Tree.linkLimit (site.walked []) ["dist"] scriptTree =
      .ok [["a.js"]] := by
    rw [scriptTree, Tree.files, if_pos hsize]
    simp [Tree.filesOf, Tree.files]
    rfl
  refine Site.list_eq_ok.mpr ⟨[], _, _, by decide, directory?_site, hfiles, ?_⟩
  exact List.mergeSort_singleton _

theorem hash_site : ∃ digest, site.hash "/a.js" = .ok digest := by
  have hvalid : Tree.isValidName "a.js" = true := by decide
  have hfollow : site.tree.follow Tree.linkLimit ["dist"] ["a.js"] =
      .ok (.existing ["dist", "a.js"] Tree.linkLimit) := by
    simp [site, scriptTree, Tree.follow, Tree.at?, hvalid]
  refine ⟨_, Site.hash_eq_ok.mpr ⟨"1".toUTF8, Site.contents_eq_ok.mpr ⟨["a.js"], by decide,
    by decide, Tree.read_eq_ok.mpr ⟨["dist", "a.js"], Tree.linkLimit, ?_, rfl⟩⟩, rfl⟩⟩
  exact (Tree.follow_append follow_site _).trans hfollow

theorem write_site (text : String) : ∃ t, FileStore.write site "/ngsw.json" text = (.ok (), t) := by
  have habove : Site.above? (site.shown ["ngsw.json"]) = some "dist" := by decide
  have hmade : site.tree.makeDirectories Tree.linkLimit [] ["dist"] =
      (.ok ["dist"], site.tree) := by
    have hthere : site.tree.at? ["dist"] = some scriptTree := rfl
    simp only [Tree.makeDirectories, follow_site, hthere, scriptTree]
  have hvacant : site.tree.follow Tree.linkLimit ["dist"] ["ngsw.json"] =
      .ok (.vacant ["dist"] "ngsw.json") := by
    have hvalid : Tree.isValidName "ngsw.json" = true := by decide
    simp [site, scriptTree, Tree.follow, Tree.at?, hvalid, List.lookup_cons]
  have hfollow : site.tree.follow Tree.linkLimit site.here
      (site.names ++ [("ngsw.json" : RawText)]) = .ok (.vacant ["dist"] "ngsw.json") :=
    (Tree.follow_append follow_site _).trans hvacant
  have hwritten : site.tree.write site.here (site.names ++ [("ngsw.json" : RawText)])
      text.toUTF8 = .ok (site.tree.put ["dist", "ngsw.json"] (.file text.toUTF8)) := by
    unfold Tree.write
    rw [hfollow]
    rfl
  exact ⟨_, Site.writeBytes_eq_ok.mpr ⟨["ngsw.json"], _, _, by decide,
    Site.makeDirectories_of_above habove (by decide) hmade, by decide, hwritten, rfl⟩⟩

theorem exists_published_memory {c : Config} (hdata : c.dataGroups = []) :
    ∃ m t, Published "/" "/ngsw.json" c m memory t := by
  obtain ⟨m, hm⟩ : ∃ m, (generate "/" (.ofStore memory) c).result = .ok m := by
    refine exists_generate_ok (fun _ => ⟨_, rfl⟩) ?_ fun g hg => ?_
    · rintro i listed f ⟨⟩ hf -
      rw [List.mem_singleton.mp hf]
      exact ⟨_, rfl⟩
    · rw [hdata] at hg
      cases hg
  exact ⟨m, _, hm, rfl⟩

theorem exists_published_site {c : Config} (hdata : c.dataGroups = []) :
    ∃ m t, Published "/" "/ngsw.json" c m site t := by
  obtain ⟨m, hm⟩ : ∃ m, (generate "/" (.ofStore site) c).result = .ok m := by
    refine exists_generate_ok (fun _ => ⟨_, list_site⟩) ?_ fun g hg => ?_
    · intro i listed f hlist hf _
      cases list_site.symm.trans hlist
      rw [List.mem_singleton.mp hf]
      exact hash_site
    · rw [hdata] at hg
      cases hg
  obtain ⟨t, ht⟩ := write_site m.render
  exact ⟨m, t, hm, by rw [publish, ht]; rfl⟩

/-- A manifest beside a script vouches for the script, in memory and in a directory. -/
theorem vouches_of_published_script :
    (∃ m t, Published "/" "/ngsw.json" allFiles m memory t ∧ m.Vouches "/" t "/a.js") ∧
      ∃ m t, Published "/" "/ngsw.json" allFiles m site t ∧ m.Vouches "/" t "/a.js" := by
  constructor
  · obtain ⟨m, hm⟩ : ∃ m, (generate "/" (.ofStore memory) allFiles).result = .ok m := by
      refine exists_generate_ok (fun _ => ⟨_, rfl⟩) ?_ fun _ h => absurd h List.not_mem_nil
      rintro i listed f ⟨⟩ hf -
      rw [List.mem_singleton.mp hf]
      exact ⟨_, rfl⟩
    have hpublished : Published "/" "/ngsw.json" allFiles m memory
        (memory.put "/ngsw.json" m.render) := ⟨hm, rfl⟩
    have hclaims : allFiles.Claims memory "/a.js" :=
      ⟨⟨_, rfl, List.mem_cons_self⟩, accepts_allFiles _ List.mem_cons_self⟩
    exact ⟨m, _, hpublished, (vouches_of_published_iff.1 memory _ hpublished hclaims).mpr
      fun h => absurd h (by decide)⟩
  · obtain ⟨m, hm⟩ : ∃ m, (generate "/" (.ofStore site) allFiles).result = .ok m := by
      refine exists_generate_ok (fun _ => ⟨_, list_site⟩) ?_ fun _ h => absurd h List.not_mem_nil
      intro i listed f hlist hf _
      cases list_site.symm.trans hlist
      rw [List.mem_singleton.mp hf]
      exact hash_site
    obtain ⟨t, ht⟩ := write_site m.render
    have hpublished : Published "/" "/ngsw.json" allFiles m site t :=
      ⟨hm, by rw [publish, ht]; rfl⟩
    have hclaims : allFiles.Claims site "/a.js" :=
      ⟨⟨_, list_site, List.mem_cons_self⟩, accepts_allFiles _ List.mem_cons_self⟩
    exact ⟨m, t, hpublished, (vouches_of_published_iff.2 site t linkFree_site hpublished
      hclaims).mpr fun h => absurd h (by decide)⟩

/-! ### A manifest in place of an earlier one -/

/-- A store with the manifest of an earlier run. -/
def earlier : MemoryStore where
  entries := [("/ngsw.json", "old")]

/-- **A manifest that takes the place of an earlier one** and has claimed it gives the digest of the
earlier one, which is no longer there. -/
theorem not_vouches_of_republished :
    ∃ m t, Published "/" "/ngsw.json" allFiles m earlier t ∧ allFiles.Claims earlier "/ngsw.json" ∧
      ¬ m.Vouches "/" t "/ngsw.json" := by
  have hdiffer : (generate "/" (.ofStore earlier) allFiles).result.toOption.map (fun m =>
      decide (m.hashTable.get? (Url.join "/" "/ngsw.json") =
        (FileStore.hash (earlier.put "/ngsw.json" m.render) "/ngsw.json").toOption)) =
      some false := by
    decide +kernel
  cases hm : (generate "/" (.ofStore earlier) allFiles).result with
  | error e =>
    rw [hm] at hdiffer
    cases hdiffer
  | ok m =>
    rw [hm] at hdiffer
    have hne := of_decide_eq_false (Option.some.inj hdiffer)
    refine ⟨m, _, ⟨hm, rfl⟩, ⟨⟨_, rfl, List.mem_cons_self⟩, accepts_allFiles _ (by decide)⟩, ?_⟩
    rintro ⟨digest, hdigest, hget⟩
    have hhash : FileStore.hash (earlier.put "/ngsw.json" m.render) "/ngsw.json" = .ok digest :=
      hdigest
    rw [hget, hhash] at hne
    exact hne rfl

end Manifest

end OfflineManifest
