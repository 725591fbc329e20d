import OfflineManifest.Proofs.Files.Listing
import OfflineManifest.Proofs.Manifest.NonInterference
import OfflineManifest.Proofs.Manifest.Precedence
import OfflineManifest.Proofs.Manifest.Publication

/-! # Publishing again

If no group accepts the path of a manifest, the manifest is none of its own files. Then the store
into which it was written leads to the same run, writing the manifest again changes nothing, and so
it goes on, however often the manifest is made and published (`Manifest.settled_of_published`). -/

namespace OfflineManifest.Manifest

section Settled

variable {σ : Type} [FileStore σ] {base path : String} {c : Config} {m : Manifest} {s t : σ}

/-- **Makes a manifest from a store** and writes it into the store, if there is one. -/
def republish (base path : String) (c : Config) (s : σ) : σ :=
  match (generate base (.ofStore s) c).result with
  | .ok m => (m.publish path s).2
  | .error _ => s

/-- **Publishing has settled**: the second store leads to the run to which the first one led, and
publishing into it changes nothing, however often it is repeated. -/
structure Settled (base path : String) (c : Config) (m : Manifest) (s t : σ) : Prop where
  run : generate base (.ofStore t) c = generate base (.ofStore s) c
  publish : m.publish path t = (.ok (), t)
  repeated : ∀ n, (republish base path c)^[n] t = t

theorem republish_eq (hrun : (generate base (.ofStore t) c).result = .ok m)
    (hpublish : m.publish path t = (.ok (), t)) : republish base path c t = t := by
  unfold republish
  rw [hrun]
  simp only [hpublish]

/-- What the stores have to agree on. -/
theorem settled_of_agree (hpublished : Published base path c m s t)
    (hagree : Source.AgreeOnAccepted (.ofStore s) (.ofStore t) c.assetGroups)
    (hwrite : FileStore.write t path m.render = (.ok (), t)) : Settled base path c m s t := by
  have hrun : generate base (.ofStore t) c = generate base (.ofStore s) c :=
    (generate_congr_of_accepted hagree).symm
  have hpublish : m.publish path t = (.ok (), t) := by
    unfold publish
    rw [hwrite]
    rfl
  have hgenerated : (generate base (.ofStore t) c).result = .ok m :=
    hrun ▸ hpublished.generated
  exact ⟨hrun, hpublish, Function.iterate_fixed (republish_eq hgenerated hpublish)⟩

/-- A store from which a manifest was made can be listed, if there is a group. -/
theorem exists_list_of_generate (h : (generate base (.ofStore s) c).result = .ok m) {i : ℕ}
    (hi : i < c.assetGroups.length) : ∃ listed, FileStore.list s "/" = .ok listed := by
  obtain ⟨ms, -, hmatched, -⟩ := exists_matched h
  exact not_fails_iff.mp (hmatched.listed hi)

end Settled

variable {base path : String} {c : Config} {m : Manifest}

theorem agree_of_put {s : MemoryStore} {text : String}
    (houtside : ∀ g ∈ c.assetGroups, ¬ g.Accepts path) :
    Source.AgreeOnAccepted (.ofStore s) (.ofStore (s.put path text)) c.assetGroups := by
  have hne : ∀ f, (∃ g ∈ c.assetGroups, g.Accepts f) → f ≠ path := by
    rintro f ⟨g, hg, haccepts⟩ rfl
    exact houtside g hg haccepts
  refine ⟨fun i _ => Or.inr ⟨_, _, rfl, rfl, fun f hf => ?_⟩, fun i listed f _ _ hf => ?_⟩
  · exact (MemoryStore.mem_list_put_of_ne (hne f hf) "/").symm
  · exact (MemoryStore.hash_put_of_ne (hne f hf)).symm

theorem agree_of_writeBytes {s t : Site} {names : List RawText} {text : String}
    (hplain : s.Plain) (hnames : Site.locate path = .ok names)
    (houtside : ∀ g ∈ c.assetGroups, ¬ g.Accepts (Site.url names))
    (hgenerated : (generate base (.ofStore s) c).result = .ok m)
    (hwrite : FileStore.write s path text = (.ok (), t)) :
    Source.AgreeOnAccepted (.ofStore s) (.ofStore t) c.assetGroups := by
  refine ⟨fun i hi => ?_, fun i listed f hlist hf haccepts => ?_⟩
  · obtain ⟨listed, hlist⟩ := exists_list_of_generate hgenerated hi
    obtain ⟨listed', hlist', hmem⟩ :=
      Site.exists_list_of_writeBytes hplain hlist hnames hwrite
    refine Or.inr ⟨listed, listed', hlist, hlist', fun f ⟨g, hg, haccepts⟩ => ?_⟩
    rw [hmem, or_iff_left]
    rintro rfl
    exact houtside g hg haccepts
  -- a file that is accepted has a digest before the write, which the write leaves as it is
  · obtain ⟨found, hfound⟩ := Site.exists_directory?_of_list hlist
    have hfoundPlain := hplain found hfound
    obtain ⟨digest, hdigest, -⟩ := vouches_of_generate (fun _ hl _ => Site.rooted_of_list hl)
      hgenerated ⟨⟨listed, hlist, hf⟩, haccepts⟩
    obtain ⟨rfl, -⟩ := (Site.list_eq_ok_iff hfound hfoundPlain).mp hlist
    obtain ⟨way, bytes, hway, rfl⟩ := (Site.mem_listing_iff hfoundPlain).mp hf
    have hlocate := Site.locate_url (hfoundPlain.isName hway)
    have hne : Site.locate (Site.url way) ≠ Site.locate path := by
      rw [hlocate, hnames]
      intro heq
      obtain ⟨g, hg, hg'⟩ := haccepts
      rw [← Site.url_asShown, Except.ok.inj heq] at hg'
      exact houtside g hg hg'
    exact hdigest.trans
      (Site.hash_of_writeBytes hplain.linkFree hfound hwrite hne hdigest).symm

/-- **Publishing settles at once** if no group accepts the path of the manifest, as the store spells
it. The store is one in memory, or a directory without links. -/
theorem settled_of_published :
    (∀ s t : MemoryStore, Published base path c m s t →
      (∀ g ∈ c.assetGroups, ¬ g.Accepts path) → Settled base path c m s t) ∧
    ∀ s t : Site, s.Plain → Published base path c m s t →
      (∀ names, Site.locate path = .ok names → ∀ g ∈ c.assetGroups, ¬ g.Accepts (Site.url names)) →
        Settled base path c m s t := by
  constructor
  · intro s t hpublished houtside
    cases write_of_published hpublished.written
    refine settled_of_agree hpublished (agree_of_put houtside) ?_
    exact congrArg (Prod.mk _) (MemoryStore.put_put s path m.render)
  · intro s t hplain hpublished houtside
    have hwrite : FileStore.write s path m.render = (.ok (), t) :=
      write_of_published hpublished.written
    obtain ⟨names, -, -, hnames, -⟩ := Site.writeBytes_eq_ok.mp hwrite
    exact settled_of_agree hpublished
      (agree_of_writeBytes hplain hnames (houtside names hnames) hpublished.generated hwrite)
      (Site.writeBytes_again hwrite)

/-! ### A manifest beside a script -/

/-- A configuration for scripts only. -/
def scriptsOnly : Config where
  index := "/index.html"
  assetGroups := [scripts]

theorem not_accepts_manifest : ∀ g ∈ scriptsOnly.assetGroups, ¬ g.Accepts "/ngsw.json" := by
  have hscripts : ¬ scripts.Accepts "/ngsw.json" := by decide +kernel
  exact List.forall_mem_singleton.mpr hscripts

theorem plain_site : site.Plain := by
  intro found hfound
  cases directory?_site.symm.trans hfound
  refine .directory ?_ (List.nodup_singleton _) ?_
  · rw [List.forall_mem_singleton]
    exact ⟨⟨by decide, by decide, by decide⟩, by decide⟩
  · rw [List.forall_mem_singleton]
    exact .file _

/-- Publishing beside a script settles, in memory and in a directory. -/
theorem settled_of_published_script :
    (∃ m t, Published "/" "/ngsw.json" scriptsOnly m memory t ∧
      Settled "/" "/ngsw.json" scriptsOnly m memory t) ∧
    ∃ m t, Published "/" "/ngsw.json" scriptsOnly m site t ∧
      Settled "/" "/ngsw.json" scriptsOnly m site t := by
  constructor
  · obtain ⟨m, t, hpublished⟩ := exists_published_memory (c := scriptsOnly) rfl
    exact ⟨m, t, hpublished, settled_of_published.1 memory t hpublished not_accepts_manifest⟩
  · obtain ⟨m, t, hpublished⟩ := exists_published_site (c := scriptsOnly) rfl
    refine ⟨m, t, hpublished, settled_of_published.2 site t plain_site hpublished ?_⟩
    intro names hnames
    have hlocate : Site.locate "/ngsw.json" = .ok ["ngsw.json"] := by decide
    cases hlocate.symm.trans hnames
    have hurl : Site.url ["ngsw.json"] = "/ngsw.json" := by decide
    rw [hurl]
    exact not_accepts_manifest

end OfflineManifest.Manifest
