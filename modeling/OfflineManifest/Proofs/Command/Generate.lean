import OfflineManifest.Command.Program
import OfflineManifest.Proofs.Files.Change
import OfflineManifest.Proofs.Manifest.Resolution

/-! # The command `generate` writes one file or none

The command can fail in several places (`run_generate_cases`, `generateInto_cases`), of which only
the last one comes after something was done to the files: the directories above the manifest are
made before the manifest is written. So the files of the deployment are the same after a failure,
and after a success all but the manifest (`run_generate_atomic`). -/

namespace OfflineManifest.Command

variable {mode : OutputMode} {o : GenerateOptions} {tree : Tree} {here : List RawText}

/-- The deployment of a command, among the files of a tree. -/
def deployment (o : GenerateOptions) (here : List RawText) (tree : Tree) : Site :=
  .ofPath tree here o.directory

/-! ### Output paths -/

theorem requested_cons_slash (l : List Char) :
    Site.requested (String.ofList ('/' :: l)) = "" :: Site.requested (String.ofList l) := by
  unfold Site.requested
  rw [String.toList_ofList, String.toList_ofList, List.splitOn_cons_eq_if_modifyHead]
  rfl

/-- The slash in front of an output path leaves its parts as they are, or one more is empty. -/
theorem requested_join (path : String) :
    Site.requested (Url.join "/" path) = Site.requested path ∨
      Site.requested (Url.join "/" path) = "" :: Site.requested path := by
  have hslash : "/".toList = ['/'] := by decide
  obtain ⟨l, rfl⟩ : ∃ l, path = String.ofList l := ⟨path.toList, String.ofList_toList.symm⟩
  unfold Url.join
  rw [hslash, String.toList_ofList]
  by_cases hl : l.head? = some '/'
  · obtain ⟨rest, rfl⟩ := List.head?_eq_some_iff.mp hl
    exact Or.inl rfl
  · have hjoin : Url.joinChars ['/'] l = '/' :: l := by simp [Url.joinChars, hl]
    rw [hjoin]
    exact Or.inr (requested_cons_slash l)

theorem locate_of_locate_join {path : String} {names : List RawText}
    (h : Site.locate (Url.join "/" path) = .ok names) : Site.locate path = .ok names := by
  obtain ⟨hup, rfl⟩ := Site.locate_eq_ok.mp h
  refine Site.locate_eq_ok.mpr ?_
  rcases requested_join path with hsame | hmore
  · rw [hsame] at hup
    exact ⟨hup, by rw [Site.parts, Site.parts, hsame]⟩
  · rw [hmore] at hup
    refine ⟨fun hmem => hup (List.mem_cons_of_mem _ hmem), ?_⟩
    rw [Site.parts, Site.parts, hmore, List.filter_cons_of_neg (by simp)]

/-! ### Runs -/

/-- A write changes the files of a deployment, not where it is. -/
theorem deployment_of_writeBytes {path : String} {bytes : ByteArray}
    {result : Except FileError Unit} {t : Site}
    (h : (deployment o here tree).writeBytes path bytes = (result, t)) :
    deployment o here t.tree = t := by
  cases result with
  | error e =>
    obtain rfl | ⟨-, -, -, -, -, rfl⟩ := Site.writeBytes_eq_error h
    · rfl
    · rfl
  | ok u =>
    obtain ⟨-, -, -, -, -, -, -, rfl⟩ := Site.writeBytes_eq_ok.mp h
    rfl

/-- **How generating ends**, for a loaded configuration. -/
theorem generateInto_cases (mode : OutputMode) (o : GenerateOptions) (c : Config) (s : Site) :
    (∃ e, (Manifest.generate o.base (.ofStore s) c).result = .error e ∧
      (generateInto mode o c s).exitCode = 1 ∧ (generateInto mode o c s).tree = s.tree) ∨
    ∃ m, (Manifest.generate o.base (.ofStore s) c).result = .ok m ∧
      ((∃ e t, s.writeBytes (Url.join "/" o.output) m.render.toUTF8 = (.error e, t) ∧
        (generateInto mode o c s).exitCode = 1 ∧ (generateInto mode o c s).tree = t.tree) ∨
      ∃ t, s.writeBytes (Url.join "/" o.output) m.render.toUTF8 = (.ok (), t) ∧
        (generateInto mode o c s).exitCode = 0 ∧ (generateInto mode o c s).tree = t.tree) := by
  unfold generateInto
  cases hrun : (Manifest.generate o.base (.ofStore s) c).result with
  | error e =>
    simp only [hrun]
    exact Or.inl ⟨e, rfl, rfl, rfl⟩
  | ok m =>
    refine Or.inr ⟨m, rfl, ?_⟩
    rcases hwrite : s.writeBytes (Url.join "/" o.output) m.render.toUTF8 with ⟨result, t⟩
    have hpublish : m.publish (Url.join "/" o.output) s =
        (result.mapError (.write (Url.join "/" o.output)), t) := by
      have hstore : FileStore.write s (Url.join "/" o.output) m.render = (result, t) := hwrite
      unfold Manifest.publish
      rw [hstore]
    simp only [hrun, hpublish]
    cases result with
    | error e => exact Or.inl ⟨e, t, rfl, rfl, rfl⟩
    | ok u => exact Or.inr ⟨t, rfl, rfl, rfl⟩

theorem run_of_error {e : ConfigError} (h : Config.loadFile tree here o.config = .error e) :
    run mode (.generate o) tree here = .failed .nothing (.config e) tree := by
  change runGenerate mode o tree here = _
  unfold runGenerate
  rw [h]

theorem run_of_ok {c : Config} (h : Config.loadFile tree here o.config = .ok c) :
    run mode (.generate o) tree here =
      if ((deployment o here tree).directory? []).isSome then
        generateInto mode o c (deployment o here tree)
      else .failed .nothing (.noDirectory o.directory) tree := by
  change runGenerate mode o tree here = _
  unfold runGenerate
  rw [h]
  rfl

/-- **How a run ends.** Nothing is generated unless there are a configuration and a deployment. -/
theorem run_generate_cases (mode : OutputMode) (o : GenerateOptions) (tree : Tree)
    (here : List RawText) :
    ((run mode (.generate o) tree here).exitCode = 1 ∧
      (run mode (.generate o) tree here).tree = tree) ∨
    ∃ c found, Config.loadFile tree here o.config = .ok c ∧
      (deployment o here tree).directory? [] = some found ∧
      run mode (.generate o) tree here = generateInto mode o c (deployment o here tree) := by
  cases hload : Config.loadFile tree here o.config with
  | error e =>
    rw [run_of_error hload]
    exact Or.inl ⟨rfl, rfl⟩
  | ok c =>
    rw [run_of_ok hload]
    cases hfound : (deployment o here tree).directory? [] with
    | none => exact Or.inl ⟨rfl, rfl⟩
    | some found => exact Or.inr ⟨c, found, rfl, rfl, rfl⟩

/-- **Generating is atomic.** It ends with an exit code of 0 or 1. In the first case the manifest of
the files before stands at the names of the output path, and every other file is the same, in the
listing too. In the second case all files are the same. -/
theorem run_generate_atomic (mode : OutputMode) (o : GenerateOptions) (tree : Tree)
    (here : List RawText) (plain : (deployment o here tree).Plain) :
    ((run mode (.generate o) tree here).exitCode = 0 ∧
      ∃ c m names, Config.loadFile tree here o.config = .ok c ∧
        (Manifest.generate o.base (.ofStore (deployment o here tree)) c).result = .ok m ∧
        Site.locate o.output = .ok names ∧
        (deployment o here tree).Replaces names m.render
          (deployment o here (run mode (.generate o) tree here).tree)) ∨
    ((run mode (.generate o) tree here).exitCode = 1 ∧
      (deployment o here tree).Same
        (deployment o here (run mode (.generate o) tree here).tree)) := by
  obtain ⟨hcode, htree⟩ | ⟨c, found, hload, hfound, hrun⟩ := run_generate_cases mode o tree here
  · rw [htree]
    exact Or.inr ⟨hcode, .refl _⟩
  · rw [hrun]
    obtain ⟨-, -, hcode, htree⟩ |
        ⟨m, hm, ⟨e, t, hwrite, hcode, htree⟩ | ⟨t, hwrite, hcode, htree⟩⟩ :=
      generateInto_cases mode o c (deployment o here tree)
    · rw [htree]
      exact Or.inr ⟨hcode, .refl _⟩
    · have hsame := Site.same_of_writeBytes_error plain hfound hwrite
      rw [htree, deployment_of_writeBytes hwrite]
      exact Or.inr ⟨hcode, hsame⟩
    · obtain ⟨names, -, -, hnames, -⟩ := Site.writeBytes_eq_ok.mp hwrite
      have hreplaces := Site.replaces_of_writeBytes plain hfound hnames hwrite
      rw [htree, deployment_of_writeBytes hwrite]
      exact Or.inl ⟨hcode, c, m, names, hload, hm, locate_of_locate_join hnames, hreplaces⟩

/-! ### A manifest in a directory of its own -/

/-- A configuration for all scripts. -/
def scripts : Config where
  index := "/index.html"
  assetGroups := [{ name := "app", resources := { files := ["/*.js"] } }]

/-- The text of a configuration for all scripts. -/
def scriptsText : String :=
  "\x7b\"index\": \"/index.html\", \"assetGroups\": [\x7b\"name\": \"app\", \"resources\": " ++
    "\x7b\"files\": [\"/*.js\"]\x7d\x7d]\x7d"

/-- A deployment with a script, beside a configuration. -/
def workspace : Tree :=
  .directory [("dist", .directory [("a.js", .file "1".toUTF8)]),
    ("ngsw-config.json", .file scriptsText.toUTF8)]

/-- A command for a manifest below a directory that is not there. -/
def nested : GenerateOptions where
  directory := "dist"
  config := "ngsw-config.json"
  output := "./out//ngsw.json"

/-- The same command with an output path that leads out of the deployment. -/
def upward : GenerateOptions := { nested with output := "../ngsw.json" }

theorem plain_workspace : workspace.Plain := by
  have hlocate : Site.locate "dist/ngsw-config.json/a.js" =
      .ok ["dist", "ngsw-config.json", "a.js"] := by decide
  have hname : ∀ name ∈ (["dist", "ngsw-config.json", "a.js"] : List RawText), Tree.IsName name :=
    Site.isName_of_locate hlocate
  have hdist : (Tree.directory [("a.js", .file "1".toUTF8)]).Plain := by
    refine .directory ?_ (List.nodup_singleton _) (List.forall_mem_singleton.mpr (.file _))
    exact List.forall_mem_singleton.mpr (hname "a.js" (by decide))
  refine .directory ?_ (by decide) ?_
  · exact List.forall_mem_cons.mpr ⟨hname "dist" (by decide),
      List.forall_mem_singleton.mpr (hname "ngsw-config.json" (by decide))⟩
  · exact List.forall_mem_cons.mpr ⟨hdist, List.forall_mem_singleton.mpr (.file _)⟩

theorem follow_dist : workspace.follow Tree.linkLimit [] ["dist"] =
    .ok (.existing ["dist"] Tree.linkLimit) :=
  Tree.follow_of_plain plain_workspace rfl (by decide) rfl

theorem directory?_nested : (deployment nested [] workspace).directory? [] =
    some ⟨["dist"], .directory [("a.js", .file "1".toUTF8)], Tree.linkLimit⟩ :=
  Site.directory?_eq_some.mpr ⟨by decide, Tree.find_eq_ok.mpr ⟨follow_dist, rfl⟩, _, rfl⟩

theorem plain_nested : (deployment nested [] workspace).Plain := by
  intro found hfound
  cases directory?_nested.symm.trans hfound
  exact plain_workspace.at? (q := ["dist"]) rfl

theorem load_nested : Config.loadFile workspace [] nested.config = .ok scripts := by
  have hformat : ConfigFormat.ofPath nested.config = .ok .json := by decide
  have hread : workspace.readPath [] nested.config = .ok scriptsText.toUTF8 := by
    rw [Tree.readPath, if_pos (by decide), Tree.read_eq_ok]
    exact ⟨["ngsw-config.json"], _, Tree.follow_of_plain plain_workspace rfl (by decide) rfl, rfl⟩
  have htext : Config.fileText workspace [] nested.config = .ok scriptsText := by
    simp only [Config.fileText, hread, Site.fromUTF8?_toUTF8]
  have hload : Config.load .json scriptsText = .ok scripts := by decide +kernel
  simp only [Config.loadFile, except_bind_eq_ok]
  exact ⟨_, hformat, _, htext, hload⟩

theorem list_nested : (deployment nested [] workspace).list "/" = .ok ["/a.js"] := by
  refine (Site.list_eq_ok_iff directory?_nested (plain_nested _ directory?_nested)).mpr
    ⟨(List.mergeSort_singleton _).symm, ?_⟩
  rw [Tree.fits_directory_iff (by decide), List.forall_mem_singleton]
  refine ⟨by decide, fun q es hq => ?_⟩
  cases q <;> cases hq

theorem hash_nested : ∃ digest, (deployment nested [] workspace).hash "/a.js" = .ok digest := by
  have hcontents : (deployment nested [] workspace).contents "/a.js" = .ok "1".toUTF8 :=
    (Site.contents_eq_ok_iff directory?_nested (plain_nested _ directory?_nested)).mpr
      ⟨["a.js"], by decide, by decide, by decide, rfl⟩
  exact ⟨_, Site.hash_eq_ok.mpr ⟨_, hcontents, rfl⟩⟩

theorem write_nested (bytes : ByteArray) : ∃ t,
    (deployment nested [] workspace).writeBytes (Url.join "/" nested.output) bytes =
      (.ok (), t) := by
  have habove : Site.above? ((deployment nested [] workspace).shown ["out", "ngsw.json"]) =
      some "dist/out" := by decide
  have hvacant : workspace.follow Tree.linkLimit ["dist"] ["out"] =
      .ok (.vacant ["dist"] "out") := by
    rw [Tree.follow]
    rfl
  have hmade : workspace.makeDirectories Tree.linkLimit [] ["dist", "out"] =
      (.ok ["dist", "out"], workspace.put ["dist", "out"] (.directory [])) := by
    simp only [Tree.makeDirectories, follow_dist, hvacant]
    rfl
  have hplain : (workspace.put ["dist", "out"] (.directory [])).Plain := by
    have hout : Site.locate "dist/out" = .ok ["dist", "out"] := by decide
    exact Tree.plain_put plain_workspace (Site.isName_of_locate hout) Tree.plain_empty
  have hfollow : (workspace.put ["dist", "out"] (.directory [])).follow Tree.linkLimit []
      ["dist", "out"] = .ok (.existing ["dist", "out"] Tree.linkLimit) :=
    Tree.follow_of_plain hplain rfl (by decide) rfl
  have hnew : (workspace.put ["dist", "out"] (.directory [])).follow Tree.linkLimit []
      ["dist", "out", "ngsw.json"] = .ok (.vacant ["dist", "out"] "ngsw.json") := by
    refine (Tree.follow_append hfollow ["ngsw.json"]).trans ?_
    rw [Tree.follow]
    rfl
  have hwritten : (workspace.put ["dist", "out"] (.directory [])).write []
      ["dist", "out", "ngsw.json"] bytes = .ok ((workspace.put ["dist", "out"] (.directory [])).put
        ["dist", "out", "ngsw.json"] (.file bytes)) := by
    rw [Tree.write, hnew]
    rfl
  exact ⟨_, Site.writeBytes_eq_ok.mpr ⟨["out", "ngsw.json"], _, _, by decide,
    Site.makeDirectories_of_above habove (by decide) hmade, by decide, hwritten, rfl⟩⟩

theorem generate_nested : ∃ m, (Manifest.generate nested.base
    (.ofStore (deployment nested [] workspace)) scripts).result = .ok m := by
  refine Manifest.exists_generate_ok (fun _ => ⟨_, list_nested⟩) ?_
    fun _ h => absurd h List.not_mem_nil
  intro i listed f hlist hf _
  cases list_nested.symm.trans hlist
  rw [List.mem_singleton.mp hf]
  exact hash_nested

theorem exitCode_nested : (run {} (.generate nested) workspace []).exitCode = 0 := by
  obtain ⟨m, hm⟩ := generate_nested
  obtain ⟨t, ht⟩ := write_nested m.render.toUTF8
  rw [run_of_ok load_nested, directory?_nested]
  obtain ⟨e, he, -⟩ | ⟨m', hm', ⟨e, t', hwrite, -⟩ | ⟨t', -, hcode, -⟩⟩ :=
    generateInto_cases {} nested scripts (deployment nested [] workspace)
  · cases hm.symm.trans he
  · cases hm.symm.trans hm'
    cases ht.symm.trans hwrite
  · exact hcode

/-- A manifest can be written below a directory that is not there yet, but not out of the
deployment. -/
theorem run_generate_atomic_nested :
    ((run {} (.generate nested) workspace []).exitCode = 0 ∧
      ∃ m, (Manifest.generate nested.base (.ofStore (deployment nested [] workspace))
          scripts).result = .ok m ∧
        (deployment nested [] workspace).Replaces ["out", "ngsw.json"] m.render
          (deployment nested [] (run {} (.generate nested) workspace []).tree)) ∧
    (run {} (.generate upward) workspace []).exitCode = 1 ∧
      (deployment upward [] workspace).Same
        (deployment upward [] (run {} (.generate upward) workspace []).tree) := by
  constructor
  · obtain ⟨hcode, c, m, names, hload, hm, hnames, hreplaces⟩ | ⟨hcode, -⟩ :=
      run_generate_atomic {} nested workspace [] plain_nested
    · have hlocate : Site.locate nested.output = .ok ["out", "ngsw.json"] := by decide
      cases load_nested.symm.trans hload
      cases hlocate.symm.trans hnames
      exact ⟨hcode, m, hm, hreplaces⟩
    · rw [exitCode_nested] at hcode
      exact absurd hcode (by decide)
  · obtain ⟨-, -, -, names, -, -, hnames, -⟩ | hfailed :=
      run_generate_atomic {} upward workspace [] plain_nested
    · have hlocate : Site.locate upward.output = .error (.outsideRoot "../ngsw.json") := by decide
      cases hlocate.symm.trans hnames
    · exact hfailed

end OfflineManifest.Command
