import OfflineManifest.Command.Check
import OfflineManifest.Proofs.Manifest.Precedence

/-! # Checks and manifests

A check resolves every data group by itself and goes on after a fault; a manifest is given up at the
first fault. Both look at the same groups in the same order. So if the asset groups can be resolved,
a check finds no fault exactly if there is a manifest, whose data groups are then those that the
check has resolved; and if there is none, the first error of the check is the one that ends the run
(`Config.check_agrees`). -/

namespace OfflineManifest

/-! ### Runs that do not end early -/

namespace Run

variable {ε α β : Type} {f : α → Run ε β}

/-- A list of runs that all have a value. -/
theorem mapM_ok {g : α → β} : ∀ {l : List α}, (∀ a ∈ l, (f a).result = .ok (g a)) →
    (l.mapM f).result = .ok (l.map g) ∧
      (l.mapM f).diagnostics = l.flatMap fun a => (f a).diagnostics
  | [], _ => ⟨rfl, rfl⟩
  | a :: l, h => by
    rw [List.forall_mem_cons] at h
    obtain ⟨hresult, hdiagnostics⟩ := mapM_ok h.2
    rw [List.mapM_cons, bind_ok h.1, bind_pure_eq]
    exact ⟨by rw [hresult]; rfl, by rw [hdiagnostics]; rfl⟩

theorem forM_ok {f : α → Run ε Unit} : ∀ {l : List α}, (∀ a ∈ l, (f a).result = .ok ()) →
    (l.forM f).result = .ok () ∧
      (l.forM f).diagnostics = l.flatMap fun a => (f a).diagnostics
  | [], _ => ⟨rfl, rfl⟩
  | a :: l, h => by
    rw [List.forall_mem_cons] at h
    obtain ⟨hresult, hdiagnostics⟩ := forM_ok h.2
    have hcons : (a :: l).forM f = (f a >>= fun _ => l.forM f) := rfl
    rw [hcons, bind_ok h.1]
    exact ⟨hresult, by rw [hdiagnostics]; rfl⟩

end Run

namespace AssetGroup

theorem flatMap_notices (groups : List AssetGroup) :
    groups.flatMap notices = noticesFor groups := by
  induction groups with
  | nil => rfl
  | cons g groups ih => rw [List.flatMap_cons, ih, noticesFor_cons]

theorem code_of_mem_noticesFor {groups : List AssetGroup} {d : Diagnostic}
    (h : d ∈ noticesFor groups) : d.code = .versionedFiles := by
  obtain ⟨g, -, rfl⟩ := List.mem_map.mp h
  rfl

end AssetGroup

/-! ### Data groups, each by itself -/

namespace DataGroup

variable {base : String} {g : DataGroup} {groups : List DataGroup}

/-- The error of a check for a data group, if it cannot be resolved. -/
def complaint? (base : String) (g : DataGroup) : Option Diagnostic :=
  (error? (g.resolve base)).map fun e => .invalidDataGroup g.name e.message

/-- The resolved form of a data group, if there is one. -/
def resolved? (base : String) (g : DataGroup) : Option ResolvedDataGroup :=
  (g.resolve base).toOption

theorem check_eq (base : String) (g : DataGroup) :
    (g.check base).result = .ok (g.resolved? base).toList ∧
      (g.check base).diagnostics = (g.complaint? base).toList := by
  unfold check resolved? complaint?
  cases g.resolve base with
  | ok resolved => exact ⟨rfl, rfl⟩
  | error e => exact ⟨rfl, rfl⟩

theorem complaint?_eq_none_iff : g.complaint? base = none ↔ ¬ Fails (g.resolve base) := by
  rw [complaint?, Option.map_eq_none_iff, error?_eq_none_iff, not_fails_iff]

theorem code_of_complaint? {d : Diagnostic} (h : g.complaint? base = some d) :
    d.code = .invalidDataGroup := by
  obtain ⟨e, -, rfl⟩ := Option.map_eq_some_iff.mp h
  rfl

/-- **A check finds no fault exactly if all groups can be resolved.** -/
theorem filterMap_complaint?_eq_nil_iff :
    groups.filterMap (complaint? base) = [] ↔
      ∃ resolved, groups.mapM (resolve base) = .ok resolved := by
  rw [List.filterMap_eq_nil_iff, ← not_fails_iff, fails_mapM_iff]
  simp only [complaint?_eq_none_iff, not_exists, not_and]

/-- **The first error of a check** is the one at which the groups in a row are given up. -/
theorem head?_complaints {e : GenerateError} (h : groups.mapM (resolve base) = .error e) :
    ∃ k g field fault, FirstAt (fun g => Fails (resolve base g)) groups k g ∧
      e = .duration g.name field fault ∧
      (groups.filterMap (complaint? base)).head? = some (.invalidDataGroup g.name e.message) := by
  obtain ⟨k, g, hfirst, he⟩ := mapM_eq_error.mp h
  obtain ⟨field, fault, -, heq⟩ := resolve_eq_error.mp he
  refine ⟨k, g, field, fault, hfirst, heq, ?_⟩
  refine head?_filterMap_of_firstAt (fun g hg => complaint?_eq_none_iff.mpr hg) hfirst ?_
  rw [complaint?, he]
  rfl

end DataGroup

/-! ### Standard output -/

namespace Printed

@[simp] theorem stdout_append (a b : Printed) : (a ++ b).stdout = a.stdout ++ b.stdout := rfl

@[simp] theorem stdout_out (text : String) : (out text).stdout = text := rfl

@[simp] theorem stdout_err (text : String) : (err text).stdout = "" := rfl

@[simp] theorem stdout_onlyIf (flag : Bool) (p : Printed) :
    (onlyIf flag p).stdout = if flag then p.stdout else "" := by
  cases flag <;> rfl

end Printed

/-- Only the verdicts and the summary of a check go to standard output, not what is logged. -/
theorem stdout_logged (mode : OutputMode) (events : List Event) :
    (mode.logged events).stdout = "" := by
  unfold OutputMode.logged
  cases mode.verbose <;> rfl

/-! ### Checks -/

namespace Config

open AssetGroup DataGroup

/-- **What a check gives**: the groups that can be resolved, and an error for each of the others
behind the notices. -/
theorem check_eq (base : String) (c : Config) :
    (c.check base).result = .ok (c.dataGroups.filterMap (resolved? base)) ∧
      (c.check base).diagnostics =
        noticesFor c.assetGroups ++ c.dataGroups.filterMap (complaint? base) := by
  have hnotices : ∀ g ∈ c.assetGroups,
      ((g.notices.forM Run.notice : Run Empty Unit)).result = .ok () := fun g _ => by
    rw [Run.forM_notice]
  have hchecks : ∀ g ∈ c.dataGroups, (g.check base).result = .ok (g.resolved? base).toList :=
    fun g _ => (g.check_eq base).1
  obtain ⟨hassets, hgiven⟩ := Run.forM_ok hnotices
  obtain ⟨hdata, hcomplaints⟩ := Run.mapM_ok hchecks
  have hcollected : (c.dataGroups.map fun g => (g.resolved? base).toList).flatten =
      c.dataGroups.filterMap (resolved? base) := by
    rw [List.filterMap_eq_flatMap_toList, List.flatMap_def]
  unfold Config.check
  rw [Run.bind_ok hassets, Run.bind_pure_eq, hdata, hgiven, hcomplaints]
  simp only [Run.forM_notice, flatMap_notices, DataGroup.check_eq,
    ← List.filterMap_eq_flatMap_toList]
  exact ⟨congrArg Except.ok hcollected, trivial⟩

variable {base : String} {source : Source} {c : Config}

/-- The diagnostics of a check by their codes. -/
theorem filter_code_check (base : String) (c : Config) :
    (c.check base).diagnostics.filter (·.code = .versionedFiles) = noticesFor c.assetGroups ∧
      (c.check base).diagnostics.filter (·.code = .invalidDataGroup) =
        c.dataGroups.filterMap (complaint? base) := by
  have hnotices : ∀ d ∈ noticesFor c.assetGroups, d.code = .versionedFiles :=
    fun d hd => code_of_mem_noticesFor hd
  have hcomplaints : ∀ d ∈ c.dataGroups.filterMap (complaint? base), d.code = .invalidDataGroup :=
    fun d hd => by
      obtain ⟨g, -, hg⟩ := List.mem_filterMap.mp hd
      exact code_of_complaint? hg
  have hcodes : DiagnosticCode.versionedFiles ≠ .invalidDataGroup := by decide
  rw [(c.check_eq base).2, List.filter_append, List.filter_append]
  constructor
  · have hnone : (c.dataGroups.filterMap (complaint? base)).filter
        (·.code = .versionedFiles) = [] :=
      List.filter_eq_nil_iff.mpr fun d hd => by simp [hcomplaints d hd, hcodes.symm]
    rw [hnone, List.append_nil, List.filter_eq_self]
    exact fun d hd => decide_eq_true (hnotices d hd)
  · have hnone : (noticesFor c.assetGroups).filter (·.code = .invalidDataGroup) = [] :=
      List.filter_eq_nil_iff.mpr fun d hd => by simp [hnotices d hd, hcodes]
    rw [hnone, List.nil_append, List.filter_eq_self]
    exact fun d hd => decide_eq_true (hcomplaints d hd)

/-- The run of the generator, if the asset groups can be resolved: it ends with what the data groups
end with, and gives the notices of all asset groups. -/
theorem generate_of_assets {v : List ResolvedAssetGroup × Claims}
    (h : (AssetGroup.resolveAll base source c.assetGroups).result = .ok v) :
    (Manifest.generate base source c).diagnostics = noticesFor c.assetGroups ∧
      (∀ e, (Manifest.generate base source c).result = .error e ↔
        c.dataGroups.mapM (DataGroup.resolve base) = .error e) ∧
      ∀ m, (Manifest.generate base source c).result = .ok m →
        c.dataGroups.mapM (DataGroup.resolve base) = .ok m.dataGroups ∧
          m.navigationUrls = NavigationRule.resolve base c.navigationUrls := by
  obtain ⟨-, herror⟩ := Manifest.generate_of_resolveAll h
  -- neither listing nor hashing has failed, since a data group is at fault if anything is
  have hdata : ∀ e, (Manifest.generate base source c).result = .error e →
      ∃ g field fault, e = .duration g field fault := fun e he => by
    obtain ⟨k, g, field, fault, -, -, heq⟩ :=
      Manifest.exists_reports_of_mapM_eq_error ((herror e).mp he)
    exact ⟨g.name, field, fault, heq⟩
  refine ⟨?_, herror, fun m hm => ?_⟩
  · rcases Manifest.generate_cases base source c with ⟨k, g, e, -, hrun⟩ |
      ⟨-, ⟨k, g, f, e, -, hresult, -⟩ | ⟨-, hnotices, -⟩⟩
    · obtain ⟨_, _, _, heq⟩ := hdata _ (congrArg Run.result hrun)
      cases heq
    · obtain ⟨_, _, _, heq⟩ := hdata _ hresult
      cases heq
    · exact hnotices
  · obtain ⟨_, -, hm⟩ := Run.result_bind_eq_ok.mp hm
    obtain ⟨groups, hgroups, hm⟩ := Run.result_bind_eq_ok.mp hm
    obtain ⟨_, -, hm⟩ := Run.result_bind_eq_ok.mp hm
    cases hm
    exact ⟨(DataGroup.resolveAll_eq base c.dataGroups).1.symm.trans hgroups, rfl⟩

/-- What a check prints and how it ends, if all data groups can be resolved. -/
theorem checkConfig_of_resolved {groups : List ResolvedDataGroup} {navigation : PatternSet}
    {mode : OutputMode} {o : CheckOptions} {tree : Tree}
    (hgroups : (c.check o.base).result = .ok groups)
    (hnone : c.dataGroups.filterMap (complaint? o.base) = [])
    (hnavigation : PatternSet.ofRules (NavigationRule.resolve o.base c.navigationUrls) =
      .ok navigation) :
    (Command.checkConfig mode o c tree).exitCode = 0 ∧
      (Command.checkConfig mode o c tree).printed.stdout =
        (if mode.quiet then "" else
          summary c groups (NavigationRule.resolve o.base c.navigationUrls)) ++
        String.join (o.urls.map (verdict navigation)) := by
  have hclassify : classify (NavigationRule.resolve o.base c.navigationUrls) o.urls =
      .ok (String.join (o.urls.map (verdict navigation))) := by
    unfold classify
    by_cases hurls : o.urls.isEmpty
    · rw [if_pos hurls, List.isEmpty_iff.mp hurls]
      rfl
    · rw [if_neg hurls, hnavigation]
  have herrors : (c.check o.base).diagnostics.filter Diagnostic.isError = [] := by
    rw [(c.check_eq o.base).2, hnone, List.append_nil, List.filter_eq_nil_iff]
    intro d hd
    obtain ⟨g, -, rfl⟩ := List.mem_map.mp hd
    exact Bool.false_ne_true
  unfold Command.checkConfig
  simp only [hgroups, herrors, List.length_nil, lt_irrefl, if_false, hclassify]
  refine ⟨trivial, ?_⟩
  cases hquiet : mode.quiet <;> simp [stdout_logged, report]

/-- **A check agrees with the generator**, if the asset groups can be resolved. -/
theorem check_agrees {v : List ResolvedAssetGroup × Claims}
    (assets : (AssetGroup.resolveAll base source c.assetGroups).result = .ok v) :
    (c.check base).result = .ok (c.dataGroups.filterMap fun g => (g.resolve base).toOption) ∧
    (c.check base).diagnostics.filter (·.code = .invalidDataGroup) =
      c.dataGroups.filterMap (fun g => (error? (g.resolve base)).map fun e =>
        .invalidDataGroup g.name e.message) ∧
    (c.check base).diagnostics.filter (·.code = .versionedFiles) =
      (Manifest.generate base source c).diagnostics ∧
    ((c.check base).diagnostics.filter (·.code = .invalidDataGroup) = [] ↔
      ∃ m, (Manifest.generate base source c).result = .ok m) ∧
    (∀ m, (Manifest.generate base source c).result = .ok m →
      (c.check base).result = .ok m.dataGroups) ∧
    (∀ e, (Manifest.generate base source c).result = .error e →
      ∃ k g field fault d, FirstAt (fun g => Fails (g.resolve base)) c.dataGroups k g ∧
        e = .duration g.name field fault ∧
        ((c.check base).diagnostics.filter (·.code = .invalidDataGroup)).head? = some d ∧
        d.location = some s!"dataGroups[{g.name}]" ∧ d.message = e.message) ∧
    ∀ m navigation, (Manifest.generate base source c).result = .ok m →
      PatternSet.ofRules m.navigationUrls = .ok navigation →
        ∀ (mode : OutputMode) (o : CheckOptions) (tree : Tree), o.base = base →
          (Command.checkConfig mode o c tree).exitCode = 0 ∧
          (Command.checkConfig mode o c tree).printed.stdout =
            (if mode.quiet then "" else summary c m.dataGroups m.navigationUrls) ++
            String.join (o.urls.map fun url => url ++ ": " ++
              (if navigation.accepts url then "navigation" else "not navigation") ++ "\n") := by
  obtain ⟨hnotices, herror, hok⟩ := generate_of_assets assets
  obtain ⟨hwarnings, hcomplaints⟩ := filter_code_check base c
  obtain ⟨hgroups, -⟩ := c.check_eq base
  have hsame : ∀ m, (Manifest.generate base source c).result = .ok m →
      (c.check base).result = .ok m.dataGroups := fun m hm => by
    rw [hgroups]
    exact congrArg Except.ok (filterMap_toOption (hok m hm).1)
  have hnone : c.dataGroups.filterMap (complaint? base) = [] ↔
      ∃ m, (Manifest.generate base source c).result = .ok m := by
    rw [filterMap_complaint?_eq_nil_iff, ← not_fails_iff, ← not_fails_iff, not_iff_not]
    exact exists_congr fun e => (herror e).symm
  refine ⟨hgroups, hcomplaints, hwarnings.trans hnotices.symm, by rw [hcomplaints, hnone], hsame,
    fun e he => ?_, ?_⟩
  · obtain ⟨k, g, field, fault, hfirst, heq, hhead⟩ := head?_complaints ((herror e).mp he)
    rw [hcomplaints]
    exact ⟨k, g, field, fault, _, hfirst, heq, hhead, rfl, rfl⟩
  · rintro m navigation hm hnavigation mode o tree rfl
    rw [(hok m hm).2] at hnavigation ⊢
    exact checkConfig_of_resolved (hsame m hm) (hnone.mpr ⟨m, hm⟩) hnavigation

/-! ### Two groups at fault around a sound one -/

/-- A data group whose answers are kept for some time. -/
def keeping (name maxAge : String) : DataGroup where
  name
  urls := ["/api/**"]
  cache := { maxSize := 1, maxAge }

/-- A group that uses the former name of an option, and two times that are no durations. -/
def flawed : Config where
  index := "/index.html"
  assetGroups := [{ name := "code", resources := { versionedFiles := ["/*.js"] } }]
  dataGroups := [keeping "old" "2w", keeping "api" "1h", keeping "slow" "5x"]

/-- The same without these. -/
def mended : Config := { flawed with dataGroups := [keeping "api" "1h"] }

theorem check_agrees_flawed :
    (∃ e d, (Manifest.generate "/" Manifest.noFiles flawed).result = .error e ∧
      ((flawed.check "/").diagnostics.filter (·.code = .invalidDataGroup)).head? = some d ∧
      d.message = e.message) ∧
    ∃ m, (Manifest.generate "/" Manifest.noFiles mended).result = .ok m ∧
      (mended.check "/").result = .ok m.dataGroups := by
  have hassets : (AssetGroup.resolveAll "/" Manifest.noFiles flawed.assetGroups).result.isOk =
      true := by decide +kernel
  obtain ⟨v, hv⟩ : ∃ v, (AssetGroup.resolveAll "/" Manifest.noFiles
      flawed.assetGroups).result = .ok v := by
    cases h : (AssetGroup.resolveAll "/" Manifest.noFiles flawed.assetGroups).result with
    | error e => rw [h] at hassets; cases hassets
    | ok v => exact ⟨v, rfl⟩
  obtain ⟨-, -, -, hnone, -, hfirst, -⟩ := check_agrees (c := flawed) hv
  obtain ⟨-, -, -, hnone', hgroups, -⟩ := check_agrees (c := mended) hv
  constructor
  · have herrors : (flawed.check "/").diagnostics.filter (·.code = .invalidDataGroup) ≠ [] := by
      decide +kernel
    cases hresult : (Manifest.generate "/" Manifest.noFiles flawed).result with
    | ok m => exact absurd (hnone.mpr ⟨m, hresult⟩) herrors
    | error e =>
      obtain ⟨_, _, _, _, d, -, -, hhead, -, hmessage⟩ := hfirst e hresult
      exact ⟨e, d, rfl, hhead, hmessage⟩
  · have herrors : (mended.check "/").diagnostics.filter (·.code = .invalidDataGroup) = [] := by
      decide +kernel
    obtain ⟨m, hm⟩ := hnone'.mp herrors
    exact ⟨m, hm, hgroups m hm⟩

end Config

end OfflineManifest
