import OfflineManifest.Proofs.Command.Check

/-! # What a check complains about

A data group has two times. A check resolves every data group, but of one group it learns no more
than the first fault. So its errors are one for each group with a fault, about the first of them
(`Config.check_complaints`), and there are as many errors as faults exactly if no group has two:
of a group with two faults, the one of the timeout is passed over in silence
(`Config.exists_fault_not_mentioned`). -/

namespace OfflineManifest

open DataGroup

/-- The message of a diagnostic contains a text. -/
def Diagnostic.Mentions (d : Diagnostic) (text : String) : Prop :=
  text.toList <:+: d.message.toList

instance (d : Diagnostic) (text : String) : Decidable (d.Mentions text) :=
  inferInstanceAs (Decidable (_ <:+: _))

theorem GenerateError.message_duration (group : String) (field : TimeField)
    (fault : Duration.Malformed) :
    (duration group field fault).message =
      s!"data group '{group}': invalid {field.name}: " ++ "not a valid duration: '" ++
        fault.token ++ s!"' in '{fault.input}'" := by
  have hmessage : (duration group field fault).message =
      s!"data group '{group}': invalid {field.name}: {fault.message}" := rfl
  have hfault : fault.message =
      s!"not a valid duration: '{fault.token}' in '{fault.input}'" := rfl
  rw [hmessage, hfault]
  simp only [String.append_assoc]
  rfl

/-- The error for a time that is no duration shows where the text goes wrong. -/
theorem Diagnostic.mentions_token (name group : String) (field : TimeField)
    (fault : Duration.Malformed) :
    (invalidDataGroup name (GenerateError.duration group field fault).message).Mentions
      fault.token := by
  unfold Mentions invalidDataGroup
  rw [GenerateError.message_duration, String.toList_append, String.toList_append]
  exact ⟨_, _, rfl⟩

/-! ### The faults of one group -/

namespace DataGroup

variable {g : DataGroup} {field : TimeField} {fault : Duration.Malformed}

/-- The fault of a time, if it is no duration. -/
def fault? (g : DataGroup) : TimeField → Option Duration.Malformed
  | .maxAge => error? (Duration.parse g.cache.maxAge)
  | .timeout =>
    match g.cache.timeout with
    | none => none
    | some text => if text = "" then none else error? (Duration.parse text)

/-- **The faults of a data group**, in the order in which its times are read. -/
def faults (g : DataGroup) : List (TimeField × Duration.Malformed) :=
  [.maxAge, .timeout].filterMap fun field => (g.fault? field).map (field, ·)

/-- Neither of the times is a duration. -/
def FaultyTwice (g : DataGroup) : Prop := ∀ field, ∃ fault, g.HasFault fault field

theorem fault?_eq_some : g.fault? field = some fault ↔ g.HasFault fault field := by
  cases field with
  | maxAge =>
    unfold fault? HasFault
    cases Duration.parse g.cache.maxAge <;> simp [error?]
  | timeout =>
    unfold fault? HasFault
    cases g.cache.timeout with
    | none => simp
    | some text =>
      by_cases hempty : text = ""
      · simp [hempty]
      · cases hparse : Duration.parse text <;> simp [hempty, hparse, error?]

theorem faultyTwice_iff :
    (g.fault? .maxAge).isSome ∧ (g.fault? .timeout).isSome ↔ g.FaultyTwice := by
  simp only [FaultyTwice, Option.isSome_iff_exists, fault?_eq_some]
  exact ⟨fun h field => by cases field <;> simp [h], fun h => ⟨h .maxAge, h .timeout⟩⟩

instance (g : DataGroup) : Decidable g.FaultyTwice := decidable_of_iff _ faultyTwice_iff

theorem mem_faults : (field, fault) ∈ g.faults ↔ g.HasFault fault field := by
  rw [← fault?_eq_some]
  cases field <;> simp [faults]

theorem reports_iff : g.Reports field fault ↔ g.faults.head? = some (field, fault) := by
  simp only [Reports, ← fault?_eq_some]
  cases field <;> cases hage : g.fault? .maxAge <;> cases htimeout : g.fault? .timeout <;>
    simp [faults, hage, htimeout]

/-- **The first fault** is the one with which resolving a group ends. -/
theorem error?_resolve (base : String) (g : DataGroup) :
    error? (g.resolve base) = g.faults.head?.map fun f => .duration g.name f.1 f.2 := by
  refine Option.ext fun e => ?_
  rw [error?_eq_some_iff, resolve_eq_error, Option.map_eq_some_iff]
  simp only [reports_iff, Prod.exists, eq_comm]

/-- **The error of a check for a group** is about its first fault. -/
theorem complaint?_eq (base : String) (g : DataGroup) :
    g.complaint? base = g.faults.head?.map fun f =>
      .invalidDataGroup g.name (GenerateError.duration g.name f.1 f.2).message := by
  rw [complaint?, error?_resolve, Option.map_map]
  rfl

/-- A second fault is passed over. -/
theorem length_faults (base : String) (g : DataGroup) :
    g.faults.length = (g.complaint? base).toList.length + if g.FaultyTwice then 1 else 0 := by
  rw [complaint?_eq]
  simp only [← faultyTwice_iff]
  cases hage : g.fault? .maxAge <;> cases htimeout : g.fault? .timeout <;>
    simp [faults, hage, htimeout]

/-- **Faults and errors of a check**, counted over groups. -/
theorem length_flatMap_faults (base : String) (groups : List DataGroup) :
    (groups.flatMap faults).length =
      (groups.filterMap (complaint? base)).length + groups.countP (·.FaultyTwice) := by
  induction groups with
  | nil => rfl
  | cons g groups ih =>
    have hcons : ((g :: groups).filterMap (complaint? base)).length =
        (g.complaint? base).toList.length + (groups.filterMap (complaint? base)).length := by
      rw [List.filterMap_eq_flatMap_toList, List.flatMap_cons, List.length_append,
        ← List.filterMap_eq_flatMap_toList]
    rw [List.flatMap_cons, List.length_append, ih, hcons, length_faults base g, List.countP_cons]
    simp only [decide_eq_true_eq]
    omega

end DataGroup

/-! ### Checks -/

namespace Config

variable {base : String} {c : Config}

/-- The errors of a check are those for data groups. -/
theorem filter_isError_check (base : String) (c : Config) :
    (c.check base).diagnostics.filter Diagnostic.isError =
      (c.check base).diagnostics.filter (·.code = .invalidDataGroup) := by
  refine List.filter_congr fun d hd => ?_
  rw [(c.check_eq base).2, List.mem_append] at hd
  rcases hd with hd | hd
  · obtain ⟨g, -, rfl⟩ := List.mem_map.mp hd
    rfl
  · obtain ⟨g, -, hg⟩ := List.mem_filterMap.mp hd
    obtain ⟨e, -, rfl⟩ := Option.map_eq_some_iff.mp hg
    rfl

/-- How a check ends that complains, and what it prints. -/
theorem checkConfig_of_complaints {mode : OutputMode} {o : CheckOptions} {tree : Tree} {n : ℕ}
    (h : ((c.check o.base).diagnostics.filter (·.code = .invalidDataGroup)).length = n)
    (hpos : 0 < n) :
    (Command.checkConfig mode o c tree).exitCode = 1 ∧
      (Command.checkConfig mode o c tree).output =
        mode.logged (c.check o.base).events ++
          report .text mode o.config (c.check o.base).diagnostics ++
          .onlyIf (!mode.quiet) (.err s!"   check failed: {n} invalid data group(s)\n") := by
  unfold Command.checkConfig
  simp only [(c.check_eq o.base).1, filter_isError_check, h, hpos, if_true]
  exact ⟨trivial, rfl⟩

/-- **What a check complains about.** Its errors are one for each data group with a fault, about the
first fault of the group; the second fault of a group is passed over. -/
theorem check_complaints (base : String) (c : Config) :
    (c.check base).diagnostics.filter (·.code = .invalidDataGroup) =
      c.dataGroups.filterMap (fun g => g.faults.head?.map fun f =>
        .invalidDataGroup g.name (GenerateError.duration g.name f.1 f.2).message) ∧
    (∀ g ∈ c.dataGroups, (∃ field fault, g.HasFault fault field) →
      ∃ field fault d, g.Reports field fault ∧ d ∈ (c.check base).diagnostics ∧
        d.code = .invalidDataGroup ∧ d.location = some s!"dataGroups[{g.name}]" ∧
        d.Mentions fault.token) ∧
    (c.dataGroups.flatMap faults).length =
      ((c.check base).diagnostics.filter (·.code = .invalidDataGroup)).length +
        c.dataGroups.countP (·.FaultyTwice) ∧
    ∀ (mode : OutputMode) (o : CheckOptions) (tree : Tree) (n : ℕ), o.base = base →
      ((c.check base).diagnostics.filter (·.code = .invalidDataGroup)).length = n → 0 < n →
        (Command.checkConfig mode o c tree).exitCode = 1 ∧
          (Command.checkConfig mode o c tree).output =
            mode.logged (c.check base).events ++
              report .text mode o.config (c.check base).diagnostics ++
              .onlyIf (!mode.quiet) (.err s!"   check failed: {n} invalid data group(s)\n") := by
  obtain ⟨-, hcomplaints⟩ := filter_code_check base c
  refine ⟨?_, fun g hg hfault => ?_, ?_, ?_⟩
  · rw [hcomplaints]
    exact List.filterMap_congr fun g _ => complaint?_eq base g
  · obtain ⟨e, he⟩ := (fails_resolve_iff base).mpr hfault
    obtain ⟨field, fault, hreports, rfl⟩ := resolve_eq_error.mp he
    have hcomplaint : g.complaint? base = some (.invalidDataGroup g.name
        (GenerateError.duration g.name field fault).message) := by
      rw [complaint?, he]
      rfl
    refine ⟨field, fault, _, hreports, ?_, rfl, rfl,
      Diagnostic.mentions_token g.name g.name field fault⟩
    rw [(c.check_eq base).2]
    exact List.mem_append_right _ (List.mem_filterMap.mpr ⟨g, hg, hcomplaint⟩)
  · rw [hcomplaints]
    exact length_flatMap_faults base c.dataGroups
  · rintro mode o tree n rfl h hpos
    exact checkConfig_of_complaints h hpos

/-! ### Two faults in one group -/

/-- A data group neither of whose times is a duration. -/
def twice : Config where
  index := "/index.html"
  dataGroups :=
    [{ name := "api", urls := ["/api/**"]
       cache := { maxSize := 20, maxAge := "2w", timeout := some "5x" } }]

theorem check_complaints_twice :
    ((twice.check "/").diagnostics.filter (·.code = .invalidDataGroup)).length = 1 ∧
      (Command.checkConfig {} { config := "c.json" } twice (.directory [])).exitCode = 1 := by
  have hone : ((twice.check "/").diagnostics.filter (·.code = .invalidDataGroup)).length = 1 := by
    decide +kernel
  obtain ⟨-, -, -, hends⟩ := check_complaints "/" twice
  exact ⟨hone, (hends {} { config := "c.json" } _ 1 rfl hone Nat.one_pos).1⟩

/-- The text of that configuration. -/
def twiceText : String :=
  "\x7b\"index\": \"/index.html\", \"dataGroups\": [\x7b\"name\": \"api\", " ++
  "\"urls\": [\"/api/**\"], \"cacheConfig\": \x7b\"maxSize\": 20, \"maxAge\": \"2w\", " ++
  "\"timeout\": \"5x\"\x7d\x7d]\x7d"

theorem load_twiceText : load .json twiceText = .ok twice := by
  decide +kernel

/-- **A fault that no error mentions.** -/
theorem exists_fault_not_mentioned :
    ∃ text c, load .json text = .ok c ∧
      ((c.check "/").diagnostics.filter (·.code = .invalidDataGroup)).length ≠
        (c.dataGroups.flatMap faults).length ∧
      ∃ g ∈ c.dataGroups, ∃ field fault, g.HasFault fault field ∧
        ∀ d ∈ (c.check "/").diagnostics, ¬ d.Mentions fault.token := by
  have htimeout : ∀ g ∈ twice.dataGroups, (.timeout, ⟨"5x", "5x"⟩) ∈ g.faults := by
    decide +kernel
  exact ⟨twiceText, twice, load_twiceText, by decide +kernel, _, List.mem_singleton_self _,
    .timeout, _, mem_faults.mp (htimeout _ (List.mem_singleton_self _)), by decide +kernel⟩

end Config

end OfflineManifest
