import OfflineManifest.Proofs.Manifest.Payloads

/-! # Loading configurations again

A configuration can be written in many ways: a list of globs as a single text, a record as an array,
what is absent as null, members in any order and among others that mean nothing. Its written form is
one of these ways, and every decoder of a part reads the written form of that part (`reads`). So
what was loaded from JSON is loaded again, as it was, from its written form
(`Config.load_written`): loading and writing is a normalisation. -/

namespace OfflineManifest

open Json Decoder Field

variable {n : ℕ}

/-! ### Parts of configurations -/

theorem reads_globList (globs : List String) : globList.Reads (n + 1) (.ofStrings globs) globs :=
  reads_textOrList _ globs

namespace Resources

theorem reads (r : Resources) : decoder.Reads (n + 2) r.toJson r :=
  reads_record (by decide) <|
    .given (reads_globList _) <| .given (reads_globList _) <| .given (reads_globList _) .nil

theorem exact_toJson (r : Resources) : r.toJson.Exact :=
  .object (by simp)

end Resources

namespace AssetGroup

theorem reads (g : AssetGroup) : decoder.Reads (n + 3) g.toJson g := by
  rw [toJson, List.append_assoc, List.append_assoc]
  exact reads_record (by decide) <|
    .given reads_text <|
    .optional (fun mode _ => ⟨InstallMode.reads mode, by simp⟩) <|
    .optional (fun mode _ => ⟨InstallMode.reads mode, by simp⟩) <|
    .given (Resources.reads _) .nil

theorem exact_toJson (g : AssetGroup) : g.toJson.Exact := by
  refine .object ?_
  simp only [List.forall_mem_append]
  refine ⟨⟨⟨by simp, .member? fun mode _ => .string mode.name⟩,
    .member? fun mode _ => .string mode.name⟩, ?_⟩
  simp [Resources.exact_toJson]

end AssetGroup

namespace CachePolicy

theorem reads (p : CachePolicy) : decoder.Reads (n + 1) p.toJson p := by
  rw [toJson, List.append_assoc, ← List.append_nil (Value.member? "strategy" _)]
  exact reads_record (by decide) <|
    .given (reads_uint64 _) <| .given reads_text <|
    .optional (fun timeout _ => ⟨reads_text, by simp⟩) <|
    .optional (fun strategy _ => ⟨Strategy.reads strategy, by simp⟩) .nil

theorem exact_toJson (p : CachePolicy) : p.toJson.Exact := by
  refine .object ?_
  simp only [List.forall_mem_append]
  exact ⟨⟨by simp, .member? fun timeout _ => .string timeout⟩,
    .member? fun strategy _ => .string strategy.name⟩

end CachePolicy

namespace DataGroup

theorem reads (g : DataGroup) : decoder.Reads (n + 2) g.toJson g := by
  rw [toJson, List.append_assoc]
  exact reads_record (by decide) <|
    .given reads_text <| .given (reads_globList _) <|
    .optional (fun version _ => ⟨reads_uint32 version, by simp [Value.ofUInt32, Value.ofUInt64]⟩) <|
    .given (CachePolicy.reads _) .nil

theorem exact_toJson (g : DataGroup) : g.toJson.Exact := by
  refine .object ?_
  simp only [List.forall_mem_append]
  refine ⟨⟨by simp, .member? fun version _ => .ofUInt32 version⟩, ?_⟩
  simp [CachePolicy.exact_toJson]

end DataGroup

/-! ### Configurations -/

namespace Config

variable {c : Config} {text : String}

theorem reads (h : ∀ p, c.HandsOn p → p.value ≠ .null ∧ p.value.depth ≤ n + 4) :
    decoder.Reads (n + 5) c.toJson c := by
  have hpayload : ∀ p, c.HandsOn p → Reads anyValue (n + 4) p.value p ∧ p.value ≠ .null :=
    fun p hp => ⟨reads_anyValue (h p hp).2, (h p hp).1⟩
  rw [toJson, ← List.append_nil (Value.member? "navigationUrls" _)]
  simp only [List.append_assoc]
  exact reads_record (by decide) <|
    .given reads_text <|
    .optional (fun p hp => hpayload p (Or.inl hp)) <|
    .optional (fun p hp => hpayload p (Or.inr hp)) <|
    .given (reads_list fun _ _ => AssetGroup.reads _) <|
    .given (reads_list fun _ _ => DataGroup.reads _) <|
    .optional (fun patterns _ => ⟨reads_texts patterns, by simp [Value.ofStrings]⟩) .nil

theorem exact_toJson (h : ∀ p, c.HandsOn p → p.value.Exact) : c.toJson.Exact := by
  have hassets : (Value.array (c.assetGroups.map AssetGroup.toJson)).Exact :=
    .array_map fun g _ => g.exact_toJson
  have hdata : (Value.array (c.dataGroups.map DataGroup.toJson)).Exact :=
    .array_map fun g _ => g.exact_toJson
  refine .object ?_
  simp only [List.forall_mem_append]
  refine ⟨⟨⟨⟨by simp, .member? fun p hp => h p (Or.inl hp)⟩,
    .member? fun p hp => h p (Or.inr hp)⟩, ?_⟩, .member? fun patterns _ => .ofStrings patterns⟩
  simp [hassets, hdata]

/-- **What was loaded from JSON is loaded again** from its written form, on one line or on several,
if the data that is handed on holds no floating-point numbers. -/
theorem load_written (hload : load .json text = .ok c)
    (exact : ∀ p, c.HandsOn p → p.value.Exact) :
    load .json c.toJson.compact = .ok c ∧ load .json c.toJson.pretty = .ok c := by
  -- the object of the configuration takes one of the levels
  have hreads : decoder.Reads (122 + 5) c.toJson c := reads fun p hp => by
    obtain ⟨hnull, hdepth⟩ := levels_of_run (load_json_eq_ok.mp hload).1 hp
    exact ⟨hnull, Nat.le_of_lt_succ hdepth⟩
  have hexact : c.toJson.Exact := exact_toJson exact
  have hvalid : c.Valid := (load_eq_ok.mp hload).2
  exact ⟨load_json_eq_ok.mpr ⟨run_compact hreads hexact, hvalid⟩,
    load_json_eq_ok.mpr ⟨run_pretty hreads hexact, hvalid⟩⟩

/-- A configuration with a payload and groups of both kinds. -/
def mixed : Config :=
  { Manifest.tagged with
    assetGroups := [{ name := "app", resources := { files := ["/*.js"] } }]
    dataGroups :=
      [{ name := "api", urls := ["/api/**"]
         cache := { maxSize := 20, maxAge := "1h", strategy := some .freshness } }] }

/-- A text of that configuration: globs are single texts, records are arrays, what is absent is
null, and the members are out of order, with an unknown one among them. -/
def mixedText : String :=
  "\x7b\"extra\": [1.5], \"navigationUrls\": null, \"push\": null, " ++
  "\"dataGroups\": [[\"api\", \"/api/**\", null, [20, \"1h\", null, \"freshness\"]]], " ++
  "\"assetGroups\": [\x7b\"resources\": \x7b\"files\": \"/*.js\"\x7d, \"name\": \"app\"\x7d], " ++
  "\"appData\": \x7b\"tags\": [null, true]\x7d, \"index\": \"/index.html\"\x7d"

theorem load_mixedText : load .json mixedText = .ok mixed := by
  decide +kernel

theorem load_written_mixed :
    load .json mixedText = .ok mixed ∧ mixed.toJson.compact ≠ mixedText ∧
      load .json mixed.toJson.compact = .ok mixed := by
  have hexact : ∀ p, mixed.HandsOn p → p.value.Exact := fun _ => Manifest.exact_tagged
  exact ⟨load_mixedText, by decide +kernel, (load_written load_mixedText hexact).1⟩

end Config

end OfflineManifest
