import OfflineManifest.Manifest.Json
import OfflineManifest.Proofs.Json.Reading

/-! # Manifests read back

A manifest that has been written is read back as it was, if its text does not nest too deep and the
data that is handed on is neither null, which stands for its absence, nor holds floating-point
numbers (`Manifest.parse_render`). So the text tells such manifests apart. -/

namespace OfflineManifest

open Json Decoder Field

variable {n : ℕ}

theorem InstallMode.reads (mode : InstallMode) :
    InstallMode.decoder.Reads n (.string mode.name) mode :=
  reads_oneOf (by cases mode <;> rfl)

theorem Strategy.reads (strategy : Strategy) :
    Strategy.decoder.Reads n (.string strategy.name) strategy :=
  reads_oneOf (by cases strategy <;> rfl)

/-! ### Parts of manifests -/

namespace NavigationRule

theorem reads (r : NavigationRule) : decoder.Reads (n + 1) r.toJson r :=
  reads_record (by decide) (.given (reads_bool _) (.given reads_text .nil))

theorem exact_toJson (r : NavigationRule) : r.toJson.Exact :=
  .object (by simp)

end NavigationRule

namespace ResolvedAssetGroup

theorem reads (g : ResolvedAssetGroup) : decoder.Reads (n + 2) g.toJson g :=
  reads_record (by decide) <|
    .given reads_text <| .given (InstallMode.reads _) <| .given (InstallMode.reads _) <|
    .given (reads_texts _) <| .given (reads_texts _) .nil

theorem exact_toJson (g : ResolvedAssetGroup) : g.toJson.Exact :=
  .object (by simp)

end ResolvedAssetGroup

namespace ResolvedDataGroup

theorem reads (g : ResolvedDataGroup) : decoder.Reads (n + 2) g.toJson g :=
  reads_record (by decide) <|
    .given reads_text <| .given (reads_texts _) <| .given (Strategy.reads _) <|
    .given (reads_uint64 _) <| .given (reads_uint64 _) <|
    .optional (fun timeout _ => ⟨reads_uint64 timeout, by simp [Value.ofUInt64]⟩) <|
    .given (reads_uint32 _) .nil

theorem exact_toJson (g : ResolvedDataGroup) : g.toJson.Exact := by
  have htimeout : ∀ m ∈ Value.member? "timeoutMs" (g.timeout.map .ofUInt64), m.2.Exact :=
    .member? fun timeout _ => .ofUInt64 timeout
  refine .object (List.forall_mem_append.mpr ⟨List.forall_mem_append.mpr ⟨?_, htimeout⟩, ?_⟩) <;>
    simp

end ResolvedDataGroup

/-! ### Manifests -/

namespace Manifest

variable {m : Manifest}

/-- The data that a manifest hands on. -/
def HandsOn (m : Manifest) (p : Payload) : Prop := p ∈ m.appData ∨ p ∈ m.push

theorem reads (h : ∀ p, m.HandsOn p → p.value ≠ .null ∧ p.value.depth ≤ n + 3) :
    decoder.Reads (n + 4) m.toJson m := by
  have hpayload : ∀ p, m.HandsOn p → Reads anyValue (n + 3) p.value p ∧ p.value ≠ .null :=
    fun p hp => ⟨reads_anyValue (h p hp).2, (h p hp).1⟩
  rw [toJson, List.append_assoc, List.append_assoc]
  exact reads_record (by decide) <|
    .given (reads_uint32 _) <|
    .optional (fun p hp => hpayload p (Or.inl hp)) <|
    .optional (fun p hp => hpayload p (Or.inr hp)) <|
    .given reads_text <| .given (reads_list fun _ _ => ResolvedAssetGroup.reads _) <|
    .given (reads_list fun _ _ => ResolvedDataGroup.reads _) <|
    .given (reads_map _ fun _ => reads_text) <|
    .given (reads_list fun _ _ => NavigationRule.reads _) .nil

theorem exact_toJson (h : ∀ p, m.HandsOn p → p.value.Exact) : m.toJson.Exact := by
  have hassets : (Value.array (m.assetGroups.map ResolvedAssetGroup.toJson)).Exact :=
    .array_map fun g _ => g.exact_toJson
  have hdata : (Value.array (m.dataGroups.map ResolvedDataGroup.toJson)).Exact :=
    .array_map fun g _ => g.exact_toJson
  have htable : (Value.object (m.hashTable.entries.map fun e => (e.1, Value.string e.2))).Exact :=
    .object (List.forall_mem_map.mpr fun e _ => .string e.2)
  have hrules : (Value.array (m.navigationUrls.map NavigationRule.toJson)).Exact :=
    .array_map fun r _ => r.exact_toJson
  refine .object ?_
  simp only [List.forall_mem_append]
  refine ⟨⟨⟨?_, .member? fun p hp => h p (Or.inl hp)⟩, .member? fun p hp => h p (Or.inr hp)⟩, ?_⟩
  · simp
  · simp [hassets, hdata, htable, hrules]

theorem depth_lt_of_handsOn {p : Payload} (h : m.HandsOn p) : p.value.depth < m.toJson.depth := by
  rcases h with h | h
  · refine Value.depth_lt_of_mem (m := ("appData", p.value)) ?_
    simp [Value.member?, Option.mem_def.mp h]
  · refine Value.depth_lt_of_mem (m := ("push", p.value)) ?_
    simp [Value.member?, Option.mem_def.mp h]

/-- **What the text of a manifest keeps**: data that is handed on is not null and holds no
floating-point numbers, and containers nest less than 128 deep. -/
structure Faithful (m : Manifest) : Prop where
  payload : ∀ p, m.HandsOn p → p.value ≠ .null ∧ p.value.Exact
  depth : m.toJson.depth < 128

/-- **A manifest is read back** from its text. The object of the manifest takes one of the levels. -/
theorem parse_render_of_handsOn (exact : ∀ p, m.HandsOn p → p.value.Exact)
    (h : ∀ p, m.HandsOn p → p.value ≠ .null ∧ p.value.depth < nestLimit) :
    parse m.render = .ok m := by
  have hreads : decoder.Reads (123 + 4) m.toJson m := reads fun p hp => by
    obtain ⟨hnull, hdepth⟩ := h p hp
    exact ⟨hnull, Nat.le_of_lt_succ hdepth⟩
  exact run_pretty hreads (exact_toJson exact)

theorem parse_render (h : m.Faithful) : parse m.render = .ok m := by
  refine parse_render_of_handsOn (fun p hp => (h.payload p hp).2) fun p hp => ?_
  have hpayload := depth_lt_of_handsOn hp
  have hdepth := h.depth
  exact ⟨(h.payload p hp).1, by rw [nestLimit]; omega⟩

/-- **The text of a manifest** can be read back, and tells it apart from every other one. -/
theorem render_faithful :
    (∀ m : Manifest, m.Faithful → parse m.render = .ok m) ∧
      ∀ m m' : Manifest, m.Faithful → m'.Faithful → m.render = m'.render → m = m' := by
  refine ⟨fun m h => parse_render h, fun m m' h h' htext => ?_⟩
  have hparse : parse m.render = .ok m' := htext ▸ parse_render h'
  exact Except.ok.inj ((parse_render h).symm.trans hparse)

/-- A manifest without groups. -/
def plain : Manifest where
  configVersion := currentVersion
  appData := none
  push := none
  index := "/index.html"
  assetGroups := []
  dataGroups := []
  hashTable := .empty
  navigationUrls := [⟨true, "^/.*$"⟩]

/-- A manifest with data for the application, and with a control character in a text. -/
def annotated : Manifest :=
  { plain with
    index := "/\u0001\"é\".html"
    appData := some (.array [.null, .number (.negative 1 (by decide))])
    dataGroups :=
      [{ name := "api", patterns := [], strategy := .freshness, maxSize := 10, maxAge := 0,
         timeout := none, version := 1 }] }

theorem faithful_plain : plain.Faithful where
  payload p h := by rcases h with h | h <;> cases h
  depth := by decide

theorem faithful_annotated : annotated.Faithful where
  payload p h := by
    obtain ⟨⟨⟩⟩ | h := h
    · refine ⟨fun h => (by cases h), .array fun v hv => ?_⟩
      obtain rfl | rfl := List.mem_pair.mp hv
      · exact .null
      · exact .negative 1 _
    · cases h
  depth := by decide

theorem render_faithful_annotated :
    parse annotated.render = .ok annotated ∧ annotated.render ≠ plain.render := by
  refine ⟨render_faithful.1 _ faithful_annotated, fun h => ?_⟩
  have heq := render_faithful.2 _ _ faithful_annotated faithful_plain h
  exact absurd (congrArg Manifest.index heq) (by decide)

end Manifest

end OfflineManifest
