import OfflineManifest.Proofs.Config.Validation
import OfflineManifest.Proofs.Json.Decoded
import OfflineManifest.Proofs.Manifest.Publication
import OfflineManifest.Proofs.Manifest.RoundTrip

/-! # Payloads handed on

A manifest hands on the payloads of its configuration as they are (`Manifest.handsOn_iff`). Whether
a published manifest can be read back is a matter of these payloads alone
(`Manifest.reread_of_published`): it can if they are not null, which stands for their absence, and
leave one level of nesting for the manifest around them. Payloads that were read from JSON are like
that. Those from TOML need not be: a floating-point number that is not finite becomes null there,
and dotted keys nest without brackets. -/

namespace OfflineManifest

open Json Decoder

section Given

variable {n : ℕ} {p : Payload} {value : Option Payload}

theorem levels_of_given (h : (∃ o, nullable anyValue n o = .ok value) ∨ some none = some value)
    (hp : p ∈ value) : p.value ≠ .null ∧ p.value.depth ≤ n := by
  rcases h with ⟨o, ho⟩ | h
  · exact not_null_of_nullable ho hp
  · cases h
    cases hp

end Given

/-- The data that a configuration hands on. -/
def Config.HandsOn (c : Config) (p : Payload) : Prop := p ∈ c.appData ∨ p ∈ c.push

/-- Data read with a configuration leaves one level for the object around it. -/
theorem Config.levels_of_run {c : Config} {text : String} {p : Payload}
    (h : Config.decoder.run text = .ok c) (hp : c.HandsOn p) :
    p.value ≠ .null ∧ p.value.depth < nestLimit := by
  obtain ⟨o, -, ho⟩ := run_eq_ok.mp h
  obtain ⟨⟨index, appData, push, assetGroups, dataGroups, navigationUrls, ⟨⟩⟩, hgiven, rfl⟩ :=
    exists_given_of_record ho
  obtain ⟨-, happData, hpush, -⟩ := hgiven
  rcases hp with hp | hp
  · exact (levels_of_given happData hp).imp_right Nat.lt_succ_of_le
  · exact (levels_of_given hpush hp).imp_right Nat.lt_succ_of_le

namespace Manifest

variable {m : Manifest} {text : String} {p : Payload}

/-- Data read with a manifest leaves one level for the object around it. -/
theorem levels_of_parse (h : parse text = .ok m) (hp : m.HandsOn p) :
    p.value ≠ .null ∧ p.value.depth < nestLimit := by
  obtain ⟨o, -, ho⟩ := run_eq_ok.mp h
  obtain ⟨⟨configVersion, appData, push, index, assetGroups, dataGroups, hashTable,
    navigationUrls, ⟨⟩⟩, hgiven, rfl⟩ := exists_given_of_record ho
  obtain ⟨-, happData, hpush, -⟩ := hgiven
  rcases hp with hp | hp
  · exact (levels_of_given happData hp).imp_right Nat.lt_succ_of_le
  · exact (levels_of_given hpush hp).imp_right Nat.lt_succ_of_le

/-- **Which manifests are read back** from their text. -/
theorem parse_render_iff (exact : ∀ p, m.HandsOn p → p.value.Exact) :
    parse m.render = .ok m ↔ ∀ p, m.HandsOn p → p.value ≠ .null ∧ p.value.depth < nestLimit :=
  ⟨fun h _ => levels_of_parse h, parse_render_of_handsOn exact⟩

theorem handsOn_iff {base : String} {source : Source} {c : Config}
    (h : (generate base source c).result = .ok m) : m.HandsOn p ↔ c.HandsOn p := by
  unfold generate at h
  obtain ⟨v, -, h⟩ := Run.result_bind_eq_ok.mp h
  obtain ⟨dataGroups, -, h⟩ := Run.result_bind_eq_ok.mp h
  cases h
  rfl

theorem read_of_published {base path : String} {c : Config} {s t : MemoryStore}
    (h : Published base path c m s t) : FileStore.read t path = .ok m.render := by
  cases write_of_published h.written
  exact MemoryStore.read_put s path m.render

/-- **What can be read back of a published manifest.** If the payloads of a configuration hold no
floating-point numbers, its manifest is read back exactly if they are not null and leave one level
of nesting; payloads from JSON always do. -/
theorem reread_of_published {base path : String} {format : ConfigFormat} {c : Config}
    {s t : MemoryStore} (load : Config.load format text = .ok c)
    (exact : ∀ p, c.HandsOn p → p.value.Exact) (published : Published base path c m s t) :
    ∃ written, FileStore.read t path = .ok written ∧
      (parse written = .ok m ↔
        ∀ p, c.HandsOn p → p.value ≠ .null ∧ p.value.depth < nestLimit) ∧
      (format = .json → parse written = .ok m) := by
  have hhands : ∀ p, m.HandsOn p ↔ c.HandsOn p := fun p => handsOn_iff published.generated
  have hiff : parse m.render = .ok m ↔
      ∀ p, c.HandsOn p → p.value ≠ .null ∧ p.value.depth < nestLimit := by
    rw [parse_render_iff fun p hp => exact p ((hhands p).mp hp)]
    simp only [hhands]
  refine ⟨m.render, read_of_published published, hiff, ?_⟩
  rintro rfl
  exact hiff.mpr fun p => Config.levels_of_run (Config.load_json_eq_ok.mp load).1

/-! ### A payload that is kept, and one that is not -/

/-- A configuration with a nested payload. -/
def tagged : Config where
  index := "/index.html"
  appData := some (.object (KeyMap.ofList [("tags", .array [.null, .bool true])]))

/-- A configuration whose payload is null. -/
def voided : Config where
  index := "/index.html"
  appData := some .null

set_option maxRecDepth 4000 in
theorem load_tagged : Config.load .json
    "\x7b\"index\": \"/index.html\", \"appData\": \x7b\"tags\": [null, true]\x7d\x7d" = .ok tagged := by
  decide +kernel

theorem load_voided :
    Config.load .toml "index = \"/index.html\"\nappData = nan\n" = .ok voided := by
  decide +kernel

theorem exact_tagged {p : Payload} (h : tagged.HandsOn p) : p.value.Exact := by
  obtain ⟨⟨⟩⟩ | h := h
  · refine .object fun e he => ?_
    obtain rfl := List.mem_singleton.mp he
    refine .array fun v hv => ?_
    obtain rfl | rfl := List.mem_pair.mp hv
    · exact .null
    · exact .bool true
  · cases h

/-- A payload from JSON is read back. -/
theorem reread_of_published_tagged :
    ∃ m t, Published "/" "/ngsw.json" tagged m memory t ∧
      ∃ written, FileStore.read t "/ngsw.json" = .ok written ∧ parse written = .ok m := by
  obtain ⟨m, t, hpublished⟩ := exists_published_memory (c := tagged) rfl
  obtain ⟨written, hread, -, hjson⟩ :=
    reread_of_published load_tagged (fun _ => exact_tagged) hpublished
  exact ⟨m, t, hpublished, written, hread, hjson rfl⟩

/-- **A number that is not finite** becomes null in a payload, and no payload when it is read
back. -/
theorem not_reread_of_nan :
    ∃ c m t, Config.load .toml "index = \"/index.html\"\nappData = nan\n" = .ok c ∧
      (∀ p, c.HandsOn p → p.value.Exact) ∧ Published "/" "/ngsw.json" c m memory t ∧
        ∀ written, FileStore.read t "/ngsw.json" = .ok written → parse written ≠ .ok m := by
  obtain ⟨m, t, hpublished⟩ := exists_published_memory (c := voided) rfl
  have hvoided : voided.HandsOn .null := Or.inl rfl
  refine ⟨voided, m, t, load_voided, ?_, hpublished, fun written hread hparse => ?_⟩
  · rintro p (⟨⟨⟩⟩ | h)
    · exact .null
    · cases h
  · cases (read_of_published hpublished).symm.trans hread
    exact (levels_of_parse hparse ((handsOn_iff hpublished.generated).mpr hvoided)).1 rfl

end Manifest

end OfflineManifest
