import OfflineManifest.Proofs.Config.Validation
import OfflineManifest.Proofs.Manifest.Precedence

/-! # Groups found by their names

A manifest has one resolved group for each group of its configuration, in the same order and with
the same name (`Manifest.forall₂_assetGroups`, `Manifest.forall₂_dataGroups`). A group is looked for
by its name from the front, so the group at a position is found if no other one has its name. A
configuration that is loaded is valid, which says just that: so every group of its manifest is found
by its name, and nothing else is (`Manifest.names_are_keys`). -/

namespace OfflineManifest

/-- **Values are found by the keys** of what they are made from. -/
structure Keyed {α β : Type} (R : α → β → Prop) (key : α → String) (find? : String → Option β)
    (l : List α) (k : List β) : Prop where
  made : List.Forall₂ R l k
  found : ∀ (i : ℕ) a b, l[i]? = some a → k[i]? = some b → find? (key a) = some b
  missing : ∀ name, name ∉ l.map key → find? name = none

section Keys

variable {α β : Type} {R : α → β → Prop} {key : α → String} {keyOf : β → String} {l : List α}
  {k : List β} {name : String} {i : ℕ} {b : β}

theorem find?_eq_some_of_nodup (hnodup : (k.map keyOf).Nodup) (hb : k[i]? = some b) :
    k.find? (fun c => keyOf c = keyOf b) = some b := by
  have hmem : b ∈ k := List.mem_of_getElem? hb
  cases hfind : k.find? (fun c => keyOf c = keyOf b) with
  | none => exact absurd (decide_eq_true rfl) (List.find?_eq_none.mp hfind b hmem)
  | some c =>
    have hkey : keyOf c = keyOf b := by simpa using List.find?_some hfind
    rw [List.inj_on_of_nodup_map hnodup (List.mem_of_find?_eq_some hfind) hmem hkey]

theorem find?_eq_none_of_not_mem (hname : name ∉ k.map keyOf) :
    k.find? (fun c => keyOf c = name) = none := by
  refine List.find?_eq_none.mpr fun c hc heq => hname ?_
  rw [← of_decide_eq_true heq]
  exact List.mem_map_of_mem hc

theorem map_key_eq (hkey : ∀ a b, R a b → keyOf b = key a) (hmade : List.Forall₂ R l k) :
    k.map keyOf = l.map key := by
  induction hmade with
  | nil => rfl
  | cons hab _ ih => rw [List.map_cons, List.map_cons, hkey _ _ hab, ih]

/-- Distinct keys are handed on. -/
theorem keyed_of_nodup (hkey : ∀ a b, R a b → keyOf b = key a) (hmade : List.Forall₂ R l k)
    (hnodup : (l.map key).Nodup) :
    Keyed R key (fun name => k.find? fun b => keyOf b = name) l k where
  made := hmade
  found i a b ha hb := by
    rw [← map_key_eq hkey hmade] at hnodup
    have hab : keyOf b = key a := by
      obtain ⟨hi, rfl⟩ := List.getElem?_eq_some_iff.mp ha
      obtain ⟨hi', rfl⟩ := List.getElem?_eq_some_iff.mp hb
      exact hkey _ _ (hmade.get hi hi')
    rw [← hab]
    exact find?_eq_some_of_nodup hnodup hb
  missing name hname := by
    rw [← map_key_eq hkey hmade] at hname
    exact find?_eq_none_of_not_mem hname

end Keys

/-- An asset group resolves to one of its name, with its modes and patterns and some files. -/
def AssetGroup.ResolvesTo (base : String) (g : AssetGroup) (r : ResolvedAssetGroup) : Prop :=
  ∃ (m : Matching) (files : List String), m.group = g ∧ r = m.resolved base files

/-- A data group resolves to what its patterns and times become. -/
def DataGroup.ResolvesTo (base : String) (g : DataGroup) (r : ResolvedDataGroup) : Prop :=
  g.resolve base = .ok r

namespace AssetGroup

variable {base : String} {g : AssetGroup} {r : ResolvedAssetGroup}

theorem ResolvesTo.name_eq (h : g.ResolvesTo base r) : r.name = g.name := by
  obtain ⟨m, files, rfl, rfl⟩ := h
  rfl

end AssetGroup

namespace DataGroup

variable {base : String} {g : DataGroup} {r : ResolvedDataGroup}

theorem ResolvesTo.name_eq (h : g.ResolvesTo base r) : r.name = g.name := by
  unfold ResolvesTo resolve at h
  obtain ⟨maxAge, -, h⟩ := except_bind_eq_ok.mp h
  obtain ⟨timeout, -, h⟩ := except_bind_eq_ok.mp h
  cases h
  rfl

end DataGroup

namespace Manifest

variable {base : String} {source : Source} {c : Config} {m : Manifest}

/-- The asset groups of a manifest. -/
theorem forall₂_assetGroups (h : (generate base source c).result = .ok m) :
    List.Forall₂ (AssetGroup.ResolvesTo base) c.assetGroups m.assetGroups := by
  obtain ⟨ms, claimed, hmatched, hgroups⟩ := exists_matched h
  have hlength : (Matching.shares [] ms).length = ms.length := Matching.length_shares
  rw [(Matching.resolveAll_ok hgroups).1, ← hmatched.map_group, List.forall₂_map_left_iff]
  refine List.forall₂_iff_get.mpr ⟨by rw [List.length_zipWith, hlength, min_self], ?_⟩
  intro i hi hi'
  exact ⟨ms[i], (Matching.shares [] ms)[i], rfl, by simp⟩

/-- The data groups of a manifest. -/
theorem forall₂_dataGroups (h : (generate base source c).result = .ok m) :
    List.Forall₂ (DataGroup.ResolvesTo base) c.dataGroups m.dataGroups := by
  obtain ⟨v, -, h⟩ := Run.result_bind_eq_ok.mp h
  obtain ⟨dataGroups, hdata, h⟩ := Run.result_bind_eq_ok.mp h
  rw [(DataGroup.resolveAll_eq base c.dataGroups).1, mapM_eq_ok] at hdata
  cases h
  exact hdata

/-- **Names are keys.** A configuration is found amiss exactly if it is not valid, and what is
reported is the first problem. What is loaded is valid. If a manifest is made of it, the groups of
the manifest are those of the configuration in order, each is found by its name, and nothing is
found by other names. -/
theorem names_are_keys :
    (∀ c : Config, (c.problem? = none ↔ c.Valid) ∧
      ∀ p, c.problem? = some p ↔ c.FirstProblem p) ∧
    ∀ format text c, Config.load format text = .ok c → c.Valid ∧
      ∀ base source m, (generate base source c).result = .ok m →
        Keyed (AssetGroup.ResolvesTo base) (·.name) m.assetGroup? c.assetGroups m.assetGroups ∧
        Keyed (DataGroup.ResolvesTo base) (·.name) m.dataGroup? c.dataGroups m.dataGroups := by
  refine ⟨fun c => ⟨Config.problem?_eq_none, fun p => Config.problem?_eq_some⟩, ?_⟩
  intro format text c load
  have hvalid : c.Valid := (Config.load_eq_ok.mp load).2
  refine ⟨hvalid, fun base source m generated => ⟨?_, ?_⟩⟩
  · exact keyed_of_nodup (fun _ _ h => h.name_eq) (forall₂_assetGroups generated)
      hvalid.assetNames.2
  · exact keyed_of_nodup (fun _ _ h => h.name_eq) (forall₂_dataGroups generated)
      hvalid.dataNames.2

/-- A configuration with groups of both kinds, of which two have the same name. -/
def threeGroups : Config where
  index := "/index.html"
  assetGroups := [{ name := "code" }, { name := "rest" }]
  dataGroups := [{ name := "rest", urls := [], cache := { maxSize := 1, maxAge := "1d" } }]

set_option maxRecDepth 8000 in
theorem load_threeGroups : Config.load .json
    ("\x7b\"index\": \"/index.html\", \"assetGroups\": [\x7b\"name\": \"code\"\x7d, " ++
      "\x7b\"name\": \"rest\"\x7d], \"dataGroups\": [\x7b\"name\": \"rest\", \"urls\": [], " ++
      "\"cacheConfig\": \x7b\"maxSize\": 1, \"maxAge\": \"1d\"\x7d\x7d]\x7d") = .ok threeGroups := by
  decide +kernel

/-- Groups of the two kinds may share a name. -/
theorem names_are_keys_threeGroups :
    ∃ m code rest data, (generate "/" noFiles threeGroups).result = .ok m ∧
      m.assetGroups = [code, rest] ∧ m.dataGroups = [data] ∧ m.assetGroup? "rest" = some rest ∧
      m.dataGroup? "rest" = some data ∧ m.dataGroup? "code" = none := by
  have hdata : ∀ g ∈ threeGroups.dataGroups, ∃ r, g.resolve "/" = .ok r := by
    refine List.forall_mem_singleton.mpr ?_
    have hparse : Duration.parse "1d" = .ok 86400000 := by decide +kernel
    exact ⟨_, by simp only [DataGroup.resolve, DataGroup.milliseconds, hparse]; rfl⟩
  obtain ⟨m, hm⟩ : ∃ m, (generate "/" noFiles threeGroups).result = .ok m :=
    exists_generate_ok (fun _ => ⟨_, rfl⟩) (fun _ _ _ hlist hf => by cases hlist; cases hf) hdata
  obtain ⟨hassets, hdata⟩ := (names_are_keys.2 _ _ _ load_threeGroups).2 "/" noFiles m hm
  obtain ⟨code, _, -, hrest, hcode⟩ := List.forall₂_cons_left_iff.mp hassets.made
  obtain ⟨rest, _, -, hnil, rfl⟩ := List.forall₂_cons_left_iff.mp hrest
  cases hnil
  obtain ⟨data, _, -, hnil, hdataGroups⟩ := List.forall₂_cons_left_iff.mp hdata.made
  cases hnil
  refine ⟨m, code, rest, data, hm, hcode, hdataGroups, ?_, ?_, ?_⟩
  · exact hassets.found 1 _ rest rfl (by rw [hcode]; rfl)
  · exact hdata.found 0 _ data rfl (by rw [hdataGroups]; rfl)
  · exact hdata.missing "code" (by decide)

end Manifest

end OfflineManifest
