import OfflineManifest.Proofs.Config.Validation
import OfflineManifest.Proofs.Json.Thorough

/-! # Configurations rearranged

At each level of a configuration in JSON, the members may stand in any order, and there may be others
whose names are those of no field, with any values (`Config.Rearranged`). Every decoder of a part
reads what is rearranged as before, and reads nothing that could not be read over. So what is loaded
is a document, and is loaded as the same configuration when it is rearranged
(`Config.load_rearranged`). Only a name that is no text, because it holds half a character, is refused
(`Config.not_load_rearranged`). -/

namespace OfflineManifest

open Json Outline Decoder

theorem thorough_globList : globList.Thorough := thorough_textOrList _

variable {names : Lexeme → Prop}
  (hnames : ∀ t, t.skip = .ok () → names t → ∃ key, t.text? = .ok key)

namespace Resources

/-- Resources are rearranged. -/
def Rearranged (names : Lexeme → Prop) : Outline → Outline → Prop :=
  Outline.Rearranged names [("files", Eq), ("versionedFiles", Eq), ("urls", Eq)]

include hnames in
theorem respects : decoder.Respects (Rearranged names) :=
  respects_record hnames (by decide) <|
    .cons ⟨rfl, respects_eq⟩ <| .cons ⟨rfl, respects_eq⟩ <| .cons ⟨rfl, respects_eq⟩ .nil

theorem thorough : decoder.Thorough :=
  thorough_record ⟨thorough_globList, thorough_globList, thorough_globList⟩

end Resources

namespace AssetGroup

/-- An asset group is rearranged, and its resources are. -/
def Rearranged (names : Lexeme → Prop) : Outline → Outline → Prop :=
  Outline.Rearranged names
    [("name", Eq), ("installMode", Eq), ("updateMode", Eq),
      ("resources", Resources.Rearranged names)]

include hnames in
theorem respects : decoder.Respects (Rearranged names) :=
  respects_record hnames (by decide) <|
    .cons ⟨rfl, respects_eq⟩ <| .cons ⟨rfl, respects_eq⟩ <| .cons ⟨rfl, respects_eq⟩ <|
    .cons ⟨rfl, Resources.respects hnames⟩ .nil

theorem thorough : decoder.Thorough :=
  thorough_record ⟨thorough_text, thorough_nullable (thorough_oneOf _),
    thorough_nullable (thorough_oneOf _), Resources.thorough⟩

end AssetGroup

namespace CachePolicy

/-- A cache policy is rearranged. -/
def Rearranged (names : Lexeme → Prop) : Outline → Outline → Prop :=
  Outline.Rearranged names [("maxSize", Eq), ("maxAge", Eq), ("timeout", Eq), ("strategy", Eq)]

include hnames in
theorem respects : decoder.Respects (Rearranged names) :=
  respects_record hnames (by decide) <|
    .cons ⟨rfl, respects_eq⟩ <| .cons ⟨rfl, respects_eq⟩ <| .cons ⟨rfl, respects_eq⟩ <|
    .cons ⟨rfl, respects_eq⟩ .nil

theorem thorough : decoder.Thorough :=
  thorough_record ⟨thorough_uint64, thorough_text, thorough_nullable thorough_text,
    thorough_nullable (thorough_oneOf _)⟩

end CachePolicy

namespace DataGroup

/-- A data group is rearranged, and its cache policy is. -/
def Rearranged (names : Lexeme → Prop) : Outline → Outline → Prop :=
  Outline.Rearranged names
    [("name", Eq), ("urls", Eq), ("version", Eq), ("cacheConfig", CachePolicy.Rearranged names)]

include hnames in
theorem respects : decoder.Respects (Rearranged names) :=
  respects_record hnames (by decide) <|
    .cons ⟨rfl, respects_eq⟩ <| .cons ⟨rfl, respects_eq⟩ <| .cons ⟨rfl, respects_eq⟩ <|
    .cons ⟨rfl, CachePolicy.respects hnames⟩ .nil

theorem thorough : decoder.Thorough :=
  thorough_record ⟨thorough_text, thorough_globList, thorough_nullable thorough_uint32,
    CachePolicy.thorough⟩

end DataGroup

namespace Config

/-- **A configuration is rearranged**, at any of its levels. -/
def Rearranged (names : Lexeme → Prop) : Outline → Outline → Prop :=
  Outline.Rearranged names
    [("index", Eq), ("appData", Eq), ("push", Eq),
      ("assetGroups", Each (AssetGroup.Rearranged names)),
      ("dataGroups", Each (DataGroup.Rearranged names)), ("navigationUrls", Eq)]

include hnames in
theorem respects : decoder.Respects (Rearranged names) :=
  respects_record hnames (by decide) <|
    .cons ⟨rfl, respects_eq⟩ <| .cons ⟨rfl, respects_eq⟩ <| .cons ⟨rfl, respects_eq⟩ <|
    .cons ⟨rfl, respects_list (AssetGroup.respects hnames)⟩ <|
    .cons ⟨rfl, respects_list (DataGroup.respects hnames)⟩ <| .cons ⟨rfl, respects_eq⟩ .nil

theorem thorough : decoder.Thorough :=
  thorough_record ⟨thorough_text, thorough_nullable thorough_anyValue,
    thorough_nullable thorough_anyValue,
    thorough_list AssetGroup.thorough, thorough_list DataGroup.thorough,
    thorough_nullable (thorough_list thorough_text)⟩

/-- **What is loaded is a document.** -/
theorem exists_isDocument_of_load {text : String} {c : Config} (h : load .json text = .ok c) :
    ∃ o, IsDocument text o := by
  obtain ⟨o, ho, -⟩ := thorough.isDocument (load_json_eq_ok.mp h).1
  exact ⟨o, ho⟩

/-- What is loaded from a document is read from its outline. -/
theorem load_document_eq_ok {text : String} {o : Outline} {c : Config} (h : IsDocument text o) :
    load .json text = .ok c ↔ decoder nestLimit o = .ok c ∧ c.problem? = none := by
  have hrun : decoder.run text = .ok c ↔ decoder nestLimit o = .ok c := by
    simp [run_eq_ok, h.ofText]
  rw [load_json_eq_ok, hrun, problem?_eq_none]

/-- **What is loaded is a document**, and is loaded as the same configuration when it is rearranged:
at each level members may stand in any order, and there may be others whose names are texts, but not
the names of fields, with any values. -/
theorem load_rearranged {text : String} {c : Config} (hload : load .json text = .ok c) :
    (∃ o, IsDocument text o) ∧ ∀ o text' o', IsDocument text o → IsDocument text' o' →
      Rearranged Lexeme.IsText o o' → load .json text' = .ok c := by
  refine ⟨exists_isDocument_of_load hload, fun o text' o' htext htext' h => ?_⟩
  have hnames : ∀ t : Lexeme, t.skip = .ok () → t.IsText → ∃ key, t.text? = .ok key :=
    fun t hskip => (Lexeme.exists_text?_iff (Lexeme.skip_eq_ok.mp hskip)).mpr
  obtain ⟨hread, hproblem⟩ := (load_document_eq_ok htext).mp hload
  have hread' := respects hnames nestLimit o o' c h htext'.skip hread
  exact (load_document_eq_ok htext').mpr ⟨hread', hproblem⟩

/-! ### Two documents -/

/-- A character stands in a string as it is. -/
def isPlain (c : Char) : Bool := c != '"' && c != '\\' && 0x20 ≤ c.toNat

/-- A string that is written without escapes. -/
def plain (s : String) : Lexeme := ⟨s.toList.map .char, .closed⟩

/-- The text of such a string. -/
def quoted (s : String) : List Char := '"' :: ((s.toList.map fun c => [c]).flatten ++ ['"'])

theorem spelledBy_plain (s : String) (h : s.toList.all isPlain = true) :
    (plain s).SpelledBy (quoted s) := by
  refine .quoted ?_
  rw [List.forall₂_map_left_iff, List.forall₂_map_right_iff, List.forall₂_same]
  intro c hc
  have hplain : (c ≠ '"' ∧ c ≠ '\\') ∧ 0x20 ≤ c.toNat := by
    simpa [isPlain] using List.all_eq_true.mp h c hc
  exact .plain hplain.1.1 hplain.1.2 (Nat.not_lt.mpr hplain.2)

/-- A short document. -/
def shortText : String := "\x7b\"index\":\"/i\",\"assetGroups\":[\x7b\"name\":\"a\"\x7d]\x7d"

/-- Its outline. -/
def short : Outline :=
  .object [(plain "index", .string (plain "/i")), (plain "assetGroups", .array [.object
    [(plain "name", .string (plain "a"))] .closed] .closed)] .closed

/-- The same in another order, and with more members. -/
def longText : String :=
  "\x7b\"x\":[-0.5E+999],\"assetGroups\":[\x7b\"\":null,\"name\":\"a\"\x7d],\"index\":\"/i\"\x7d"

/-- An array with a number that is far out of range. -/
def farNumber : Outline :=
  .array [.number ⟨true, ['0'], ['5'], some (false, ['9', '9', '9'])⟩] .closed

/-- The group with one more member. -/
def longGroup : Outline := .object [(plain "", .null), (plain "name", .string (plain "a"))] .closed

/-- The outline of the second document. -/
def long : Outline :=
  .object [(plain "x", farNumber), (plain "assetGroups", .array [longGroup] .closed),
    (plain "index", .string (plain "/i"))] .closed

/-- The text of a member without escapes in its name, and without blanks. -/
theorem spelledBy_member {o : Outline} {text : List Char} (name : String)
    (hname : name.toList.all isPlain = true) (h : o.SpelledBy text) :
    MembersSpelledBy [(plain name, o)] ([] ++ (quoted name ++ ([] ++ ':' :: ([] ++ text))) ++ []) :=
  .single blank_nil (spelledBy_plain name hname) blank_nil blank_nil h blank_nil

theorem isDocument_short : IsDocument shortText short := by
  have hname := spelledBy_member "name" (by decide) (.string (spelledBy_plain "a" (by decide)))
  have hgroups := spelledBy_member "assetGroups" (by decide)
    (.array (.single blank_nil (.object hname) blank_nil))
  have hindex := spelledBy_member "index" (by decide) (.string (spelledBy_plain "/i" (by decide)))
  exact ⟨[], _, [], blank_nil, .object (.append hindex hgroups), blank_nil, by decide⟩

theorem isDocument_long : IsDocument longText long := by
  have hnumber : (Outline.number ⟨true, ['0'], ['5'], some (false, ['9', '9', '9'])⟩).SpelledBy
      (['-'] ++ (['0'] ++ (['.', '5'] ++ ['E', '+', '9', '9', '9']))) :=
    .number (.signed ⟨⟨by decide, List.all_eq_true.mp rfl⟩, by decide⟩
      (.point ⟨by decide, List.all_eq_true.mp rfl⟩)
      (.plus (Or.inr rfl) ⟨by decide, List.all_eq_true.mp rfl⟩))
  have hx := spelledBy_member "x" (by decide) (.array (.single blank_nil hnumber blank_nil))
  have hnull := spelledBy_member "" (by decide) .null
  have hname := spelledBy_member "name" (by decide) (.string (spelledBy_plain "a" (by decide)))
  have hgroups := spelledBy_member "assetGroups" (by decide)
    (.array (.single blank_nil (.object (.append hnull hname)) blank_nil))
  have hindex := spelledBy_member "index" (by decide) (.string (spelledBy_plain "/i" (by decide)))
  exact ⟨[], _, [], blank_nil, .object (.append hx (.append hgroups hindex)), blank_nil, by decide⟩

theorem rearranged_longGroup : AssetGroup.Rearranged Lexeme.IsText
    (.object [(plain "name", .string (plain "a"))] .closed) longGroup := by
  have hnew : ∀ name ∈ ["name", "installMode", "updateMode", "resources"],
      (plain "").text? ≠ .ok name := by decide
  have hperm : [(plain "", Outline.null), (plain "name", .string (plain "a"))].Perm
      ([(plain "name", .string (plain "a"))] ++ [(plain "", .null)]) := .swap _ _ _
  refine .object .closed (.cons (.other _) .nil) (List.forall_mem_singleton.mpr ?_) hperm
  exact ⟨Lexeme.Paired.nil, fun f hf => hnew f.1 (List.mem_map_of_mem hf)⟩

theorem rearranged_long : Rearranged Lexeme.IsText short long := by
  have hnew : ∀ name ∈ ["index", "appData", "push", "assetGroups", "dataGroups", "navigationUrls"],
      (plain "x").text? ≠ .ok name := by decide
  have hfield : (plain "assetGroups").text? = .ok "assetGroups" := by decide
  have hgroups : Each (AssetGroup.Rearranged Lexeme.IsText)
      (.array [.object [(plain "name", .string (plain "a"))] .closed] .closed)
      (.array [longGroup] .closed) := .array .closed (.cons rearranged_longGroup .nil)
  have hperm := List.reverse_perm ([(plain "index", .string (plain "/i")),
    (plain "assetGroups", .array [longGroup] .closed)] ++ [(plain "x", farNumber)])
  refine .object .closed (.cons (.other _) (.cons (.field hfield (by simp) hgroups) .nil))
    (List.forall_mem_singleton.mpr ?_) hperm
  exact ⟨.char 'x' .nil, fun f hf => hnew f.1 (List.mem_map_of_mem hf)⟩

theorem load_short : load .json shortText = .ok { index := "/i", assetGroups := [{ name := "a" }] } :=
  (load_document_eq_ok isDocument_short).mpr ⟨by decide, by decide⟩

theorem load_rearranged_long : IsDocument shortText short ∧ IsDocument longText long ∧
    Rearranged Lexeme.IsText short long ∧
      load .json shortText = .ok { index := "/i", assetGroups := [{ name := "a" }] } ∧
      load .json longText = .ok { index := "/i", assetGroups := [{ name := "a" }] } :=
  ⟨isDocument_short, isDocument_long, rearranged_long, load_short,
    (load_rearranged load_short).2 short longText long isDocument_short isDocument_long
      rearranged_long⟩

/-! ### Half a character -/

/-- A document with half a character as a name. -/
def half : Outline :=
  .object [(plain "index", .string (plain "/i")), (⟨[.unit 0xD800], .closed⟩, .null)] .closed

theorem isDocument_half :
    IsDocument "\x7b\"index\":\"/i\",\"\\ud800\":null\x7d" half := by
  have hindex := spelledBy_member "index" (by decide) (.string (spelledBy_plain "/i" (by decide)))
  have hunit : (Piece.unit 0xD800).SpelledBy ['\\', 'u', 'd', '8', '0', '0'] := by
    have hd : Lexeme.hexValue? 'd' = some 13 := rfl
    have height : Lexeme.hexValue? '8' = some 8 := rfl
    have hzero : Lexeme.hexValue? '0' = some 0 := rfl
    exact .unit hd height hzero hzero
  have hhalf := MembersSpelledBy.single blank_nil (.quoted (.cons hunit .nil)) blank_nil blank_nil
    .null blank_nil
  exact ⟨[], _, [], blank_nil, .object (.append hindex hhalf), blank_nil, by decide⟩

theorem isDocument_index : IsDocument "\x7b\"index\":\"/i\"\x7d"
    (.object [(plain "index", .string (plain "/i"))] .closed) := by
  have hindex := spelledBy_member "index" (by decide) (.string (spelledBy_plain "/i" (by decide)))
  exact ⟨[], _, [], blank_nil, .object hindex, blank_nil, by decide⟩

/-- **A name that is no text is refused**, so members with any names cannot be added. -/
theorem not_load_rearranged : ¬ ∀ (text text' : String) (o o' : Outline) (c : Config),
    IsDocument text o → IsDocument text' o' → Rearranged (fun _ => True) o o' →
      load .json text = .ok c → load .json text' = .ok c := by
  intro h
  have hload : load .json "\x7b\"index\":\"/i\"\x7d" = .ok { index := "/i" } :=
    (load_document_eq_ok isDocument_index).mpr ⟨by decide, by decide⟩
  have hnew : ∀ name ∈ ["index", "appData", "push", "assetGroups", "dataGroups", "navigationUrls"],
      Lexeme.text? ⟨[.unit 0xD800], .closed⟩ ≠ .ok name := by decide
  have hhalf : Rearranged (fun _ => True) (.object [(plain "index", .string (plain "/i"))] .closed)
      half :=
    .object .closed (.cons (.other _) .nil) (List.forall_mem_singleton.mpr
      ⟨trivial, fun f hf => hnew f.1 (List.mem_map_of_mem hf)⟩) (List.Perm.refl _)
  have hrefused : decoder nestLimit half = .error .hexEscapeEnd := by decide
  have hloaded := h _ _ _ _ _ isDocument_index isDocument_half hhalf hload
  cases hrefused.symm.trans ((load_document_eq_ok isDocument_half).mp hloaded).1

end Config

end OfflineManifest
