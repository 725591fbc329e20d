import Mathlib.Data.List.Basic
import Mathlib.Data.Nat.Digits.Defs
import OfflineManifest.Command.Report
import OfflineManifest.Diagnostic.Render
import OfflineManifest.Proofs.Text.Digits

/-! # Styles on a terminal

A style sequence is an escape character, a bracket, digits and semicolons, and the letter `m`. A
text is *bare* when all its style sequences are deleted (`Style.bare`). Since each starts with an
escape character, no text without such a character takes part in one, whatever it starts with and
whatever stands in front of it: so texts without style sequences and the sequences themselves can be
put one behind the other, and deleting goes through them one by one (`Style.Shows`).

* `Diagnostic.styles_decorate`: what is shown in colour is, without its style sequences, what is
  shown without colour. -/

namespace OfflineManifest

namespace Style

/-! ### Deleting style sequences -/

/-- What may stand between the bracket and the letter of a style sequence. -/
def isParameter (c : Char) : Bool := c.isDigit || c == ';'

/-- The text behind the style sequence that a text starts with, if it starts with one. -/
def behind? : List Char → Option (List Char)
  | '\x1b' :: '[' :: rest =>
    match rest.dropWhile isParameter with
    | 'm' :: behind => some behind
    | _ => none
  | _ => none

variable {c : Char} {codes rest s t : List Char}

/-- **The style sequences** that texts start with. -/
theorem behind?_eq_some : behind? s = some rest ↔
    ∃ codes, (∀ c ∈ codes, isParameter c = true) ∧ s = '\x1b' :: '[' :: (codes ++ 'm' :: rest) := by
  constructor
  · intro h
    unfold behind? at h
    split at h
    · next text =>
      split at h
      · next behind hdrop =>
        obtain rfl := Option.some.inj h
        refine ⟨text.takeWhile isParameter, fun c hc => List.mem_takeWhile_imp hc, ?_⟩
        rw [← hdrop, List.takeWhile_append_dropWhile]
      · cases h
    · cases h
  · rintro ⟨codes, hcodes, rfl⟩
    have hdrop : (codes ++ 'm' :: rest).dropWhile isParameter = 'm' :: rest :=
      Text.dropWhile_append_of_head? hcodes fun c hc => by
        rw [← Option.some.inj hc]
        decide
    simp only [behind?, hdrop]

theorem behind?_of_ne (h : c ≠ '\x1b') : behind? (c :: s) = none := by
  rw [Option.eq_none_iff_forall_ne_some]
  intro rest hrest
  obtain ⟨codes, -, heq⟩ := behind?_eq_some.mp hrest
  exact h (List.cons.inj heq).1

theorem length_lt_of_behind? (h : behind? s = some rest) : rest.length < s.length := by
  obtain ⟨codes, -, rfl⟩ := behind?_eq_some.mp h
  simp only [List.length_cons, List.length_append]
  omega

/-- A text without its style sequences, as a list of characters. -/
def bareChars (text : List Char) : List Char :=
  match text with
  | [] => []
  | c :: rest =>
    match _h : behind? (c :: rest) with
    | some behind => bareChars behind
    | none => c :: bareChars rest
termination_by text.length
decreasing_by
  · exact length_lt_of_behind? (by assumption)
  · exact Nat.lt_succ_self _

/-- **A text without its style sequences.** -/
def bare (text : String) : String := String.ofList (bareChars text.toList)

theorem bareChars_of_behind? (h : behind? s = some rest) : bareChars s = bareChars rest := by
  obtain ⟨codes, -, rfl⟩ := behind?_eq_some.mp h
  rw [bareChars]
  split
  · next behind hbehind =>
    rw [Option.some.inj (hbehind.symm.trans h)]
  · next hbehind => exact absurd (hbehind.symm.trans h) (by simp)

theorem bareChars_cons (h : behind? (c :: s) = none) : bareChars (c :: s) = c :: bareChars s := by
  rw [bareChars]
  split
  · next behind hbehind => exact absurd (hbehind.symm.trans h) (by simp)
  · rfl

/-- A sequence that is not complete is left as it is. -/
example : bare "\x1b[1;31m[0m\x1b[\x1b[m2\x1b[0k" = "[0m\x1b[2\x1b[0k" := by cbv

/-! ### Texts that show others -/

/-- No escape character stands in a text. -/
def Plain (text : String) : Prop := '\x1b' ∉ text.toList

instance (text : String) : Decidable (Plain text) :=
  inferInstanceAs (Decidable (_ ∉ _))

/-- **A text shows another one**, whatever follows: the other one is plain, and it is left of the
text when style sequences are deleted. -/
structure Shows (text shown : String) : Prop where
  plain : Plain shown
  bareChars : ∀ rest, bareChars (text.toList ++ rest) = shown.toList ++ Style.bareChars rest

variable {text shown text' shown' : String}

theorem plain_empty : Plain "" := by decide

theorem Plain.append (h : Plain text) (h' : Plain text') : Plain (text ++ text') := by
  simp only [Plain, String.toList_append, List.mem_append, not_or]
  exact ⟨h, h'⟩

theorem Plain.shows (h : Plain text) : Shows text text where
  plain := h
  bareChars rest := by
    revert h
    unfold Plain
    induction text.toList with
    | nil => exact fun _ => rfl
    | cons c s ih =>
      intro h
      rw [List.mem_cons, not_or] at h
      rw [List.cons_append, bareChars_cons (behind?_of_ne (Ne.symm h.1)), ih h.2, List.cons_append]

theorem Shows.append (h : Shows text shown) (h' : Shows text' shown') :
    Shows (text ++ text') (shown ++ shown') where
  plain := h.plain.append h'.plain
  bareChars rest := by
    rw [String.toList_append, List.append_assoc, h.bareChars, h'.bareChars, String.toList_append,
      List.append_assoc]

theorem Shows.bare (h : Shows text shown) : Style.bare text = shown := by
  have hnil : Style.bareChars [] = [] := by rw [Style.bareChars]
  have hbare := h.bareChars []
  rw [List.append_nil, hnil, List.append_nil] at hbare
  rw [Style.bare, hbare, String.ofList_toList]

theorem shows_start {code : String} (h : code.toList.all isParameter = true) :
    Shows (start code) "" where
  plain := plain_empty
  bareChars rest := by
    have htext : (start code).toList ++ rest = '\x1b' :: '[' :: (code.toList ++ 'm' :: rest) := by
      simp [start, toString]
    exact bareChars_of_behind? (behind?_eq_some.mpr ⟨_, List.all_eq_true.mp h, htext⟩)

theorem shows_join {α : Type} {f g : α → String} {l : List α} (h : ∀ a ∈ l, Shows (f a) (g a)) :
    Shows (String.join (l.map f)) (String.join (l.map g)) := by
  induction l with
  | nil => exact plain_empty.shows
  | cons a l ih =>
    simp only [List.map_cons, String.join_cons]
    exact (h a List.mem_cons_self).append (ih fun b hb => h b (List.mem_cons_of_mem a hb))

end Style

/-! ### Diagnostics in colour -/

open Style

theorem Severity.plain_name (severity : Severity) : Plain severity.name := by
  cases severity <;> decide

theorem Severity.shows_style (severity : Severity) : Shows severity.style "" := by
  cases severity <;> exact shows_start (by decide)

theorem DiagnosticCode.plain_text (c : DiagnosticCode) : Plain c.text := by
  have hletter : Plain (String.ofList (c.series.letter ::
      List.replicate (3 - (toString c.number.toNat).length) '0')) := by
    cases hseries : c.series <;> simp [Plain, Series.letter]
  have hdigits : Plain (toString c.number.toNat) := by
    intro h
    have hdigit := Nat.isDigit_of_mem_toDigits (b := 10) (n := c.number.toNat) (by decide)
      (by decide) (by simpa [toString, Nat.repr] using h)
    exact absurd hdigit (by decide)
  exact hletter.append hdigits

namespace Diagnostic

/-- No escape character stands in the texts of a diagnostic. -/
structure Plain (d : Diagnostic) : Prop where
  message : Style.Plain d.message
  location : ∀ location ∈ d.location, Style.Plain location
  notes : ∀ note ∈ d.notes, Style.Plain note
  help : ∀ help ∈ d.help, Style.Plain help

variable {d : Diagnostic} {configName : Option String}

theorem plain_label (d : Diagnostic) : Style.Plain (d.severity.name ++ "[" ++ d.code.text ++ "]") :=
  ((d.severity.plain_name.append (by decide)).append d.code.plain_text).append (by decide)

theorem shows_headline (hd : d.Plain) : Shows (d.headline true) (d.headline false) := by
  have hlabel := d.plain_label.shows
  have hreset : Shows Style.reset "" := shows_start (by decide)
  have hbold : Shows (Style.start "1") "" := shows_start (by decide)
  have hcolon : Shows ": " ": " := Plain.shows (by decide)
  have hline : Shows "\n" "\n" := Plain.shows (by decide)
  have hopen := (d.severity.shows_style.append hlabel).append (hreset.append hbold)
  have hshown := ((hopen.append hcolon).append hd.message.shows).append (hreset.append hline)
  simpa [headline, toString, String.append_assoc] using hshown

theorem plain_placeLine (hd : d.Plain) (hname : ∀ name ∈ configName, Style.Plain name) :
    Style.Plain (d.placeLine configName) := by
  have harrow {text : String} (h : Style.Plain text) : Style.Plain ("  --> " ++ text ++ "\n") :=
    ((by decide : Style.Plain "  --> ").append h).append (by decide)
  unfold placeLine
  split
  · next file location hlocation =>
    have hcolon : Style.Plain ": " := by decide
    have hplace := ((hname file rfl).append hcolon).append (hd.location location hlocation)
    simpa [toString, String.append_assoc] using harrow hplace
  · next location hlocation => exact harrow (hd.location location hlocation)
  · next file _ => exact harrow (hname file rfl)
  · exact plain_empty

/-- **A diagnostic in colour shows what it is without colour.** -/
theorem shows_render (hd : d.Plain) (hname : ∀ name ∈ configName, Style.Plain name) :
    Shows (d.render true configName) (d.render false configName) := by
  have hnotes (note : String) (hnote : note ∈ d.notes) : Style.Plain s!"   = note: {note}\n" :=
    ((by decide : Style.Plain "   = note: ").append (hd.notes note hnote)).append (by decide)
  have hhelp (help : String) (hmem : help ∈ d.help) : Style.Plain s!"   = help: {help}\n" :=
    ((by decide : Style.Plain "   = help: ").append (hd.help help hmem)).append (by decide)
  have hhead := (shows_headline hd).append (plain_placeLine hd hname).shows
  exact (hhead.append (shows_join fun note hnote => (hnotes note hnote).shows)).append
    (shows_join fun help hmem => (hhelp help hmem).shows)

/-- **Colour is decoration.** If no escape character stands in a diagnostic or in the name of the
configuration, then what is shown in colour is, without its style sequences, what is shown without
colour, where no escape character stands at all. The same holds of many diagnostics one below the
other, all or the errors only, and so of reports. -/
theorem styles_decorate :
    (∀ (d : Diagnostic) (configName : Option String), d.Plain →
      (∀ name ∈ configName, Style.Plain name) →
      bare (d.render true configName) = d.render false configName ∧
        Style.Plain (d.render false configName)) ∧
    (∀ (quiet : Bool) (ds : List Diagnostic) (configName : Option String), (∀ d ∈ ds, d.Plain) →
      (∀ name ∈ configName, Style.Plain name) →
      bare (String.join ((visible quiet ds).map (render true configName))) =
          String.join ((visible quiet ds).map (render false configName)) ∧
        Style.Plain (String.join ((visible quiet ds).map (render false configName)))) ∧
    ∀ (m : OutputMode) (config : String) (ds : List Diagnostic), (∀ d ∈ ds, d.Plain) →
      Style.Plain (OfflineManifest.configName config) →
      bare (textReport { m with color := true } config ds) =
          textReport { m with color := false } config ds ∧
        Style.Plain (textReport { m with color := false } config ds) := by
  have hall (quiet : Bool) (ds : List Diagnostic) (configName : Option String)
      (hds : ∀ d ∈ ds, d.Plain) (hname : ∀ name ∈ configName, Style.Plain name) :
      Shows (String.join ((visible quiet ds).map (render true configName)))
        (String.join ((visible quiet ds).map (render false configName))) :=
    shows_join fun d hd => shows_render (hds d (List.mem_of_mem_filter hd)) hname
  refine ⟨fun d configName hd hname => ?_, fun quiet ds configName hds hname => ?_,
    fun m config ds hds hname => ?_⟩
  · exact ⟨(shows_render hd hname).bare, (shows_render hd hname).plain⟩
  · exact ⟨(hall quiet ds configName hds hname).bare, (hall quiet ds configName hds hname).plain⟩
  · have hreport := hall m.quiet ds (some (OfflineManifest.configName config)) hds (by simpa)
    exact ⟨hreport.bare, hreport.plain⟩

/-- A diagnostic whose texts look like parts of style sequences. -/
def lookalike : Diagnostic where
  severity := .error
  code := .invalidDataGroup
  message := "1;31m[0m"
  location := some "[m"
  notes := ["0m"]
  help := [";"]

theorem styles_decorate_lookalike :
    lookalike.Plain ∧ (∀ name ∈ some "[1m.json", Style.Plain name) ∧
      (∀ d ∈ [versionedFiles "app", lookalike], d.Plain) ∧
      Style.Plain (OfflineManifest.configName "conf/[1m.json") ∧
      lookalike.render true (some "[1m.json") ≠ lookalike.render false (some "[1m.json") ∧
      bare (lookalike.render true (some "[1m.json")) =
        "error[E001]: 1;31m[0m\n  --> [1m.json: [m\n   = note: 0m\n   = help: ;\n" ∧
      bare (String.join ((visible true [versionedFiles "app", lookalike]).map (render true none))) =
        "error[E001]: 1;31m[0m\n  --> [m\n   = note: 0m\n   = help: ;\n" ∧
      bare (textReport { quiet := true, color := true } "conf/[1m.json"
          [versionedFiles "app", lookalike]) =
        "error[E001]: 1;31m[0m\n  --> [1m.json: [m\n   = note: 0m\n   = help: ;\n" := by
  have hplain : lookalike.Plain := ⟨by decide, by decide, by decide, by decide⟩
  have hall : ∀ d ∈ [versionedFiles "app", lookalike], d.Plain := by
    refine List.forall_mem_cons.mpr ⟨?_, List.forall_mem_singleton.mpr hplain⟩
    exact ⟨by decide, by decide, by decide, by decide⟩
  have hname : ∀ name ∈ some "[1m.json", Style.Plain name := by decide
  have hconfig : Style.Plain (OfflineManifest.configName "conf/[1m.json") := by decide
  obtain ⟨hsingle, hmany, hreport⟩ := styles_decorate
  refine ⟨hplain, hname, hall, hconfig, by decide, ?_, ?_, ?_⟩
  · rw [(hsingle lookalike (some "[1m.json") hplain hname).1]
    decide
  · rw [(hmany true _ none hall (by simp)).1]
    decide
  · rw [(hreport { quiet := true, color := true } "conf/[1m.json" _ hall hconfig).1]
    decide

end Diagnostic

end OfflineManifest
