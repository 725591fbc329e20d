import OfflineManifest.Command.Report
import OfflineManifest.Proofs.Json.Reading

/-! # What reports carry

A diagnostic is read back from its JSON form, where what is absent or empty is left out
(`Diagnostic.reads`). So the report for programs carries all diagnostics in order, in quiet mode too,
while the report for people then carries the errors only (`report_carries`). -/

namespace OfflineManifest

open Json Decoder Field

variable {n : ℕ}

theorem Severity.reads (severity : Severity) :
    (oneOf Severity.names).Reads n (.string severity.name) severity :=
  reads_oneOf (by cases severity <;> rfl)

theorem Series.reads (series : Series) :
    (oneOf Series.names).Reads n (.string series.name) series :=
  reads_oneOf (by cases series <;> rfl)

/-! ### Diagnostics read back -/

namespace DiagnosticCode

theorem reads (c : DiagnosticCode) : decoder.Reads (n + 1) c.toJson c :=
  reads_record (by decide) (.given (Series.reads _) (.given (reads_uint16 _) .nil))

theorem exact_toJson (c : DiagnosticCode) : c.toJson.Exact :=
  .object (by simp)

end DiagnosticCode

namespace Diagnostic

/-- A list that is left out if it is empty is read back. -/
theorem fills_listMember {fs : List Field} {ms : List (String × Value)} {as : Values fs}
    (name : String) (texts : List String) (h : Fills (n + 1) fs ms as) :
    Fills (n + 1) (.withDefault name (list text) [] :: fs) (listMember name texts ++ ms)
      (texts, as) := by
  cases texts with
  | nil => exact .omitted rfl h
  | cons t texts => exact .given (reads_texts (t :: texts)) h

theorem reads (d : Diagnostic) : decoder.Reads (n + 2) d.toJson d := by
  rw [toJson, List.append_assoc, List.append_assoc, ← List.append_nil (listMember "help" _)]
  exact reads_record (by decide) <|
    .given (Severity.reads _) <| .given (DiagnosticCode.reads _) <| .given reads_text <|
    .optional (fun _ _ => ⟨reads_text, by simp⟩) <|
    fills_listMember _ _ <| fills_listMember _ _ .nil

theorem exact_listMember (name : String) (texts : List String) :
    ∀ m ∈ listMember name texts, m.2.Exact := by
  unfold listMember
  split
  · exact List.forall_mem_nil _
  · exact List.forall_mem_singleton.mpr (.ofStrings texts)

theorem exact_toJson (d : Diagnostic) : d.toJson.Exact := by
  have hcode := d.code.exact_toJson
  have hlocation : ∀ m ∈ Value.member? "location" (d.location.map .string), m.2.Exact :=
    .member? fun s _ => .string s
  refine .object ?_
  simp only [List.forall_mem_append]
  refine ⟨⟨⟨?_, hlocation⟩, exact_listMember _ _⟩, exact_listMember _ _⟩
  simp [hcode]

end Diagnostic

/-! ### Reports -/

/-- **The report for programs is read back** as the diagnostics. -/
theorem run_jsonReport (ds : List Diagnostic) :
    (list Diagnostic.decoder).run (jsonReport ds) = .ok ds := by
  have hreads : (list Diagnostic.decoder).Reads nestLimit
      (.array (ds.map Diagnostic.toJson)) ds := reads_list fun d _ => d.reads
  have hexact : (Value.array (ds.map Diagnostic.toJson)).Exact :=
    .array_map fun d _ => d.exact_toJson
  have hnewline : Builder.Blank (Value.newLine 0) := blank_newLine 0
  have htext : jsonReport ds = String.ofList
      ((Value.array (ds.map Diagnostic.toJson)).prettyChars 0 ++ Value.newLine 0) := by
    rw [jsonReport, String.ofList_append]
    rfl
  rw [htext]
  exact run_of_writes hreads ((writes_prettyChars _ 0 hexact).append_blank hnewline)

/-- **What is printed carries diagnostics**: for people they stand one behind the other on standard
error, for programs they are read back from standard output. -/
def Printed.Carries (p : Printed) (format : ReportFormat) (m : OutputMode) (config : String)
    (ds : List Diagnostic) : Prop :=
  match format with
  | .text => p = .err (String.join (ds.map (Diagnostic.render m.color (some (configName config)))))
  | .json => p.stderr = "" ∧ (list Diagnostic.decoder).run p.stdout = .ok ds

/-- **What reports carry**, for any diagnostics, any name of the configuration, with colors or
without. The report for people carries the errors in quiet mode, and all diagnostics otherwise. The
report for programs always carries all of them. -/
theorem report_carries (m : OutputMode) (config : String) (ds : List Diagnostic) :
    (report .text m config ds).Carries .text m config
        (if m.quiet then ds.filter Diagnostic.isError else ds) ∧
      (report .json m config ds).Carries .json m config ds := by
  refine ⟨?_, rfl, run_jsonReport ds⟩
  have hvisible : visible m.quiet ds = if m.quiet then ds.filter Diagnostic.isError else ds := by
    cases hquiet : m.quiet <;> simp [visible]
  rw [Printed.Carries, report, textReport, hvisible]

/-- In quiet mode the report for programs carries what is no error. -/
theorem exists_report_carries_warning :
    ¬ ∀ (format : ReportFormat) (m : OutputMode) (config : String) (ds : List Diagnostic),
      (report format m config ds).Carries format m config
        (if m.quiet then ds.filter Diagnostic.isError else ds) := by
  intro h
  have hall := run_jsonReport [Diagnostic.versionedFiles "app"]
  obtain ⟨-, herrors⟩ := h .json { quiet := true } "ngsw-config.json" [.versionedFiles "app"]
  have hsame := Except.ok.inj (herrors.symm.trans hall)
  exact absurd hsame (by decide)

end OfflineManifest
