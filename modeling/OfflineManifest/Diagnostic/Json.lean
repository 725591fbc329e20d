import OfflineManifest.Diagnostic.Basic
import OfflineManifest.Json.Record

/-! # Diagnostics as JSON

What is absent or empty is left out of the written form.
-/

namespace OfflineManifest

open Json

namespace DiagnosticCode

/-- Reads a code. -/
def decoder : Decoder DiagnosticCode :=
  Decoder.record "DiagnosticCode"
    [.required "category" (.oneOf Series.names), .required "number" .uint16]
    fun (series, number, ()) => { series, number }

/-- The written form. -/
def toJson (c : DiagnosticCode) : Value :=
  .object
    [("category", .string c.series.name), ("number", .ofUInt64 c.number.toUInt64)]

end DiagnosticCode

namespace Diagnostic

/-- Reads a diagnostic. -/
def decoder : Decoder Diagnostic :=
  Decoder.record "Diagnostic"
    [.required "severity" (.oneOf Severity.names), .required "code" DiagnosticCode.decoder,
      .required "message" .text, .optional "location" .text, .withDefault "notes" (.list .text) [],
      .withDefault "help" (.list .text) []]
    fun (severity, code, message, location, notes, help, ()) =>
      { severity, code, message, location, notes, help }

/-- A member that is left out if its list is empty. -/
def listMember (name : String) (texts : List String) : List (String × Value) :=
  if texts.isEmpty then [] else [(name, .ofStrings texts)]

/-- **The written form.** -/
def toJson (d : Diagnostic) : Value :=
  .object <|
    [("severity", .string d.severity.name), ("code", d.code.toJson),
      ("message", .string d.message)] ++
    Value.member? "location" (d.location.map .string) ++
    listMember "notes" d.notes ++ listMember "help" d.help

/-- **Reads the text of a diagnostic.** -/
def parse (text : String) : Except Fault Diagnostic := decoder.run text

end Diagnostic

end OfflineManifest
