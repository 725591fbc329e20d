import OfflineManifest.Unicode.CodeSet
import OfflineManifest.Unicode.ScriptRuns

/-! # Scripts

Every character belongs to one script, known by four letters; some characters are used in a few
scripts, which are then listed.
-/

namespace OfflineManifest.Unicode

/-- The four letters of a script. -/
abbrev Script := String

/-- The scripts of all code points. -/
def scripts : Runs Script := .ofText 3 id scriptRuns

/-- The script of a character, `Zzzz` if it has none. -/
def script (c : Char) : Script := (scripts.get? c.toNat).getD "Zzzz"

/-- Appends a run of code points with a value, and a gap before it. -/
def pushRange {α : Type} (runs : Runs (List α)) (range : Nat × Nat) (values : List α) :
    Runs (List α) :=
  ⟨(runs.starts.push range.1).push (range.2 + 1), (runs.values.push values).push []⟩

/-- The scripts of code points that are used in a few. Where two ranges touch, the later run counts
that starts at the same place. -/
def extensions : Runs (List Script) :=
  scriptExtensions.foldl
    (fun runs line =>
      match line.toList.splitOn ' ' with
      | [] => runs
      | range :: codes => pushRange runs (CodeSet.readRange range) (codes.map String.ofList))
    ⟨#[], #[]⟩

/-- The scripts in which a character is used. -/
def scriptsOf (c : Char) : List Script :=
  match extensions.get? c.toNat with
  | none | some [] => [script c]
  | some codes => codes

end OfflineManifest.Unicode
