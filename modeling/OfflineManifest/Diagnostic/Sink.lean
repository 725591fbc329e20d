import OfflineManifest.Diagnostic.Basic

/-! # Collecting diagnostics

A sink holds the diagnostics that were emitted and not yet taken, and counts all that were ever
emitted. Emitting takes two steps, counting and storing, between which others may use the sink. The
counters are machine words of 64 bits, which start again at zero after the greatest word.
-/

namespace OfflineManifest

/-- A collection of diagnostics. -/
structure Sink where
  /-- the diagnostics that were not taken yet, the oldest first -/
  pending : List Diagnostic := []
  errorCounter : UInt64 := 0
  warningCounter : UInt64 := 0
  deriving DecidableEq, Repr

namespace Sink

/-- The sink without diagnostics. -/
def empty : Sink := {}

/-- Counts a diagnostic. -/
def count (s : Sink) (severity : Severity) : Sink :=
  match severity with
  | .error => { s with errorCounter := s.errorCounter + 1 }
  | .warning => { s with warningCounter := s.warningCounter + 1 }

/-- Stores a diagnostic. -/
def store (s : Sink) (d : Diagnostic) : Sink := { s with pending := s.pending ++ [d] }

/-- **Emits a diagnostic.** -/
def emit (s : Sink) (d : Diagnostic) : Sink := (s.count d.severity).store d

/-- Emits diagnostics in order. -/
def emitAll (s : Sink) (ds : List Diagnostic) : Sink := ds.foldl emit s

/-- **Takes all diagnostics** out of the sink; the counts stay. -/
def takeAll (s : Sink) : List Diagnostic × Sink := (s.pending, { s with pending := [] })

/-- The number of errors, as it was counted. -/
def errors (s : Sink) : Nat := s.errorCounter.toNat

/-- The number of warnings, as it was counted. -/
def warnings (s : Sink) : Nat := s.warningCounter.toNat

/-- Whether errors were counted. -/
def hasErrors (s : Sink) : Bool := 0 < s.errors

end Sink

end OfflineManifest
