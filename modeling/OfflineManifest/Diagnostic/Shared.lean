import OfflineManifest.Diagnostic.Sink

/-! # Sinks that are shared

Several callers may use one sink at a time. A call that emits takes two steps, since the count and
the diagnostics that are pending are guarded apart; a call that takes all is one step. The steps of
different callers come in any order.

* `SharedSink.step?` is a step of one caller, which must be where its call takes this step.
* `SharedSink.run?` is a sequence of steps on a sink that starts empty.
-/

namespace OfflineManifest

variable {ι : Type}

/-- A step of a caller. -/
inductive Action (ι : Type) where
  /-- the first step of emitting a diagnostic -/
  | count (caller : ι) (d : Diagnostic)
  /-- the second one -/
  | store (caller : ι) (d : Diagnostic)
  | take (caller : ι)
  deriving DecidableEq, Repr

/-- Whose step it is. -/
def Action.caller : Action ι → ι
  | count caller _ => caller
  | store caller _ => caller
  | take caller => caller

/-- What a caller asks of a sink. -/
inductive Call where
  | emit (d : Diagnostic)
  | take
  deriving DecidableEq, Repr

namespace Call

/-- The steps of a call. -/
def actions (caller : ι) : Call → List (Action ι)
  | emit d => [.count caller d, .store caller d]
  | take => [.take caller]

/-- What becomes of a sink that nobody else uses. -/
def perform (s : Sink) : Call → Sink
  | emit d => s.emit d
  | take => s.takeAll.2

/-- The diagnostic that is emitted, if there is one. -/
def emitted? : Call → Option Diagnostic
  | emit d => some d
  | take => none

end Call

/-- A sink that is in use. -/
structure SharedSink (ι : Type) where
  sink : Sink := .empty
  /-- the callers that emit at the moment, with what they have counted and not yet stored -/
  counted : List (ι × Diagnostic) := []
  /-- what was taken, by one call after another -/
  taken : List (List Diagnostic) := []
  deriving DecidableEq, Repr

namespace SharedSink

variable [DecidableEq ι]

/-- **A step of a caller.** Between its two steps a call that emits does nothing else. -/
def step? (t : SharedSink ι) : Action ι → Option (SharedSink ι)
  | .count caller d =>
    if caller ∈ t.counted.map Prod.fst then none
    else some { t with
      sink := t.sink.count d.severity
      counted := t.counted ++ [(caller, d)] }
  | .store caller d =>
    if (caller, d) ∈ t.counted then
      some { t with
        sink := t.sink.store d
        counted := t.counted.erase (caller, d) }
    else none
  | .take caller =>
    if caller ∈ t.counted.map Prod.fst then none
    else
      let (ds, sink) := t.sink.takeAll
      some { t with sink, taken := t.taken ++ [ds] }

/-- **Steps in a row**, from an empty sink. -/
def run? (trace : List (Action ι)) : Option (SharedSink ι) := trace.foldlM step? {}

end SharedSink

end OfflineManifest
