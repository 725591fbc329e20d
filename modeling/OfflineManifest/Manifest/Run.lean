import OfflineManifest.Config.Basic
import OfflineManifest.Diagnostic.Basic

/-! # Runs

A run ends with a value or an error. On its way it gives diagnostics, which concern the one who
wrote the configuration, and events, which concern the one who watches the program; both are kept
when the run ends with an error.

* `Run.bind_ok`: if the first of two runs has a value, the second one is added to it.
* `Run.bind_error`: if it has none, it is all there is.
-/

namespace OfflineManifest

/-- Something worth a line in the log. -/
inductive Event where
  /-- the files below a directory were listed -/
  | listed (directory : String) (count : Nat)
  /-- the files of an asset group are known -/
  | assetGroup (name : String) (files : Nat) (mode : InstallMode)
  /-- the times of a data group are known -/
  | dataGroup (name : String) (maxAge : UInt64)
  /-- a manifest was made -/
  | generated (assetGroups dataGroups files : Nat)
  /-- a file was written -/
  | wrote (path : String) (bytes : Nat)
  /-- a manifest was published -/
  | published (path : String) (bytes : Nat)
  deriving DecidableEq, Repr

/-- How a computation went. -/
structure Run (ε α : Type) where
  result : Except ε α
  diagnostics : List Diagnostic := []
  events : List Event := []

namespace Run

variable {ε α β : Type}

/-- A value at once. -/
def pure (a : α) : Run ε α := { result := .ok a }

/-- One run after another, if the first has a value. -/
def bind (x : Run ε α) (f : α → Run ε β) : Run ε β :=
  match x.result with
  | .error e => { result := .error e, diagnostics := x.diagnostics, events := x.events }
  | .ok a =>
    let y := f a
    { result := y.result
      diagnostics := x.diagnostics ++ y.diagnostics
      events := x.events ++ y.events }

instance : Monad (Run ε) where
  pure := pure
  bind := bind

/-- A run that says nothing. -/
def ofExcept (result : Except ε α) : Run ε α := { result }

/-- A run that gives a diagnostic. -/
def notice (d : Diagnostic) : Run ε Unit := { result := .ok (), diagnostics := [d] }

/-- A run that logs an event. -/
def log (e : Event) : Run ε Unit := { result := .ok (), events := [e] }

/-! ### Runs in a row -/

theorem pure_eq (a : α) : (Pure.pure a : Run ε α) = { result := .ok a } := rfl

theorem bind_ok {x : Run ε α} {f : α → Run ε β} {a : α} (h : x.result = .ok a) :
    x >>= f =
      { result := (f a).result
        diagnostics := x.diagnostics ++ (f a).diagnostics
        events := x.events ++ (f a).events } := by
  simp only [Bind.bind, bind, h]

theorem bind_error {x : Run ε α} {f : α → Run ε β} {e : ε} (h : x.result = .error e) :
    x >>= f =
      { result := .error e, diagnostics := x.diagnostics, events := x.events } := by
  simp only [Bind.bind, bind, h]

theorem bind_assoc {γ : Type} (x : Run ε α) (f : α → Run ε β) (g : β → Run ε γ) :
    x >>= f >>= g = x >>= fun a => f a >>= g := by
  cases hx : x.result with
  | error e => rw [bind_error hx, bind_error hx, bind_error rfl]
  | ok a =>
    rw [bind_ok hx, bind_ok hx]
    cases hf : (f a).result with
    | error e => rw [bind_error rfl, bind_error hf]
    | ok b => rw [bind_ok rfl, bind_ok hf]; simp only [List.append_assoc]

instance : LawfulMonad (Run ε) :=
  LawfulMonad.mk' (Run ε)
    (fun x => by
      rcases x with ⟨_ | _, ds, es⟩
      · rfl
      · simp [Functor.map, bind, pure])
    (fun _ _ => bind_ok rfl)
    (fun x f g => bind_assoc x f g)

end Run

end OfflineManifest
