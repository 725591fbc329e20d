import OfflineManifest.Files.Store

/-! # Stores with faults

A store that behaves like another one up to chosen faults: paths in its listings that are not there,
listings that fail, writes that fail.
-/

namespace OfflineManifest

/-- A store and its faults. -/
structure Faulty (σ : Type) where
  store : σ
  /-- paths that come at the end of every listing -/
  ghosts : List String := []
  /-- why every listing fails, if it does -/
  listFault : Option String := none
  /-- whether every write fails -/
  writeFault : Bool := false

namespace Faulty

variable {σ : Type} [FileStore σ]

/-- A listing. -/
def list (s : Faulty σ) (directory : String) : Except FileError (List String) :=
  match s.listFault with
  | some reason => .error (.walk directory reason)
  | none => (FileStore.list s.store directory).map (· ++ s.ghosts)

/-- A write. -/
def write (s : Faulty σ) (path text : String) : Except FileError Unit × Faulty σ :=
  if s.writeFault then (.error (.outsideRoot path), s)
  else
    let (result, store) := FileStore.write s.store path text
    (result, { s with store })

instance : FileStore (Faulty σ) where
  list := list
  read s := FileStore.read s.store
  hash s := FileStore.hash s.store
  write := write

end Faulty

end OfflineManifest
