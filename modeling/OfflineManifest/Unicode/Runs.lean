/-! # Tables over the code points, as runs

A property of code points is stored by the places where it changes: run `i` starts at `starts[i]`
and its code points have the value `values[i]`. The run of a code point is the last one that starts
at or before it, and is found by halving.
-/

namespace OfflineManifest.Unicode

/-- The number of entries among `a[lo], …, a[hi - 1]` and before that are at most `x`, for an
increasing array whose entries below `lo` are at most `x` and from `hi` on are greater. -/
def countUpTo (a : Array Nat) (x lo hi : Nat) : Nat :=
  if lo < hi then
    let mid := (lo + hi) / 2
    if a.getD mid 0 ≤ x then countUpTo a x (mid + 1) hi else countUpTo a x lo mid
  else lo
termination_by hi - lo
decreasing_by all_goals omega

/-- A function of code points that is constant on runs. -/
structure Runs (α : Type) where
  starts : Array Nat
  values : Array α

namespace Runs

/-- The value at a code point. -/
def get? {α : Type} (runs : Runs α) (code : Nat) : Option α :=
  match countUpTo runs.starts code 0 runs.starts.size with
  | 0 => none
  | i + 1 => runs.values[i]?

/-- The table of runs with the given values and lengths, the first one from code point `0` on. -/
def ofLengths {α : Type} (entries : List (α × Nat)) : Runs α :=
  let step := fun (acc : Nat × Runs α) (entry : α × Nat) =>
    (acc.1 + entry.2, ⟨acc.2.starts.push acc.1, acc.2.values.push entry.1⟩)
  (entries.foldl step (0, ⟨#[], #[]⟩)).2

/-- Reads decimal digits. -/
def readNumber (digits : List Char) : Nat :=
  digits.foldl (fun n d => 10 * n + (d.toNat - 48)) 0

/-- The tags of a text with the numbers behind them, one where no number stands. Every tag has one
letter more than `more`. -/
def readTags (more : Nat) : List Char → List (String × Nat)
  | [] => []
  | a :: text =>
    let rest := text.drop more
    let digits := rest.takeWhile Char.isDigit
    (String.ofList (a :: text.take more), if digits.isEmpty then 1 else readNumber digits) ::
      readTags more (rest.drop digits.length)
termination_by text => text.length
decreasing_by simp only [List.length_drop, List.length_cons]; omega

/-- The table that a text of tags and lengths describes. -/
def ofText {α : Type} (more : Nat) (value : String → α) (lines : List String) : Runs α :=
  let tags := readTags more (String.join lines).toList
  ofLengths (tags.map fun (tag, length) => (value tag, length))

end Runs

end OfflineManifest.Unicode
