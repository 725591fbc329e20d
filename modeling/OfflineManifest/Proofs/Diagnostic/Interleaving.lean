import Mathlib.Data.List.Induction
import Mathlib.Data.List.Perm.Basic
import OfflineManifest.Diagnostic.Shared

/-! # Steps of many callers

Callers make calls, one after another, and their steps come in any order (`Interleaves`). What was
emitted and what was stored is read off these steps (`begun`, `stored`). A sink has an *account* of
its steps: the diagnostics that were taken and those that are pending are what was stored; every
caller has stored what it has begun, but for what it has counted at the moment; and the counts are
of what was begun, as far as machine words go (`Accounts`). Every step keeps the account
(`Accounts.step`), so each sequence of steps leads to one (`accounts_of_run`). From the account it
also follows that every interleaving of calls can take place (`exists_run`), and that nothing is
lost on the way (`nothing_lost`). -/

namespace OfflineManifest

variable {ι : Type}

namespace Action

/-- What a step counts. -/
def begun? : Action ι → Option (ι × Diagnostic)
  | count caller d => some (caller, d)
  | _ => none

/-- What a step stores. -/
def stored? : Action ι → Option (ι × Diagnostic)
  | store caller d => some (caller, d)
  | _ => none

end Action

namespace SharedSink

/-- The number of diagnostics of a severity. -/
def number (severity : Severity) (ds : List Diagnostic) : ℕ := ds.countP (·.severity = severity)

/-- The count that a sink keeps for a severity. -/
def total (s : Sink) : Severity → ℕ
  | .error => s.errors
  | .warning => s.warnings

/-- What was counted, and by whom. -/
def begun (trace : List (Action ι)) : List (ι × Diagnostic) := trace.filterMap Action.begun?

/-- What was stored, and by whom. -/
def stored (trace : List (Action ι)) : List (ι × Diagnostic) := trace.filterMap Action.stored?

variable [DecidableEq ι]

/-- What a caller has emitted, of what all have. -/
def ofCaller (i : ι) (ds : List (ι × Diagnostic)) : List (ι × Diagnostic) :=
  ds.filter fun e => e.1 = i

/-- The steps of a caller. -/
def stepsOf (i : ι) (trace : List (Action ι)) : List (Action ι) :=
  trace.filter fun a => a.caller = i

/-- **Steps that interleave calls**: those of each caller are the steps of its calls, in order, up
to some step. -/
def Interleaves (calls : ι → List Call) (trace : List (Action ι)) : Prop :=
  ∀ i, stepsOf i trace <+: (calls i).flatMap (Call.actions i)

/-- **The account of a sink** of the steps that were taken. -/
structure Accounts (trace : List (Action ι)) (t : SharedSink ι) : Prop where
  /-- nobody emits twice at a time -/
  nodup : (t.counted.map Prod.fst).Nodup
  /-- what was stored is taken or pending -/
  held : t.taken.flatten ++ t.sink.pending = (stored trace).map Prod.snd
  /-- callers store what they have begun, in order -/
  order : ∀ i, ofCaller i (begun trace) = ofCaller i (stored trace) ++ ofCaller i t.counted
  /-- what was begun is counted -/
  counts : ∀ severity, total t.sink severity =
    number severity ((begun trace).map Prod.snd) % UInt64.size
  /-- what was begun is stored, but for what callers emit at the moment -/
  balance : ∀ severity, number severity ((begun trace).map Prod.snd) =
    number severity ((stored trace).map Prod.snd) + number severity (t.counted.map Prod.snd)

/-! ### Lists of diagnostics -/

section Lists

variable {i j : ι} {d : Diagnostic} {ds counted : List (ι × Diagnostic)}

theorem number_append (severity : Severity) (ds es : List Diagnostic) :
    number severity (ds ++ es) = number severity ds + number severity es :=
  List.countP_append

theorem ofCaller_append (i : ι) (ds es : List (ι × Diagnostic)) :
    ofCaller i (ds ++ es) = ofCaller i ds ++ ofCaller i es :=
  List.filter_append ..

theorem ofCaller_eq_nil_iff : ofCaller i ds = [] ↔ i ∉ ds.map Prod.fst := by
  simp only [ofCaller, List.filter_eq_nil_iff, decide_eq_true_eq, List.mem_map, not_exists, not_and]

theorem ofCaller_singleton_self : ofCaller i [(i, d)] = [(i, d)] := by simp [ofCaller]

theorem ofCaller_singleton_of_ne (h : i ≠ j) : ofCaller j [(i, d)] = [] := by simp [ofCaller, h]

theorem mem_of_ofCaller (h : ofCaller i ds = [(i, d)]) : (i, d) ∈ ds :=
  List.mem_of_mem_filter (h ▸ List.mem_singleton_self _)

/-- What somebody has counted stands apart from what others have. -/
theorem exists_eq_of_mem (h : (i, d) ∈ counted) (hnodup : (counted.map Prod.fst).Nodup) :
    ∃ before after, counted = before ++ [(i, d)] ++ after ∧
      counted.erase (i, d) = before ++ after ∧ ofCaller i before = [] ∧ ofCaller i after = [] := by
  obtain ⟨before, after, hnot, hcounted, herase⟩ := List.exists_erase_eq h
  rw [hcounted, List.map_append, List.map_cons, List.nodup_append, List.nodup_cons] at hnodup
  obtain ⟨-, ⟨hafter, -⟩, hbefore⟩ := hnodup
  refine ⟨before, after, by rw [hcounted, List.append_cons], herase, ?_,
    ofCaller_eq_nil_iff.mpr hafter⟩
  exact ofCaller_eq_nil_iff.mpr fun hmem => hbefore i hmem i List.mem_cons_self rfl

theorem length_ofCaller_le_one (hnodup : (counted.map Prod.fst).Nodup) :
    (ofCaller i counted).length ≤ 1 := by
  by_cases hi : i ∈ counted.map Prod.fst
  · obtain ⟨⟨_, d⟩, hmem, rfl⟩ := List.mem_map.mp hi
    obtain ⟨before, after, hcounted, -, hbefore, hafter⟩ := exists_eq_of_mem hmem hnodup
    rw [hcounted, ofCaller_append, ofCaller_append, hbefore, hafter, ofCaller_singleton_self]
    exact Nat.le_refl 1
  · rw [ofCaller_eq_nil_iff.mpr hi]
    exact Nat.zero_le 1

end Lists

/-! ### Steps -/

section Steps

variable {trace : List (Action ι)} {t t' : SharedSink ι} {i : ι} {d : Diagnostic} {a : Action ι}

omit [DecidableEq ι] in
theorem begun_append (trace trace' : List (Action ι)) :
    begun (trace ++ trace') = begun trace ++ begun trace' :=
  List.filterMap_append

omit [DecidableEq ι] in
theorem stored_append (trace trace' : List (Action ι)) :
    stored (trace ++ trace') = stored trace ++ stored trace' :=
  List.filterMap_append

/-- **What a step can do.** -/
theorem step?_eq_some (h : t.step? a = some t') :
    (∃ i d, a = .count i d ∧ i ∉ t.counted.map Prod.fst ∧
      t' = { t with sink := t.sink.count d.severity, counted := t.counted ++ [(i, d)] }) ∨
    (∃ i d, a = .store i d ∧ (i, d) ∈ t.counted ∧
      t' = { t with sink := t.sink.store d, counted := t.counted.erase (i, d) }) ∨
    ∃ i, a = .take i ∧ i ∉ t.counted.map Prod.fst ∧
      t' = { t with
        sink := { t.sink with pending := [] }
        taken := t.taken ++ [t.sink.pending] } := by
  unfold step? at h
  cases a with
  | count i d =>
    dsimp only at h
    split_ifs at h with hmem
    exact Or.inl ⟨i, d, rfl, hmem, (Option.some.inj h).symm⟩
  | store i d =>
    dsimp only at h
    split_ifs at h with hmem
    exact Or.inr (Or.inl ⟨i, d, rfl, hmem, (Option.some.inj h).symm⟩)
  | take i =>
    dsimp only at h
    split_ifs at h with hmem
    exact Or.inr (Or.inr ⟨i, rfl, hmem, (Option.some.inj h).symm⟩)

theorem total_lt (s : Sink) (severity : Severity) : total s severity < UInt64.size := by
  cases severity with
  | error => exact s.errorCounter.toNat_lt
  | warning => exact s.warningCounter.toNat_lt

/-- Counting adds one to a word. -/
theorem total_count (s : Sink) (d : Diagnostic) (severity : Severity) :
    total (s.count d.severity) severity =
      (total s severity + number severity [d]) % UInt64.size := by
  have hlt := total_lt s severity
  by_cases hd : d.severity = severity
  · have hnumber : number severity [d] = 1 := by simp [number, hd]
    rw [hnumber]
    subst hd
    cases d.severity <;>
      simp [total, Sink.count, Sink.errors, Sink.warnings, UInt64.toNat_add, UInt64.size]
  · have hnumber : number severity [d] = 0 := by simp [number, hd]
    have hsame : total (s.count d.severity) severity = total s severity := by
      cases severity <;> cases h : d.severity <;> first | rfl | exact absurd h hd
    rw [hnumber, hsame, Nat.add_zero, Nat.mod_eq_of_lt hlt]

theorem Accounts.count (h : Accounts trace t) (hi : i ∉ t.counted.map Prod.fst) :
    Accounts (trace ++ [.count i d])
      { t with sink := t.sink.count d.severity, counted := t.counted ++ [(i, d)] } := by
  have hbegun : begun [Action.count i d] = [(i, d)] := rfl
  have hstored : stored [Action.count i d] = [] := rfl
  have hpending : (t.sink.count d.severity).pending = t.sink.pending := by
    cases d.severity <;> rfl
  constructor
  case nodup =>
    rw [List.map_append, List.map_singleton]
    exact (List.perm_append_singleton ..).nodup_iff.mpr (List.nodup_cons.mpr ⟨hi, h.nodup⟩)
  case held => rw [hpending, stored_append, hstored, List.append_nil, h.held]
  case order =>
    intro j
    rw [begun_append, stored_append, hbegun, hstored, List.append_nil, ofCaller_append,
      ofCaller_append, h.order, List.append_assoc]
  case counts =>
    intro severity
    have hnumber : number severity ([(i, d)].map Prod.snd) = number severity [d] := rfl
    rw [total_count, begun_append, hbegun, List.map_append, number_append, h.counts, hnumber,
      Nat.mod_add_mod]
  case balance =>
    intro severity
    rw [begun_append, stored_append, hbegun, hstored, List.append_nil, List.map_append,
      List.map_append, number_append, number_append, h.balance, Nat.add_assoc]

theorem Accounts.store (h : Accounts trace t) (hi : (i, d) ∈ t.counted) :
    Accounts (trace ++ [.store i d])
      { t with sink := t.sink.store d, counted := t.counted.erase (i, d) } := by
  have hbegun : begun [Action.store i d] = [] := rfl
  have hstored : stored [Action.store i d] = [(i, d)] := rfl
  obtain ⟨before, after, hcounted, herase, hbefore, hafter⟩ := exists_eq_of_mem hi h.nodup
  constructor
  case nodup => exact h.nodup.sublist (List.erase_sublist.map _)
  case held =>
    rw [stored_append, hstored, List.map_append, ← h.held]
    exact (List.append_assoc ..).symm
  case order =>
    intro j
    rw [begun_append, stored_append, hbegun, hstored, List.append_nil, h.order, herase, hcounted]
    simp only [ofCaller_append]
    -- what others have counted is on no side of what this caller stores
    by_cases hj : i = j
    · subst hj
      rw [hbefore, hafter]
      simp
    · rw [ofCaller_singleton_of_ne hj]
      simp
  case counts =>
    intro severity
    rw [begun_append, hbegun, List.append_nil, ← h.counts]
    cases severity <;> rfl
  case balance =>
    intro severity
    rw [begun_append, stored_append, hbegun, hstored, List.append_nil, h.balance, herase, hcounted]
    simp only [List.map_append, number_append]
    omega

theorem Accounts.take (h : Accounts trace t) :
    Accounts (trace ++ [.take i])
      { t with sink := { t.sink with pending := [] }, taken := t.taken ++ [t.sink.pending] } := by
  have hbegun : begun (trace ++ [.take i]) = begun trace :=
    (begun_append ..).trans (List.append_nil _)
  have hstored : stored (trace ++ [.take i]) = stored trace :=
    (stored_append ..).trans (List.append_nil _)
  refine ⟨h.nodup, ?_, ?_, ?_, ?_⟩
  · rw [hstored, ← h.held]
    simp
  · rw [hbegun, hstored]
    exact h.order
  · rw [hbegun]
    intro severity
    rw [← h.counts]
    cases severity <;> rfl
  · rw [hbegun, hstored]
    exact h.balance

/-- **A step keeps the account.** -/
theorem Accounts.step (h : Accounts trace t) (hstep : t.step? a = some t') :
    Accounts (trace ++ [a]) t' := by
  obtain ⟨i, d, rfl, hi, rfl⟩ | ⟨i, d, rfl, hi, rfl⟩ | ⟨i, rfl, hi, rfl⟩ := step?_eq_some hstep
  · exact h.count hi
  · exact h.store hi
  · exact h.take

theorem accounts_empty : Accounts [] ({} : SharedSink ι) where
  nodup := List.nodup_nil
  held := rfl
  order _ := rfl
  counts severity := by cases severity <;> rfl
  balance _ := rfl

theorem run?_append (trace trace' : List (Action ι)) :
    run? (trace ++ trace') = (run? trace).bind fun t => trace'.foldlM step? t := by
  unfold run?
  exact List.foldlM_append

theorem run?_append_singleton :
    run? (trace ++ [a]) = (run? trace).bind fun t => t.step? a := by
  simp only [run?_append, List.foldlM_cons, List.foldlM_nil, bind_pure]

/-- **Every run keeps the account.** -/
theorem accounts_of_run (h : run? trace = some t) : Accounts trace t := by
  induction trace using List.reverseRecOn generalizing t with
  | nil =>
    obtain rfl := Option.some.inj h
    exact accounts_empty
  | append_singleton trace a ih =>
    rw [run?_append_singleton, Option.bind_eq_some_iff] at h
    obtain ⟨u, hu, hstep⟩ := h
    exact (ih hu).step hstep

end Steps

/-! ### Calls -/

section Calls

variable {trace : List (Action ι)} {t : SharedSink ι} {i : ι} {a : Action ι} {calls : List Call}
  {callsOf : ι → List Call}

theorem ofCaller_begun (i : ι) (trace : List (Action ι)) :
    ofCaller i (begun trace) = begun (stepsOf i trace) := by
  unfold ofCaller begun stepsOf
  rw [List.filter_filterMap, List.filterMap_filter]
  refine List.filterMap_congr fun a _ => ?_
  by_cases hi : a.caller = i <;> cases a <;> simp_all [Action.begun?, Action.caller]

theorem ofCaller_stored (i : ι) (trace : List (Action ι)) :
    ofCaller i (stored trace) = stored (stepsOf i trace) := by
  unfold ofCaller stored stepsOf
  rw [List.filter_filterMap, List.filterMap_filter]
  refine List.filterMap_congr fun a _ => ?_
  by_cases hi : a.caller = i <;> cases a <;> simp_all [Action.stored?, Action.caller]

omit [DecidableEq ι] in
/-- **The next step of a caller** stores what the caller has begun to emit, if it has. -/
theorem next_of_prefix {steps : List (Action ι)}
    (h : steps ++ [a] <+: calls.flatMap (Call.actions i)) :
    (∃ d, a = .store i d ∧ begun steps = stored steps ++ [(i, d)]) ∨
      (∀ d, a ≠ .store i d) ∧ begun steps = stored steps := by
  induction calls generalizing steps with
  | nil => exact absurd (List.prefix_nil.mp h) (by simp)
  | cons call calls ih =>
    cases call with
    | emit d =>
      rcases steps with _ | ⟨first, _ | ⟨second, steps⟩⟩
      · obtain ⟨rfl, -⟩ := List.cons_prefix_cons.mp h
        exact Or.inr ⟨fun _ => nofun, rfl⟩
      · obtain ⟨rfl, hrest⟩ := List.cons_prefix_cons.mp h
        obtain ⟨rfl, -⟩ := List.cons_prefix_cons.mp hrest
        exact Or.inl ⟨d, rfl, rfl⟩
      · obtain ⟨rfl, hrest⟩ := List.cons_prefix_cons.mp h
        obtain ⟨rfl, hcalls⟩ := List.cons_prefix_cons.mp hrest
        obtain ⟨e, ha, he⟩ | ⟨ha, he⟩ := ih hcalls
        · exact Or.inl ⟨e, ha, congrArg ((i, d) :: ·) he⟩
        · exact Or.inr ⟨ha, congrArg ((i, d) :: ·) he⟩
    | take =>
      rcases steps with _ | ⟨first, steps⟩
      · obtain ⟨rfl, -⟩ := List.cons_prefix_cons.mp h
        exact Or.inr ⟨fun _ => nofun, rfl⟩
      · obtain ⟨rfl, hcalls⟩ := List.cons_prefix_cons.mp h
        exact (ih hcalls :)

theorem stepsOf_append (i : ι) (trace trace' : List (Action ι)) :
    stepsOf i (trace ++ trace') = stepsOf i trace ++ stepsOf i trace' :=
  List.filter_append ..

theorem Interleaves.of_append (h : Interleaves callsOf (trace ++ [a])) :
    Interleaves callsOf trace := fun i =>
  (List.prefix_append ..).trans (stepsOf_append i trace [a] ▸ h i)

theorem Interleaves.next (h : Interleaves callsOf (trace ++ [a])) :
    stepsOf a.caller trace ++ [a] <+: (callsOf a.caller).flatMap (Call.actions a.caller) := by
  have hsteps : stepsOf a.caller [a] = [a] := by simp [stepsOf]
  rw [← hsteps, ← stepsOf_append]
  exact h a.caller

theorem exists_step?_of_idle (ha : ∀ d, a ≠ .store a.caller d)
    (h : a.caller ∉ t.counted.map Prod.fst) : ∃ t', t.step? a = some t' := by
  cases a with
  | count i d => exact ⟨_, if_neg h⟩
  | store i d => exact absurd rfl (ha d)
  | take i => exact ⟨_, if_neg h⟩

/-- **Calls can be interleaved in every way.** -/
theorem exists_run (h : Interleaves callsOf trace) : ∃ t, run? trace = some t := by
  induction trace using List.reverseRecOn with
  | nil => exact ⟨{}, rfl⟩
  | append_singleton trace a ih =>
    obtain ⟨t, ht⟩ := ih h.of_append
    -- what the caller of this step has counted shows in the steps that it has taken
    have horder := (accounts_of_run ht).order a.caller
    rw [ofCaller_begun, ofCaller_stored] at horder
    obtain ⟨t', ht'⟩ : ∃ t', t.step? a = some t' := by
      obtain ⟨d, hd, hbegun⟩ | ⟨ha, hbegun⟩ := next_of_prefix h.next
      · have hmem := mem_of_ofCaller (List.append_cancel_left (horder.symm.trans hbegun))
        rw [hd]
        exact ⟨_, if_pos hmem⟩
      · refine exists_step?_of_idle ha (ofCaller_eq_nil_iff.mp ?_)
        exact List.append_right_eq_self.mp (horder.symm.trans hbegun)
    exact ⟨t', by rw [run?_append_singleton, ht]; exact ht'⟩

omit [DecidableEq ι] in
theorem begun_actions (i : ι) (c : Call) :
    begun (c.actions i) = (c.emitted?.map fun d => (i, d)).toList := by
  cases c <;> rfl

/-- A caller emits what its calls say. -/
theorem Interleaves.emitted (h : Interleaves callsOf trace) (i : ι) :
    (ofCaller i (begun trace)).map Prod.snd <+: (callsOf i).filterMap Call.emitted? := by
  have hcalls : ∀ calls : List Call,
      (begun (calls.flatMap (Call.actions i))).map Prod.snd = calls.filterMap Call.emitted? := by
    intro calls
    induction calls with
    | nil => rfl
    | cons c calls ih =>
      rw [List.flatMap_cons, begun_append, List.map_append, ih, begun_actions]
      cases c <;> rfl
  rw [ofCaller_begun, ← hcalls]
  exact ((h i).filterMap _).map _

end Calls

/-! ### Calls in a row -/

/-- The steps of calls that are made one at a time. -/
def sequential (calls : List (ι × Call)) : List (Action ι) :=
  calls.flatMap fun c => c.2.actions c.1

/-- A call that nobody disturbs. -/
theorem foldlM_actions {t : SharedSink ι} (h : t.counted = []) (i : ι) (c : Call) :
    ∃ t', (c.actions i).foldlM step? t = some t' ∧ t'.counted = [] ∧
      t'.sink = c.perform t.sink := by
  obtain ⟨sink, counted, taken⟩ := t
  subst h
  cases c with
  | emit d => exact ⟨⟨sink.emit d, [], taken⟩, by simp [Call.actions, step?, Sink.emit], rfl, rfl⟩
  | take => exact ⟨⟨sink.takeAll.2, [], taken ++ [sink.pending]⟩, rfl, rfl, rfl⟩

theorem exists_run_sequential (calls : List (ι × Call)) : ∃ t, run? (sequential calls) = some t ∧
    t.counted = [] ∧ t.sink = calls.foldl (fun s c => c.2.perform s) .empty := by
  induction calls using List.reverseRecOn with
  | nil => exact ⟨{}, rfl, rfl, rfl⟩
  | append_singleton calls c ih =>
    obtain ⟨t, ht, hcounted, hsink⟩ := ih
    obtain ⟨t', ht', hcounted', hsink'⟩ := foldlM_actions hcounted c.1 c.2
    refine ⟨t', ?_, hcounted', ?_⟩
    · rw [sequential, List.flatMap_append, List.flatMap_singleton, run?_append]
      exact Option.bind_eq_some_iff.mpr ⟨t, ht, ht'⟩
    · rw [hsink', hsink, List.foldl_append]
      rfl

omit [DecidableEq ι] in
theorem begun_sequential (calls : List (ι × Call)) :
    (begun (sequential calls)).map Prod.snd = calls.filterMap fun c => c.2.emitted? := by
  induction calls with
  | nil => rfl
  | cons c calls ih =>
    rw [sequential, List.flatMap_cons, begun_append, List.map_append, begun_actions]
    rw [← sequential, ih]
    obtain ⟨i, c⟩ := c
    cases c <;> rfl

/-! ### The sink in the end -/

variable (ι) in
/-- **Nothing is lost and nothing comes twice.** In whatever order the steps of calls are taken,
what was taken and what is pending is what was stored; callers have stored what they have emitted,
in order, but for one diagnostic that they may have counted just now.

The count for a severity is the number of those taken, those pending and those just counted, which
is the number of all that were ever counted, up to a multiple of the number of words. So errors show
unless there are such a multiple of them, and an error that is taken or pending shows as long as
fewer were ever counted than there are words; up to there the counts are exact. After calls in a row
the counts are those of all that were emitted. -/
theorem nothing_lost :
    (∀ (calls : ι → List Call) (trace : List (Action ι)), Interleaves calls trace →
      ∃ t, run? trace = some t ∧
        t.taken.flatten ++ t.sink.pending = (stored trace).map Prod.snd ∧
        (∀ i, ofCaller i (stored trace) ++ ofCaller i t.counted = ofCaller i (begun trace) ∧
          (ofCaller i t.counted).length ≤ 1 ∧
          (ofCaller i (begun trace)).map Prod.snd <+: (calls i).filterMap Call.emitted?) ∧
        (∀ severity, number severity ((begun trace).map Prod.snd) =
          number severity (t.taken.flatten ++ t.sink.pending) +
            number severity (t.counted.map Prod.snd)) ∧
        (∀ severity, total t.sink severity =
          number severity ((begun trace).map Prod.snd) % UInt64.size) ∧
        (t.sink.hasErrors = true ↔ ¬ UInt64.size ∣ number .error ((begun trace).map Prod.snd)) ∧
        (∀ severity, number severity ((begun trace).map Prod.snd) < UInt64.size →
          total t.sink severity = number severity ((begun trace).map Prod.snd)) ∧
        (number .error ((begun trace).map Prod.snd) < UInt64.size →
          ∀ d ∈ t.taken.flatten ++ t.sink.pending, d.severity = .error →
            t.sink.hasErrors = true)) ∧
    ∀ calls : List (ι × Call), ∃ t, run? (sequential calls) = some t ∧ t.counted = [] ∧
      t.sink = calls.foldl (fun s c => c.2.perform s) .empty ∧
      ∀ severity, total t.sink severity =
        number severity (calls.filterMap fun c => c.2.emitted?) % UInt64.size := by
  constructor
  · intro calls trace hcalls
    obtain ⟨t, ht⟩ := exists_run hcalls
    have haccounts := accounts_of_run ht
    have hcounts := haccounts.counts
    have hbalance : ∀ severity, number severity ((begun trace).map Prod.snd) =
        number severity (t.taken.flatten ++ t.sink.pending) +
          number severity (t.counted.map Prod.snd) := by
      intro severity
      rw [haccounts.balance, haccounts.held]
    have hshows : t.sink.hasErrors = true ↔
        ¬ UInt64.size ∣ number .error ((begun trace).map Prod.snd) := by
      have hpositive : t.sink.hasErrors = true ↔ 0 < total t.sink .error := decide_eq_true_iff
      rw [hpositive, hcounts, Nat.pos_iff_ne_zero, Nat.dvd_iff_mod_eq_zero]
    refine ⟨t, ht, haccounts.held, fun i => ⟨(haccounts.order i).symm, ?_, hcalls.emitted i⟩,
      hbalance, hcounts, hshows, fun severity hlt => ?_, fun hlt d hd herror => ?_⟩
    · exact length_ofCaller_le_one haccounts.nodup
    · rw [hcounts, Nat.mod_eq_of_lt hlt]
    · have hpositive : 0 < number .error (t.taken.flatten ++ t.sink.pending) :=
        List.countP_pos_iff.mpr ⟨d, hd, decide_eq_true herror⟩
      have hsum := hbalance .error
      rw [hshows]
      exact Nat.not_dvd_of_pos_of_lt (by omega) hlt
  · intro calls
    obtain ⟨t, ht, hcounted, hsink⟩ := exists_run_sequential calls
    refine ⟨t, ht, hcounted, hsink, fun severity => ?_⟩
    rw [(accounts_of_run ht).counts, begun_sequential]

/-- An error. -/
def badAge : Diagnostic :=
  .invalidDataGroup "api" "not a valid duration: '3 days' in '3 days'"

/-- What two callers ask. -/
def twoCalls : Bool → List Call
  | true => [.emit badAge]
  | false => [.emit (.versionedFiles "code"), .take]

/-- One caller counts the error, and stores it when the other one has taken all. -/
def twoCallers : List (Action Bool) :=
  [.count true badAge] ++ (twoCalls false).flatMap (Call.actions false) ++ [.store true badAge]

theorem nothing_lost_twoCallers :
    ∃ t, run? twoCallers = some t ∧
      t.taken.flatten ++ t.sink.pending = [.versionedFiles "code", badAge] ∧
      t.sink.hasErrors = true ∧ ∀ severity, total t.sink severity = 1 := by
  have hcalls : Interleaves twoCalls twoCallers := fun i => by
    cases i
    · exact ⟨[], rfl⟩
    · exact ⟨[], rfl⟩
  obtain ⟨t, ht, hheld, -, -, -, -, hexact, herrors⟩ :=
    (nothing_lost Bool).1 twoCalls twoCallers hcalls
  have hone : ∀ severity, number severity ((begun twoCallers).map Prod.snd) = 1 := by
    intro severity
    cases severity <;> decide
  have hlt : 1 < UInt64.size := by decide
  have hmem : badAge ∈ t.taken.flatten ++ t.sink.pending := by
    rw [hheld]
    exact List.mem_cons_of_mem _ List.mem_cons_self
  refine ⟨t, ht, hheld, herrors (by rw [hone]; exact hlt) badAge hmem rfl, fun severity => ?_⟩
  rw [hexact severity (by rw [hone]; exact hlt), hone]

end SharedSink

end OfflineManifest
