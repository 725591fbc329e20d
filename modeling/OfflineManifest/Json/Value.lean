import OfflineManifest.Decimal.Binary64
import OfflineManifest.KeyMap

/-! # JSON values

A value is null, a truth value, a number, a text, an array, or an object, whose members have an
order. Numbers are natural numbers below `2 ^ 64`, negative numbers down to `-2 ^ 63`, or finite
floating-point numbers.

Data that the program hands on without looking into it is a *payload*: objects in it have their
members sorted by name and each name once (`Canonical`), so that equal data has equal values.
-/

namespace OfflineManifest.Json

/-- The largest magnitude of a negative number, `2 ^ 63`. -/
abbrev negativeLimit : Nat := 9223372036854775808

/-- A number. -/
inductive Number where
  | natural (n : UInt64)
  | negative (magnitude : Nat) (bounds : 0 < magnitude ∧ magnitude ≤ negativeLimit)
  | float (x : Binary64) (finite : x.isFinite = true)
  deriving DecidableEq, Repr

/-- A value. -/
inductive Value where
  | null
  | bool (b : Bool)
  | number (n : Number)
  | string (s : String)
  | array (items : List Value)
  | object (members : List (String × Value))
  deriving Repr

namespace Value

/-- The value of a natural number below `2 ^ 64`. -/
def ofUInt64 (n : UInt64) : Value := .number (.natural n)

/-- The value of a natural number below `2 ^ 32`. -/
def ofUInt32 (n : UInt32) : Value := ofUInt64 n.toUInt64

/-- The array of a list of texts. -/
def ofStrings (texts : List String) : Value := .array (texts.map .string)

/-- A member that is left out if there is no value. -/
def member? (name : String) (value : Option Value) : List (String × Value) :=
  match value with
  | none => []
  | some v => [(name, v)]

mutual

/-- Whether two values are equal. -/
def beq : Value → Value → Bool
  | null, null => true
  | bool a, bool b => a == b
  | number a, number b => decide (a = b)
  | string a, string b => a == b
  | array a, array b => beqItems a b
  | object a, object b => beqMembers a b
  | _, _ => false

/-- Whether two lists of values are equal. -/
def beqItems : List Value → List Value → Bool
  | [], [] => true
  | a :: as, b :: bs => beq a b && beqItems as bs
  | _, _ => false

/-- Whether two lists of members are equal. -/
def beqMembers : List (String × Value) → List (String × Value) → Bool
  | [], [] => true
  | (j, a) :: as, (k, b) :: bs => j == k && beq a b && beqMembers as bs
  | _, _ => false

end

mutual

theorem eq_of_beq {v w : Value} (h : beq v w = true) : v = w := by
  match v, w, h with
  | null, null, _ => rfl
  | bool a, bool b, h => simpa [beq] using h
  | number a, number b, h => simpa [beq] using h
  | string a, string b, h => simpa [beq] using h
  | array a, array b, h => rw [eq_of_beqItems (a := a) (b := b) (by simpa [beq] using h)]
  | object a, object b, h => rw [eq_of_beqMembers (a := a) (b := b) (by simpa [beq] using h)]

theorem eq_of_beqItems {a b : List Value} (h : beqItems a b = true) : a = b := by
  match a, b, h with
  | [], [], _ => rfl
  | v :: vs, w :: ws, h =>
    simp only [beqItems, Bool.and_eq_true] at h
    rw [eq_of_beq h.1, eq_of_beqItems h.2]

theorem eq_of_beqMembers {a b : List (String × Value)} (h : beqMembers a b = true) : a = b := by
  match a, b, h with
  | [], [], _ => rfl
  | (j, v) :: vs, (k, w) :: ws, h =>
    simp only [beqMembers, Bool.and_eq_true, beq_iff_eq] at h
    rw [h.1.1, eq_of_beq h.1.2, eq_of_beqMembers h.2]

end

mutual

theorem beq_self (v : Value) : beq v v = true := by
  match v with
  | null => rfl
  | bool _ | number _ | string _ => simp [beq]
  | array a => simpa [beq] using beqItems_self a
  | object a => simpa [beq] using beqMembers_self a

theorem beqItems_self (a : List Value) : beqItems a a = true := by
  match a with
  | [] => rfl
  | v :: vs => simp [beqItems, beq_self v, beqItems_self vs]

theorem beqMembers_self (a : List (String × Value)) : beqMembers a a = true := by
  match a with
  | [] => rfl
  | (k, v) :: vs => simp [beqMembers, beq_self v, beqMembers_self vs]

end

instance : DecidableEq Value := fun v w =>
  decidable_of_iff (beq v w = true) ⟨eq_of_beq, fun h => h ▸ beq_self v⟩

/-! ### Payload data -/

/-- The members of every object in the value have strictly increasing names. -/
inductive Canonical : Value → Prop where
  | null : Canonical null
  | bool (b : Bool) : Canonical (bool b)
  | number (n : Number) : Canonical (number n)
  | string (s : String) : Canonical (string s)
  | array {items : List Value} (h : ∀ v ∈ items, Canonical v) : Canonical (array items)
  | object {members : List (String × Value)}
      (sorted : (members.map Prod.fst).Pairwise (· < ·))
      (h : ∀ m ∈ members, Canonical m.2) : Canonical (object members)

end Value

/-- A value that is handed on as it is. -/
structure Payload where
  value : Value
  canonical : value.Canonical

namespace Payload

theorem eq_of_value {a b : Payload} (h : a.value = b.value) : a = b := by
  cases a; cases b; cases h; rfl

instance : DecidableEq Payload := fun a b =>
  decidable_of_iff (a.value = b.value) ⟨eq_of_value, fun h => h ▸ rfl⟩

/-- The null value. -/
def null : Payload := ⟨.null, .null⟩

/-- A truth value. -/
def bool (b : Bool) : Payload := ⟨.bool b, .bool b⟩

/-- A number. -/
def number (n : Number) : Payload := ⟨.number n, .number n⟩

/-- A text. -/
def string (s : String) : Payload := ⟨.string s, .string s⟩

/-- The array of a list of values. -/
def array (items : List Payload) : Payload :=
  ⟨.array (items.map Payload.value), .array fun v hv => by
    obtain ⟨o, -, rfl⟩ := List.mem_map.1 hv
    exact o.canonical⟩

/-- The object with the entries of a map. -/
def object (members : KeyMap Payload) : Payload :=
  ⟨.object (members.entries.map fun m => (m.1, m.2.value)), .object
    (by simpa only [List.map_map, Function.comp_def] using members.sorted)
    (fun m hm => by
      obtain ⟨o, -, rfl⟩ := List.mem_map.1 hm
      exact o.2.canonical)⟩

end Payload

end OfflineManifest.Json
