import OfflineManifest.Json.Decode
import OfflineManifest.Proofs.Json.Strings

/-! # What outlines denote

An outline denotes a value if its strings denote the texts, its numbers denote the numbers, and its
containers are closed. How the value was written is left open: blanks, escapes and the digits of
numbers do not matter. -/

namespace OfflineManifest.Json.Outline

mutual

/-- **An outline denotes a value.** -/
inductive Denotes : Outline → Value → Prop
  | null : Denotes .null .null
  | bool (b : Bool) : Denotes (.bool b) (.bool b)
  | number {k : Numeral} {n : Number} (h : k.value? = .ok n) : Denotes (.number k) (.number n)
  | string {t : Lexeme} {s : String} (h : t.Denotes s) : Denotes (.string t) (.string s)
  | array {os : List Outline} {vs : List Value} (h : ItemsDenote os vs) :
    Denotes (.array os .closed) (.array vs)
  | object {os : List (Lexeme × Outline)} {members : List (String × Value)}
    (h : MembersDenote os members) : Denotes (.object os .closed) (.object members)

/-- Items denote the values of a list. -/
inductive ItemsDenote : List Outline → List Value → Prop
  | nil : ItemsDenote [] []
  | cons {o : Outline} {v : Value} {os : List Outline} {vs : List Value} (h : Denotes o v)
    (hrest : ItemsDenote os vs) : ItemsDenote (o :: os) (v :: vs)

/-- Members denote names with values. -/
inductive MembersDenote : List (Lexeme × Outline) → List (String × Value) → Prop
  | nil : MembersDenote [] []
  | cons {t : Lexeme} {name : String} {o : Outline} {v : Value} {os : List (Lexeme × Outline)}
    {members : List (String × Value)} (hname : t.Denotes name) (h : Denotes o v)
    (hrest : MembersDenote os members) : MembersDenote ((t, o) :: os) ((name, v) :: members)

end

theorem ItemsDenote.append {os os' : List Outline} {vs vs' : List Value} (h : ItemsDenote os vs)
    (h' : ItemsDenote os' vs') : ItemsDenote (os ++ os') (vs ++ vs') := by
  induction vs generalizing os with
  | nil => cases h; exact h'
  | cons v vs ih => cases h with | cons hv h => exact .cons hv (ih h)

theorem MembersDenote.append {os os' : List (Lexeme × Outline)}
    {members members' : List (String × Value)} (h : MembersDenote os members)
    (h' : MembersDenote os' members') : MembersDenote (os ++ os') (members ++ members') := by
  induction members generalizing os with
  | nil => cases h; exact h'
  | cons m members ih => cases h with | cons hname hv h => exact .cons hname hv (ih h)

mutual

/-- **An outline that denotes a value is read over** without a fault. -/
theorem skip_of_denotes : ∀ {v : Value} {o : Outline}, Denotes o v → skip o = .ok ()
  | _, _, .null => rfl
  | _, _, .bool _ => rfl
  | _, _, .number _ => rfl
  | _, _, .string h => by rw [skip, Lexeme.skip, h.stop]; rfl
  | .array _, _, .array h => by rw [skip, skipItems_of_denote h]; rfl
  | .object _, _, .object h => by rw [skip, skipMembers_of_denote h]; rfl

theorem skipItems_of_denote : ∀ {vs : List Value} {os : List Outline}, ItemsDenote os vs →
    skipItems os = .ok ()
  | _, _, .nil => rfl
  | _ :: _, _, .cons h hrest => by
    rw [skipItems, skip_of_denotes h]
    exact skipItems_of_denote hrest

theorem skipMembers_of_denote : ∀ {members : List (String × Value)}
    {os : List (Lexeme × Outline)}, MembersDenote os members → skipMembers os = .ok ()
  | _, _, .nil => rfl
  | _ :: _, _, .cons hname h hrest => by
    rw [skipMembers, Lexeme.skip, hname.stop]
    simp only [Lexeme.stopFault?, skip_of_denotes h]
    exact skipMembers_of_denote hrest

end

end OfflineManifest.Json.Outline
