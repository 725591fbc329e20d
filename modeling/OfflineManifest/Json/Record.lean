import OfflineManifest.Json.Decode

/-! # Reading records

A record has named fields with a type each. It is written as an object, in which the fields stand
in any order and unknown names are skipped, or as an array of its fields in order, which may end
before fields with a default.

A field list is a list of types too: `Slots fs` holds what has been read of the fields so far, and
`Values fs` a value for each of them.
-/

namespace OfflineManifest.Json

/-- A field of a record. -/
structure Field where
  type : Type
  name : String
  decode : Decoder type
  /-- the value of the field where it is not given -/
  default? : Option type

namespace Field

/-- A field that must be given. -/
def required {α : Type} (name : String) (d : Decoder α) : Field := ⟨α, name, d, none⟩

/-- A field that may be left out or null. -/
def optional {α : Type} (name : String) (d : Decoder α) : Field :=
  ⟨Option α, name, d.nullable, some none⟩

/-- A field that may be left out and then has a given value. -/
def withDefault {α : Type} (name : String) (d : Decoder α) (value : α) : Field :=
  ⟨α, name, d, some value⟩

/-- The values of fields. -/
def Values : List Field → Type
  | [] => Unit
  | f :: fs => f.type × Values fs

/-- The values of fields as far as they are known. -/
def Slots : List Field → Type
  | [] => Unit
  | f :: fs => Option f.type × Slots fs

/-- No values yet. -/
def noSlots : (fs : List Field) → Slots fs
  | [] => ()
  | _ :: fs => (none, noSlots fs)

/-- Reads the member with a name into its slot; there is none for an unknown name. -/
def put (n : Nat) (key : String) (o : Outline) :
    (fs : List Field) → Slots fs → Except Fault (Option (Slots fs))
  | [], _ => .ok none
  | f :: fs, (slot, slots) =>
    if key = f.name then
      match slot with
      | some _ => .error (.duplicateField f.name)
      | none =>
        match f.decode n o with
        | .error e => .error e
        | .ok v => .ok (some (some v, slots))
    else
      match put n key o fs slots with
      | .error e => .error e
      | .ok none => .ok none
      | .ok (some slots) => .ok (some (slot, slots))

/-- Reads members into their slots, in the order of the text. -/
def putAll (n : Nat) (fs : List Field) (slots : Slots fs) :
    List (Lexeme × Outline) → Except Fault (Slots fs)
  | [] => .ok slots
  | (name, o) :: rest =>
    match name.text? with
    | .error e => .error e
    | .ok key =>
      match put n key o fs slots with
      | .error e => .error e
      | .ok (some slots) => putAll n fs slots rest
      | .ok none =>
        match o.skip with
        | .error e => .error e
        | .ok () => putAll n fs slots rest

/-- The values of all fields, with defaults for those that were not given. -/
def complete : (fs : List Field) → Slots fs → Except Fault (Values fs)
  | [], _ => .ok ()
  | f :: fs, (slot, slots) =>
    match slot.or f.default? with
    | none => .error (.missingField f.name)
    | some v =>
      match complete fs slots with
      | .error e => .error e
      | .ok vs => .ok (v, vs)

/-- Reads fields from the items of an array, of which `i` were read before. -/
def inOrder (n i : Nat) (expected : String) (stop : ArrayEnd) :
    (fs : List Field) → List Outline → Except Fault (Values fs)
  | [], [] =>
    match stop.checkNoMore with
    | .error e => .error e
    | .ok () => .ok ()
  | [], _ :: _ => .error .trailingCharacters
  | f :: fs, o :: rest =>
    match f.decode n o with
    | .error e => .error e
    | .ok v =>
      match inOrder n (i + 1) expected stop fs rest with
      | .error e => .error e
      | .ok vs => .ok (v, vs)
  | f :: fs, [] =>
    match stop.check with
    | .error e => .error e
    | .ok () =>
      match f.default? with
      | none => .error (.invalidLength i expected)
      | some v =>
        match inOrder n (i + 1) expected stop fs [] with
        | .error e => .error e
        | .ok vs => .ok (v, vs)

end Field

/-- **A record** with a name and fields. -/
def Decoder.record {α : Type} (name : String) (fs : List Field) (build : Field.Values fs → α) :
    Decoder α
  | 0, .array _ _ | 0, .object _ _ => .error .nestedTooDeep
  | n + 1, .array items stop =>
    let elements := if fs.length = 1 then "1 element" else s!"{fs.length} elements"
    (Field.inOrder n 0 s!"struct {name} with {elements}" stop fs items).map build
  | n + 1, .object members stop => do
    let slots ← Field.putAll n fs (Field.noSlots fs) members
    stop.check
    return build (← Field.complete fs slots)
  | _, o => .error (o.mismatch s!"struct {name}")

end OfflineManifest.Json
