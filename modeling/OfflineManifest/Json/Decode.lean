import OfflineManifest.Json.Outline

/-! # Reading values from outlines

A decoder takes an outline to a value of some type, or to the first fault in the order of the text.
Containers may nest 127 deep; a decoder is told how many levels are left. Parts of a text that no
one asks for are skipped: they may nest as deep as they like, numbers and text in them may denote
nothing, and some faults in them have other names.

The order in which a decoder looks at things is part of its meaning: what comes first in the text is
looked at first, a name before its colon, the kind of a value before what is inside it.
-/

namespace OfflineManifest.Json

/-- How deep containers may nest. -/
def nestLimit : Nat := 127

/-- A way of reading values of a type, given the number of levels left. -/
abbrev Decoder (α : Type) := Nat → Outline → Except Fault α

/-! ### Faults that every reader meets -/

/-- The fault of what should be a value and is none. -/
def Broken.fault : Broken → Fault
  | stray => .expectedValue
  | word _ textEnd => if textEnd then .endInValue else .expectedWord
  | number textEnd => if textEnd then .endInValue else .invalidNumber

/-- What a number is called where something else is asked for. -/
def Number.found : Number → Found
  | natural n => .integer n.toNat
  | negative m _ => .integer (-m)
  | float x _ => .float x

/-- The fault of a missing colon. -/
def colonFault (textEnd : Bool) : Fault := if textEnd then .endInObject else .expectedColon

/-- The fault of a value that is not of the kind that is asked for. -/
def Outline.mismatch (o : Outline) (expected : String) : Fault :=
  match o with
  | null => .invalidType .null expected
  | bool b => .invalidType (.bool b) expected
  | number n =>
    match n.value? with
    | .ok v => .invalidType v.found expected
    | .error e => e
  | string s =>
    match s.text? with
    | .ok t => .invalidType (.string t) expected
    | .error e => e
  | array _ _ => .invalidType .sequence expected
  | object _ _ => .invalidType .map expected
  | broken b => b.fault
  | missing => .endInValue
  | noColon textEnd => colonFault textEnd

/-- The fault at the end of an array that is read to its end. -/
def ArrayEnd.check : ArrayEnd → Except Fault Unit
  | closed | inside => .ok ()
  | textEnd => .error .endInArray
  | unexpected => .error .expectedCommaOrBracket
  | commaClosed => .error .trailingComma
  | commaTextEnd => .error .endInValue

/-- The fault at the end of an array of which no more items are asked for. -/
def ArrayEnd.checkNoMore : ArrayEnd → Except Fault Unit
  | closed | inside => .ok ()
  | textEnd => .error .endInArray
  | commaClosed => .error .trailingComma
  | unexpected | commaTextEnd => .error .trailingCharacters

/-- The fault at the end of an object. -/
def ObjectEnd.check : ObjectEnd → Except Fault Unit
  | closed | inside => .ok ()
  | textEnd => .error .endInObject
  | unexpected => .error .expectedCommaOrBrace
  | commaClosed => .error .trailingComma
  | commaTextEnd => .error .endInValue
  | badName => .error .keyNoString

/-! ### Skipping -/

/-- The fault at the end of an array that is skipped. -/
def ArrayEnd.skip : ArrayEnd → Except Fault Unit
  | closed | inside => .ok ()
  | textEnd => .error .endInArray
  | unexpected => .error .expectedCommaOrBracket
  | commaClosed => .error .expectedValue
  | commaTextEnd => .error .endInValue

/-- The fault at the end of an object that is skipped. -/
def ObjectEnd.skip : ObjectEnd → Except Fault Unit
  | closed | inside => .ok ()
  | textEnd | commaTextEnd => .error .endInObject
  | unexpected => .error .expectedCommaOrBrace
  | commaClosed | badName => .error .keyNoString

/-- The fault of what should be a value and is none, where it is skipped. -/
def Broken.skipFault : Broken → Fault
  | number _ => .invalidNumber
  | b => b.fault

namespace Outline

mutual

/-- **Reads over a value** that no one asks for. -/
def skip : Outline → Except Fault Unit
  | null | bool _ | number _ => .ok ()
  | string s => s.skip
  | array items stop =>
    match skipItems items with
    | .error e => .error e
    | .ok () => stop.skip
  | object members stop =>
    match skipMembers members with
    | .error e => .error e
    | .ok () => stop.skip
  | broken b => .error b.skipFault
  | missing => .error .endInValue
  | noColon textEnd => .error (colonFault textEnd)

/-- Reads over items. -/
def skipItems : List Outline → Except Fault Unit
  | [] => .ok ()
  | o :: rest =>
    match skip o with
    | .error e => .error e
    | .ok () => skipItems rest

/-- Reads over members. -/
def skipMembers : List (Lexeme × Outline) → Except Fault Unit
  | [] => .ok ()
  | (name, o) :: rest =>
    match name.skip with
    | .error e => .error e
    | .ok () =>
      match skip o with
      | .error e => .error e
      | .ok () => skipMembers rest

end

end Outline

namespace Decoder

/-! ### Texts, numbers, truth values -/

/-- A text. -/
def text : Decoder String
  | _, .string s => s.text?
  | _, o => .error (o.mismatch "a string")

/-- A truth value. -/
def bool : Decoder Bool
  | _, .bool b => .ok b
  | _, o => .error (o.mismatch "a boolean")

/-- A natural number below a bound, which goes by a name. -/
def natural (bound : Nat) (name : String) : Decoder Nat
  | _, .number n =>
    match n.value? with
    | .error e => .error e
    | .ok (.natural k) =>
      if k.toNat < bound then .ok k.toNat else .error (.invalidValue (.integer k.toNat) name)
    | .ok (.negative m _) => .error (.invalidValue (.integer (-m)) name)
    | .ok (.float x _) => .error (.invalidType (.float x) name)
  | _, o => .error (o.mismatch name)

/-- A natural number of 16 bits. -/
def uint16 : Decoder UInt16 := fun n o => (natural UInt16.size "u16" n o).map UInt16.ofNat

/-- A natural number of 32 bits. -/
def uint32 : Decoder UInt32 := fun n o => (natural UInt32.size "u32" n o).map UInt32.ofNat

/-- A natural number of 64 bits. -/
def uint64 : Decoder UInt64 := fun n o => (natural UInt64.size "u64" n o).map UInt64.ofNat

/-- A value that null stands in for the absence of. Of the word only the first letter decides. -/
def nullable {α : Type} (d : Decoder α) : Decoder (Option α)
  | _, .null => .ok none
  | _, .broken (.word true textEnd) => .error (Broken.word true textEnd).fault
  | n, o => (d n o).map some

/-- One of several names, as a text or as the name of an object's only member, whose value is
null. -/
def oneOf {α : Type} (variants : List (String × α)) : Decoder α := fun n o =>
  let find := fun (s : Lexeme) => do
    let t ← s.text?
    match variants.lookup t with
    | some a => return a
    | none => throw (.unknownVariant t (variants.map Prod.fst))
  match o with
  | .string s => find s
  | .object members stop =>
    if n = 0 then .error .nestedTooDeep
    else
      match members with
      | [] =>
        match stop with
        | .badName => .error .keyNoString
        | .textEnd => .error .endInObject
        | _ => .error .expectedValue
      | (name, value) :: more => do
        let a ← find name
        match value with
        | .null => pure ()
        | o => throw (o.mismatch "unit")
        match more, stop with
        | [], .closed | [], .inside => return a
        | [], .textEnd => throw .endInObject
        | _, _ => throw .expectedValue
  | .missing => .error .endInValue
  | .noColon textEnd => .error (colonFault textEnd)
  | _ => .error .expectedValue

/-! ### Containers -/

/-- The items of an array. -/
def items {α : Type} (d : Decoder α) (n : Nat) (items : List Outline) (stop : ArrayEnd) :
    Except Fault (List α) := do
  let values ← items.mapM (d n)
  stop.check
  return values

/-- An array of values. -/
def list {α : Type} (d : Decoder α) : Decoder (List α)
  | 0, .array _ _ => .error .nestedTooDeep
  | n + 1, .array os stop => items d n os stop
  | _, o => .error (o.mismatch "a sequence")

/-- A text, or an array of texts; a text alone is the array of itself. -/
def textOrList (expected : String) : Decoder (List String)
  | _, .string s => s.text?.map fun t => [t]
  | 0, .array _ _ => .error .nestedTooDeep
  | n + 1, .array os stop => items text n os stop
  | _, o => .error (o.mismatch expected)

/-- An object with any names and values of one type; the last value of a name counts. -/
def map {α : Type} (d : Decoder α) : Decoder (KeyMap α)
  | 0, .object _ _ => .error .nestedTooDeep
  | n + 1, .object members stop => do
    let entries ← members.mapM fun (name, o) => do
      let key ← name.text?
      let value ← d n o
      return (key, value)
    stop.check
    return KeyMap.ofList entries
  | _, o => .error (o.mismatch "a map")

mutual

/-- Any value. -/
def anyValue (n : Nat) (o : Outline) : Except Fault Payload :=
  match o with
  | .null => .ok .null
  | .bool b => .ok (.bool b)
  | .number k => k.value?.map Payload.number
  | .string s => s.text?.map Payload.string
  | .array os stop =>
    match n with
    | 0 => .error .nestedTooDeep
    | n + 1 =>
      match anyItems n os, stop.check with
      | .error e, _ => .error e
      | .ok _, .error e => .error e
      | .ok values, .ok () => .ok (.array values)
  | .object members stop =>
    match n with
    | 0 => .error .nestedTooDeep
    | n + 1 =>
      match anyMembers n members, stop.check with
      | .error e, _ => .error e
      | .ok _, .error e => .error e
      | .ok entries, .ok () => .ok (.object (KeyMap.ofList entries))
  | o => .error (o.mismatch "any value")

/-- Any items. -/
def anyItems (n : Nat) : List Outline → Except Fault (List Payload)
  | [] => .ok []
  | o :: rest =>
    match anyValue n o with
    | .error e => .error e
    | .ok v => (anyItems n rest).map (v :: ·)

/-- Any members. -/
def anyMembers (n : Nat) : List (Lexeme × Outline) → Except Fault (List (String × Payload))
  | [] => .ok []
  | (name, o) :: rest =>
    match name.text? with
    | .error e => .error e
    | .ok key =>
      match anyValue n o with
      | .error e => .error e
      | .ok v => (anyMembers n rest).map ((key, v) :: ·)

end

/-- **Reads a whole text.** -/
def run {α : Type} (d : Decoder α) (text : String) : Except Fault α := do
  let (o, more) := Outline.ofText text
  let value ← d nestLimit o
  if more then throw .trailingCharacters
  return value

end Decoder

end OfflineManifest.Json
