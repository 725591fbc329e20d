import OfflineManifest.Config.Basic
import OfflineManifest.Toml.Document

/-! # Configurations in TOML

The same data as in JSON, read from TOML. A record may be given as an array of its fields too, of
which those behind the last field do not count; the name of an install mode or strategy may be given
as the only key of a table whose value is empty. In payloads, floating-point numbers that are not
finite become null and dates become an object with their written form.
-/

namespace OfflineManifest.Toml

open Json (Payload Number)

/-- A way of reading a value of some type. -/
abbrev Decoder (α : Type) := Node → Option α

namespace Decoder

/-- A text. -/
def text : Decoder String
  | .string s => some s
  | _ => none

/-- A natural number below a bound. -/
def natural (bound : Nat) : Decoder Nat
  | .integer n => if 0 ≤ n ∧ n < bound then some n.toNat else none
  | _ => none

/-- An array of values. -/
def list {α : Type} (d : Decoder α) : Decoder (List α)
  | .array items => items.mapM d
  | .tables ts => ts.mapM fun t => d (.table t)
  | _ => none

/-- A text, or an array of texts. -/
def textOrList : Decoder (List String)
  | .string s => some [s]
  | node => list text node

/-- Whether a value stands for nothing. -/
def isEmpty : Node → Bool
  | .array items => items.isEmpty
  | .inline t | .table t => t.entries.isEmpty
  | .tables ts => ts.isEmpty
  | _ => false

/-- One of several names. -/
def oneOf {α : Type} (variants : List (String × α)) : Decoder α
  | .string s => variants.lookup s
  | .inline t | .table t =>
    match t.entries with
    | [(name, v)] => if isEmpty v then variants.lookup name else none
    | _ => none
  | _ => none

/-- The fields of a record, by name or by position. -/
inductive Fields where
  | named (entries : List (String × Node))
  | ordered (items : List Node)

/-- What a node says about the fields of a record. -/
def fields? : Decoder Fields
  | .inline t | .table t => some (.named t.entries)
  | .array items => some (.ordered items)
  | .tables ts => some (.ordered (ts.map .table))
  | .datetime _ => some (.named [])
  | _ => none

/-- The field with a name and a position. -/
def Fields.get? (fs : Fields) (name : String) (position : Nat) : Option Node :=
  match fs with
  | named entries => entries.lookup name
  | ordered items => items[position]?

/-- A field that must be given. -/
def required {α : Type} (fs : Fields) (name : String) (position : Nat) (d : Decoder α) : Option α :=
  (fs.get? name position).bind d

/-- A field with a value where it is not given. -/
def withDefault {α : Type} (fs : Fields) (name : String) (position : Nat) (d : Decoder α)
    (value : α) : Option α :=
  match fs.get? name position with
  | none => some value
  | some node => d node

/-- A field that may be left out. -/
def optional {α : Type} (fs : Fields) (name : String) (position : Nat) (d : Decoder α) :
    Option (Option α) :=
  withDefault fs name position (fun node => (d node).map some) none

/-! ### Payloads -/

/-- The number of a whole number in the range of 64 bits with a sign. -/
def wholeNumber? (n : Int) : Option Number :=
  if 0 ≤ n then
    if n < UInt64.size then some (.natural (UInt64.ofNat n.toNat)) else none
  else if h : 0 < n.natAbs ∧ n.natAbs ≤ Json.negativeLimit then some (.negative n.natAbs h)
  else none

mutual

/-- Any value. -/
def anyValue : Node → Payload
  | .string s => .string s
  | .integer n =>
    match wholeNumber? n with
    | some k => .number k
    | none => .null
  | .float x => if h : x.isFinite = true then .number (.float x h) else .null
  | .boolean b => .bool b
  | .datetime written => .object (KeyMap.ofList [("$__toml_private_datetime", .string written)])
  | .array items => .array (anyItems items)
  | .inline ⟨_, _, entries⟩ | .table ⟨_, _, entries⟩ => .object (KeyMap.ofList (anyEntries entries))
  | .tables ts => .array (anyTables ts)

/-- Any items. -/
def anyItems : List Node → List Payload
  | [] => []
  | v :: rest => anyValue v :: anyItems rest

/-- Any entries. -/
def anyEntries : List (String × Node) → List (String × Payload)
  | [] => []
  | (key, v) :: rest => (key, anyValue v) :: anyEntries rest

/-- Any tables. -/
def anyTables : List (Table Node) → List Payload
  | [] => []
  | ⟨_, _, entries⟩ :: rest => .object (KeyMap.ofList (anyEntries entries)) :: anyTables rest

end

/-! ### The parts of a configuration -/

/-- Resources. -/
def resources : Decoder Resources := fun node => do
  let fs ← fields? node
  let files ← withDefault fs "files" 0 textOrList []
  let versionedFiles ← withDefault fs "versionedFiles" 1 textOrList []
  let urls ← withDefault fs "urls" 2 textOrList []
  return { files, versionedFiles, urls }

/-- An asset group. -/
def assetGroup : Decoder AssetGroup := fun node => do
  let fs ← fields? node
  let name ← required fs "name" 0 text
  let installMode ← optional fs "installMode" 1 (oneOf InstallMode.names)
  let updateMode ← optional fs "updateMode" 2 (oneOf InstallMode.names)
  let resources ← withDefault fs "resources" 3 resources {}
  return { name, installMode, updateMode, resources }

/-- A cache policy. -/
def cachePolicy : Decoder CachePolicy := fun node => do
  let fs ← fields? node
  let maxSize ← required fs "maxSize" 0 (natural UInt64.size)
  let maxAge ← required fs "maxAge" 1 text
  let timeout ← optional fs "timeout" 2 text
  let strategy ← optional fs "strategy" 3 (oneOf Strategy.names)
  return { maxSize := UInt64.ofNat maxSize, maxAge, timeout, strategy }

/-- A data group. -/
def dataGroup : Decoder DataGroup := fun node => do
  let fs ← fields? node
  let name ← required fs "name" 0 text
  let urls ← required fs "urls" 1 textOrList
  let version ← optional fs "version" 2 (natural UInt32.size)
  let cache ← required fs "cacheConfig" 3 cachePolicy
  return { name, urls, version := version.map UInt32.ofNat, cache }

/-- A configuration. -/
def config : Decoder Config := fun node => do
  let fs ← fields? node
  let index ← required fs "index" 0 text
  let appData ← optional fs "appData" 1 (some ∘ anyValue)
  let push ← optional fs "push" 2 (some ∘ anyValue)
  let assetGroups ← withDefault fs "assetGroups" 3 (list assetGroup) []
  let dataGroups ← withDefault fs "dataGroups" 4 (list dataGroup) []
  let navigationUrls ← optional fs "navigationUrls" 5 (list text)
  return { index, appData, push, assetGroups, dataGroups, navigationUrls }

end Decoder

/-- **Reads a configuration** from the text of a document. -/
def readConfig? (text : String) : Option Config :=
  (parse? text).bind fun t => Decoder.config (.table t)

end OfflineManifest.Toml
