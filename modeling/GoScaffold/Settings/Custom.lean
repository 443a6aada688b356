import GoScaffold.Json.Basic

/-!
# Custom settings

Settings under keys of their own. They are given as a JSON object, or as anything that can serve as
one, such as a list of pairs; a key is then not always a text. Two keys are one if their values are
equal: of a number written as `1`, as `1.0` or as `true` the first spelling stays.
-/
namespace GoScaffold

open GoScaffold.Decimal GoScaffold.Text

/-- Why a value cannot serve as a collection of entries. -/
inductive EntriesFault
  | noMembers (kind : String)
  | notSequence (index : Nat)
  | notPair (index size : Nat)
  | notKey (kind : String)
  deriving Repr, DecidableEq

def EntriesFault.message : EntriesFault → String
  | .noMembers kind => s!"'{kind}' object is not iterable"
  | .notSequence index =>
    s!"cannot convert dictionary update sequence element #{index} to a sequence"
  | .notPair index size =>
    s!"dictionary update sequence element #{index} has length {size}; 2 is required"
  | .notKey kind => s!"unhashable type: '{kind}'"

/-- What a custom setting is kept under. -/
inductive Key
  | null
  | bool (b : Bool)
  | int (n : Int)
  | float (x : Double)
  | text (s : String)
  deriving Repr, DecidableEq

namespace Key

def value : Key → Json
  | .null => .null
  | .bool b => .bool b
  | .int n => .int n
  | .float x => .float x
  | .text s => .str s

def name : Key → String
  | .null => "null"
  | .bool b => if b then "true" else "false"
  | .int n => toString n
  | .float x => if x.isNaN then "NaN"
    else if x.isInfinite then (if x.negative then "-Infinity" else "Infinity")
    else x.text
  | .text s => s

def same (k l : Key) : Bool := k.value.same l.value

end Key

/-- Entries in order of first insertion. -/
abbrev Entries := List (Key × Json)

namespace Entries

/-- Keeps a value under the key that is there already, if one is the same. -/
def put (es : Entries) (e : Key × Json) : Entries :=
  OrderedMap.insert (((OrderedMap.keys es).find? (·.same e.1)).getD e.1) e.2 es

def putAll (es : Entries) (more : List (Key × Json)) : Entries := more.foldl put es

def ofFields (fields : List (String × Json)) : Entries := fields.map fun f => (.text f.1, f.2)

/-- The entries as the fields of an object. Different keys may have one name. -/
def toFields (es : Entries) : List (String × Json) := es.map fun e => (e.1.name, e.2)

/-- The same values under the same keys, in any order. -/
def same (es es' : Entries) : Bool :=
  es.length == es'.length && es.all fun e =>
    match es'.find? fun e' => e'.1.same e.1 with
    | some e' => e.2.same e'.2
    | none => false

end Entries

namespace Json

/-- The kind of a value in the words of a message. -/
def kind : Json → String
  | .null => "NoneType"
  | .bool _ => "bool"
  | .int _ => "int"
  | .float _ => "float"
  | .str _ => "str"
  | .array _ => "list"
  | .object _ => "dict"

/-- The members of a value that has some: the characters of a string, the keys of an object. -/
def members? : Json → Option (List Json)
  | .str s => some (s.toList.map fun c => .str (.singleton c))
  | .array items => some items
  | .object fields => some (fields.map fun f => .str f.1)
  | _ => none

/-- The key that a value makes, if it can be one. -/
def key? : Json → Option Key
  | .null => some .null
  | .bool b => some (.bool b)
  | .int n => some (.int n)
  | .float x => some (.float x)
  | .str s => some (.text s)
  | _ => none

/-- Reads members as pairs of a key and a value; `index` is the number of the first. -/
def pairs (index : Nat) : List Json → Except EntriesFault (List (Key × Json))
  | [] => .ok []
  | m :: rest =>
    match m.members? with
    | none => .error (.notSequence index)
    | some [k, v] =>
      match k.key? with
      | none => .error (.notKey k.kind)
      | some k => (pairs (index + 1) rest).map ((k, v) :: ·)
    | some ms => .error (.notPair index ms.length)

/-- The entries of an object, or of a list of pairs. -/
def entries : Json → Except EntriesFault Entries
  | .object fields => .ok (.ofFields fields)
  | x =>
    match x.members? with
    | none => .error (.noMembers x.kind)
    | some ms => (pairs 0 ms).map (Entries.putAll [])

end Json

/-- The custom settings: entries, or a value that is no object and stays as it stands. -/
inductive Custom
  | entries (es : Entries)
  | value (j : Json)
  deriving Repr, Inhabited

namespace Custom

def ofJson : Json → Custom
  | .object fields => .entries (.ofFields fields)
  | j => .value j

def toJson : Custom → Json
  | .entries es => .object es.toFields
  | .value j => j

/-- The entries that the settings are written as. -/
def toEntries : Custom → Except EntriesFault Entries
  | .entries es => .ok es
  | .value j => j.entries

/-- The entries that further ones are added to; a value that counts as false has none. -/
def base : Custom → Except EntriesFault Entries
  | .entries es => .ok es
  | .value j => if j.truthy then j.entries else .ok []

def same : Custom → Custom → Bool
  | .entries es, .entries es' => es.same es'
  | .value j, .value j' => j.same j'
  | _, _ => false

end Custom

end GoScaffold
