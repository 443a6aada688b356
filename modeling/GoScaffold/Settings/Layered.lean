import GoScaffold.Json.Reader
import GoScaffold.Settings.Basic
import GoScaffold.Text.Casing
import GoScaffold.Workspace.Text

/-!
# Layers of settings

The effective settings are the defaults, then those of a file, then the overrides. In a file a null
counts as a value; in the overrides it counts as absent.
-/
namespace GoScaffold

/-- What is wrong with a settings file. -/
inductive SettingsFileFault
  | absent
  | notJson
  | invalid (fault : Json.Fault) (text : String)
  | refused (error : FileError)
  | notObject
  deriving Repr, DecidableEq

inductive SettingsFault
  | file (path : Path) (fault : SettingsFileFault)
  | undecodable (fault : Text.Utf8Fault)
  | numberTooLong (digits : Nat)
  | nestedTooDeep (kind : String)
  | unreachable (error : FileError)
  | custom (fault : EntriesFault)
  deriving Repr, DecidableEq

def SettingsFileFault.message (path : String) : SettingsFileFault → String
  | .absent => s!"Configuration file not found: {path}"
  | .notJson => s!"Configuration file must be JSON: {path}"
  | .invalid fault text =>
    s!"Invalid JSON in configuration file {path}: {fault.message text.toList}"
  | .refused e => s!"Failed to load configuration file {path}: {e.message}"
  | .notObject => s!"Configuration file must contain a JSON object: {path}"

def SettingsFault.message : SettingsFault → String
  | .file path fault => fault.message path.text
  | .undecodable f => f.message
  | .numberTooLong n => (Json.Cause.numberTooLong n).text
  | .nestedTooDeep kind => (Json.Cause.nestedTooDeep kind).text
  | .unreachable e => e.message
  | .custom f => f.message

namespace Settings

def readFile (t : Tree) (path : Path) : Except SettingsFault (List (String × Json)) :=
  match t.holds path with
  | .error e => .error (.unreachable e)
  | .ok false => .error (.file path .absent)
  | .ok true =>
    if Text.lower path.suffix ≠ ".json" then .error (.file path .notJson)
    else match t.readText path with
      | .error (.refused e) => .error (.file path (.refused e))
      | .error (.undecodable f) => .error (.undecodable f)
      | .ok text =>
        match Json.read text with
        | .error ⟨.numberTooLong n, _⟩ => .error (.numberTooLong n)
        | .error ⟨.nestedTooDeep kind, _⟩ => .error (.nestedTooDeep kind)
        | .error fault => .error (.file path (.invalid fault text))
        | .ok (.object entries) => .ok entries
        | .ok _ => .error (.file path .notObject)

/-- Settings from values by name; those that name no setting go to `custom`. -/
def ofEntries (entries : List (String × Json)) : Except SettingsFault Settings :=
  let known := entries.filter (isKnown ·.1)
  let unknown := entries.filter fun e => !isKnown e.1
  let s := ofKnown known
  if unknown.isEmpty then .ok s
  else match s.custom.base with
    | .error f => .error (.custom f)
    | .ok own => .ok { s with custom := .entries (own.putAll (Entries.ofFields unknown)) }

/-- The entries of three layers, the later ones winning. -/
def layered (file overrides : List (String × Json)) : List (String × Json) :=
  OrderedMap.insertAll (OrderedMap.insertAll (fields {}) file)
    (overrides.filter fun e => match e.2 with
      | .null => false
      | _ => true)

/-- The effective settings; an empty path names no file. -/
def load (t : Tree) (overrides : List (String × Json)) (file : Option String) :
    Except SettingsFault Settings := do
  let fromFile ← match file with
    | none => .ok []
    | some "" => .ok []
    | some path => readFile t (.ofString path)
  ofEntries (layered fromFile overrides)

end Settings

end GoScaffold
