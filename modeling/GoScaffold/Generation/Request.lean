import GoScaffold.Entity.Basic
import GoScaffold.Layer.Roster
import GoScaffold.Settings.Advice
import GoScaffold.Template.Shelf
import GoScaffold.Workspace.Store

/-!
# Requests

What a generation run is asked for, and why a run may come to nothing. A fault is either reported to
the user as the result of the run, or it is beyond what a run answers for.
-/
namespace GoScaffold

open GoScaffold.Template

/-- Where the fields of an entity come from. -/
inductive FieldSource
  | descriptor (text : Option String)
  | given (fields : List Field)
  deriving Repr, DecidableEq

/-- Where the settings of a run come from. -/
inductive SettingsSource
  | overrides (entries : List (String × Json))
  | file (path : String)
  | given (settings : Settings)
  deriving Repr

/-- What a run is asked for; no layers stand for all. -/
structure Request where
  entity : String
  fields : FieldSource
  settings : SettingsSource := .overrides []
  layers : List String := []
  deriving Repr

/-- Why a run comes to nothing. -/
inductive RunFault
  | descriptor (e : Descriptor.Error)
  | settings (f : SettingsFault)
  | entity (f : EntityFault)
  | layers (f : RosterFault)
  | templates (f : TemplateFault)
  | templateDirectory (kind : String)
  | advice (f : AdviceFault)
  | store (f : StoreFault)
  deriving Repr, DecidableEq

/-- The file system refused, as opposed to a path that cannot be one. -/
def WriteFault.isRefusal : WriteFault → Bool
  | .refused .. => true
  | _ => false

def StoreFault.isRefusal : StoreFault → Bool
  | .unreadable .. => true
  | .undecodable _ => false
  | .unwritable f => f.isRefusal

def RunFault.isReported : RunFault → Bool
  | .descriptor _ => true
  | .settings (.file ..) => true
  | .settings _ => false
  | .entity (.unknownType _) => false
  | .entity _ => true
  | .layers (.missing _) => false
  | .layers _ => true
  | .templates (.unwritable f) => f.isRefusal
  | .templates (.unreachable _) => false
  | .templates _ => true
  | .templateDirectory _ => false
  | .advice _ => false
  | .store _ => false

def RunFault.message : RunFault → String
  | .descriptor e => e.message
  | .settings f => f.message
  | .entity f => f.message
  | .layers f => f.message
  | .templates f => f.message
  | .templateDirectory kind => (AdviceFault.notPath kind).message
  | .advice f => f.message
  | .store f => f.message

namespace Request

def readFields (r : Request) : Except RunFault (List Field) :=
  match r.fields with
  | .given fields => .ok fields
  | .descriptor text => (Descriptor.read .builtin text).mapError .descriptor

def readSettings (r : Request) (t : Tree) : Except RunFault Settings :=
  match r.settings with
  | .given s => .ok s
  | .overrides entries => (Settings.load t entries none).mapError .settings
  | .file path => (Settings.load t [] (some path)).mapError .settings

def readEntity (r : Request) (t : Tree) : Except RunFault Entity := do
  let fields ← r.readFields
  let settings ← r.readSettings t
  (Entity.ofFields r.entity fields settings).mapError .entity

end Request

/-- The templates that settings ask for. A template directory without templates is given the
built-in ones, unless the settings forbid it. -/
def Settings.press (s : Settings) (t : Tree) : Tree × Except RunFault Press :=
  match s.templateDir with
  | .null => (t, .ok (.create none))
  | .str dir =>
    let press := Press.create (some dir)
    if s.templateDir.truthy && s.materializeTemplates.truthy then
      match press.shelf.materialize false t with
      | (t, .ok _) => (t, .ok press)
      | (t, .error f) => (t, .error (.templates f))
    else (t, .ok press)
  | value => (t, .error (.templateDirectory value.kind))

end GoScaffold
