import GoScaffold.Settings.Custom

/-!
# Settings

What steers a generation run. Settings are taken from files and command lines as they stand, so
each holds a JSON value of any kind; switches follow its truth value, and messages show its text.
Keys that name no setting are kept in `custom`.
-/
namespace GoScaffold

open GoScaffold.Text

def defaultModule : String := "myproject"

structure Settings where
  moduleName : Json := .str defaultModule
  database : Json := .str "postgres"
  validation : Json := .bool false
  businessRules : Json := .bool false
  timestamps : Json := .bool false
  softDelete : Json := .bool false
  transactions : Json := .bool false
  fileNaming : Json := .str "lowercase"
  templateDir : Json := .null
  materializeTemplates : Json := .bool true
  custom : Custom := .entries []
  deriving Repr, Inhabited

namespace Settings

/-- The settings but the custom ones, by name, in the order in which they are written. -/
def fields (s : Settings) : List (String × Json) := [
  ("module_name", s.moduleName),
  ("database", s.database),
  ("validation", s.validation),
  ("business_rules", s.businessRules),
  ("timestamps", s.timestamps),
  ("soft_delete", s.softDelete),
  ("transactions", s.transactions),
  ("file_naming", s.fileNaming),
  ("template_dir", s.templateDir),
  ("materialize_templates", s.materializeTemplates)]

def customName : String := "custom"

def names : List String := OrderedMap.keys (fields {}) ++ [customName]

def isKnown (name : String) : Bool := names.contains name

/-- The settings with the values of some of them, the others at their defaults. -/
def ofKnown (values : List (String × Json)) : Settings :=
  let value (name : String) (default : Json) : Json := (OrderedMap.get? name values).getD default
  let d : Settings := {}
  { moduleName := value "module_name" d.moduleName
    database := value "database" d.database
    validation := value "validation" d.validation
    businessRules := value "business_rules" d.businessRules
    timestamps := value "timestamps" d.timestamps
    softDelete := value "soft_delete" d.softDelete
    transactions := value "transactions" d.transactions
    fileNaming := value "file_naming" d.fileNaming
    templateDir := value "template_dir" d.templateDir
    materializeTemplates := value "materialize_templates" d.materializeTemplates
    custom := ((OrderedMap.get? customName values).map Custom.ofJson).getD d.custom }

/-- The settings that an object names, unless it names something else. -/
def ofFields? (values : List (String × Json)) : Option Settings :=
  if values.all (isKnown ·.1) then some (ofKnown values) else none

def same (s t : Settings) : Bool := Json.sameFields s.fields t.fields && s.custom.same t.custom

end Settings

end GoScaffold
