import GoScaffold.CommandLine.Grammar
import GoScaffold.Layer.Basic
import GoScaffold.Settings.Advice

/-!
# Commands

What a command line may ask for: generating one layer or all of them for an entity, managing the
template directory, or listing the layers.
-/
namespace GoScaffold.CommandLine

open GoScaffold.Text GoScaffold.Naming

def programName : String := "cleango"

def programVersion : String := "0.1.0"

structure GenerateOptions where
  name : String := ""
  fields : OptionValue := .text ""
  validation : Bool := false
  businessRules : Bool := false
  timestamps : Bool := false
  softDelete : Bool := false
  transactions : Bool := false
  moduleName : Option OptionValue := none
  database : Option OptionValue := none
  fileNaming : Option OptionValue := none
  config : Option OptionValue := none
  templateDir : Option OptionValue := none
  materialize : Bool := true
  outputDir : OptionValue := .text "."
  dryRun : Bool := false
  verbose : Bool := false
  deriving Repr, DecidableEq

structure TemplateOptions where
  action : String := ""
  directory : OptionValue := .text "templates"
  force : Bool := false
  deriving Repr, DecidableEq

inductive Command
  | generate (layers : List Layer) (o : GenerateOptions)
  | templates (o : TemplateOptions)
  | layers
  deriving Repr, DecidableEq

/-- What a command line asks for; without a command, only for help. -/
structure Invocation where
  logLevel : Option OptionValue
  command : Option Command
  deriving Repr, DecidableEq

/-- The commands that generate, each with its layers; no layers stand for all. -/
def generateCommands : List (String × List Layer) := [
  ("entity", [.domain]), ("dto", [.dto]), ("repository", [.repository]), ("handler", [.handler]),
  ("messages", [.messages]), ("feature", [])]

def commandNames : List String := generateCommands.map (·.1) ++ ["templates", "layers"]

variable {σ : Type}

def helpOption : Opt σ := ⟨["-h", "--help"], .help⟩

def flag (spellings : List String) (f : σ → σ) : Opt σ := ⟨spellings, .set f⟩

def valued (spellings : List String) (f : OptionValue → σ → σ) (choices : List String := []) : Opt σ :=
  ⟨spellings, .assign f choices⟩

def generateOptions : List (Opt GenerateOptions) := [
  helpOption,
  valued ["--fields", "-f"] fun v o => { o with fields := v },
  flag ["--validation"] fun o => { o with validation := true },
  flag ["--business-rules"] fun o => { o with businessRules := true },
  flag ["--timestamps"] fun o => { o with timestamps := true },
  flag ["--soft-delete"] fun o => { o with softDelete := true },
  flag ["--transactions"] fun o => { o with transactions := true },
  valued ["--module"] fun v o => { o with moduleName := some v },
  valued ["--database"] (fun v o => { o with database := some v })
    (Settings.databases.mergeSort fun a b => decide (a ≤ b)),
  valued ["--file-naming"] (fun v o => { o with fileNaming := some v })
    (FileNaming.all.map (·.name)),
  valued ["--config"] fun v o => { o with config := some v },
  valued ["--template-dir"] fun v o => { o with templateDir := some v },
  flag ["--no-materialize-templates"] fun o => { o with materialize := false },
  valued ["--output-dir", "-o"] fun v o => { o with outputDir := v },
  flag ["--dry-run"] fun o => { o with dryRun := true },
  flag ["--verbose", "-v"] fun o => { o with verbose := true }]

def generateGrammar (command : String) : Grammar GenerateOptions where
  program := programName ++ " " ++ command
  options := generateOptions
  argument := some (.word "name" [] fun s o => { o with name := s })

def templateActions : List String := ["init", "list"]

def templatesGrammar : Grammar TemplateOptions where
  program := programName ++ " templates"
  options := [
    helpOption,
    valued ["--dir"] fun v o => { o with directory := v },
    flag ["--force"] fun o => { o with force := true }]
  argument := some (.word "action" templateActions fun s o => { o with action := s })

def layersGrammar : Grammar Unit where
  program := programName ++ " layers"
  options := [helpOption]

/-- What stands before the command, and the command with its words. -/
structure Preamble where
  logLevel : Option OptionValue := none
  words : List String := []
  deriving Repr, DecidableEq

def mainGrammar : Grammar Preamble where
  program := programName
  options := [
    helpOption,
    ⟨["--version"], .version⟩,
    valued ["--log-level"] fun v p => { p with logLevel := some v }]
  argument := some (.rest "command" commandNames fun words p => { p with words })

/-- Reads the words of a command: the command, and what is left over. -/
def readCommand (command : String) (words : List String) : Except Stop (Command × List String) :=
  match generateCommands.lookup command with
  | some layers =>
    ((generateGrammar command).read {} words).map fun r => (.generate layers r.1, r.2)
  | none =>
    if command = "templates" then
      (templatesGrammar.read {} words).map fun r => (.templates r.1, r.2)
    else (layersGrammar.read () words).map fun r => (.layers, r.2)

/-- Refuses words that nothing takes. -/
def nothingLeft (words : List String) : Except Stop Unit :=
  if words.isEmpty then .ok () else .error (.misuse programName (.leftOver words))

/-- Reads a command line. -/
def Invocation.read (words : List String) : Except Stop Invocation := do
  let (preamble, leftOver) ← mainGrammar.read {} words
  match preamble.words with
  | [] =>
    nothingLeft leftOver
    return { logLevel := preamble.logLevel, command := none }
  | command :: words =>
    let (command, more) ← readCommand command words
    nothingLeft (leftOver ++ more)
    return { logLevel := preamble.logLevel, command := some command }

namespace OptionValue

/-- The value as a setting: nothing is an empty list. -/
def setting : OptionValue → Json
  | .nothing => .array []
  | .text s => .str s

/-- The text, which is empty where there is nothing. -/
def orEmpty : OptionValue → String
  | .nothing => ""
  | .text s => s

end OptionValue

/-- The settings that the options override. -/
def GenerateOptions.overrides (o : GenerateOptions) : List (String × Json) :=
  let named (name : String) (value : Option OptionValue) : List (String × Json) :=
    value.toList.map fun v => (name, v.setting)
  let switched (name : String) (on : Bool) : List (String × Json) :=
    if on then [(name, .bool true)] else []
  named "module_name" o.moduleName ++ named "database" o.database ++
    switched "validation" o.validation ++ switched "business_rules" o.businessRules ++
    switched "timestamps" o.timestamps ++ switched "soft_delete" o.softDelete ++
    switched "transactions" o.transactions ++ named "file_naming" o.fileNaming ++
    named "template_dir" o.templateDir ++
    if o.materialize then [] else [("materialize_templates", .bool false)]

end GoScaffold.CommandLine
