import GoScaffold.CommandLine.Command
import GoScaffold.CommandLine.Display
import GoScaffold.Generation.Run
import GoScaffold.Logging

/-!
# Runs of the command line

The whole program as a function: from the files and the words of a command line to the files
afterwards, what is shown, and the exit status.
-/
namespace GoScaffold.CommandLine

open GoScaffold.Template

/-- What the reader of the command line prints by itself. -/
inductive Notice
  | usage
  | text (s : String)
  deriving Repr, DecidableEq

structure Output where
  exit : Nat
  notices : List Notice := []
  console : List Display := []
  deriving Repr, DecidableEq

namespace Output

/-- What is shown where reading the command line ends early. -/
def ofStop : Stop → Output
  | .help => { exit := 0, notices := [.usage] }
  | .version => { exit := 0, notices := [.text s!"{programName} {programVersion}\n"] }
  | .misuse program m =>
    { exit := 2, notices := [.usage, .text s!"{program}: error: {m.message}\n"] }

def failing (console : List Display) : Output := { exit := 1, console }

end Output

/-- Why options do not make a run. -/
inductive OptionFault
  | settings (f : SettingsFault)
  | project (f : ReadFault)
  | noPath
  deriving Repr, DecidableEq

namespace OptionValue

def path : OptionValue → Except OptionFault Path
  | .nothing => .error .noPath
  | .text s => .ok (.ofString s)

end OptionValue

namespace GenerateOptions

/-- No module is named by the options or by the settings. -/
def lacksModule (o : GenerateOptions) (s : Settings) : Bool :=
  (o.moduleName.all fun m => m.orEmpty = "") && s.moduleName.same (.str defaultModule)

/-- The settings of the options over those of the settings file. Without a module the project says
which one it is, and a dry run writes no templates. -/
def settings (o : GenerateOptions) (t : Tree) : Except OptionFault Settings := do
  let s ← (Settings.load t o.overrides (o.config.map OptionValue.orEmpty)).mapError .settings
  let s ← if o.lacksModule s then do
      let name ← (Settings.detectModule t (← o.outputDir.path)).mapError .project
      pure { s with moduleName := .str name }
    else pure s
  return if o.dryRun then { s with materializeTemplates := .bool false } else s

/-- A dry run writes drafts over the project instead of files. -/
def store (o : GenerateOptions) : Except OptionFault Store :=
  o.outputDir.path.map fun root => if o.dryRun then .overlay root else .disk root

/-- A text is read as a descriptor; without one there are no fields. -/
def fieldSource (o : GenerateOptions) : FieldSource :=
  match o.fields with
  | .nothing => .given []
  | .text s => .descriptor (some s)

end GenerateOptions

def showOptionFault (f : OptionFault) : Display :=
  match f with
  | .settings (.file path fault) =>
    .error ("Configuration error: " ++ (SettingsFault.file path fault).message)
  | .settings f => .unexpected f.message
  | .project f => .unexpected (Template.ReadFault.inner f)
  | .noPath => .unexpected (AdviceFault.notPath (Json.kind (.array []))).message

/-- What is shown of a run that came to nothing. -/
def showRunFault (f : RunFault) : List Display :=
  match f with
  | .descriptor e => Display.descriptorFault e
  | f => if f.isReported then [.failed f.message] else [.unexpected f.message]

def showReport (o : GenerateOptions) (drafts : List (String × String)) (r : Report) :
    List Display :=
  Display.outcomes r o.dryRun ++ (if o.dryRun then Display.drafts r drafts else []) ++
    (if o.verbose then Display.summary r else []) ++ Display.warnings r ++ Display.failures r

/-- The store and the settings of a run. -/
def prepare (t : Tree) (o : GenerateOptions) : Except OptionFault (Store × Settings) := do
  let settings ← o.settings t
  return (← o.store, settings)

def runGenerate (t : Tree) (layers : List Layer) (o : GenerateOptions) : Tree × Output :=
  match prepare t o with
  | .error f => (t, .failing [showOptionFault f])
  | .ok (store, s) =>
    let request : Request := {
      entity := o.name, fields := o.fieldSource, settings := .given s,
      layers := layers.map (·.name) }
    let status := Display.status s!"[green]Generating {o.name}..."
    match generate .builtin store { tree := t } request with
    | (w, .error f) => (w.tree, .failing (status :: showRunFault f))
    | (w, .ok r) =>
      (w.tree, { exit := if r.success then 0 else 1, console := status :: showReport o w.drafts r })

/-- What is shown of templates written to a directory. -/
def showMaterialized (directory : String) : Except TemplateFault (List Path) → Output
  | .error (.unreachable e) => .failing [.unexpected e.message]
  | .error (.unwritable f) =>
    .failing [if f.isRefusal then .error f.message else .unexpected f.message]
  | .error f => .failing [.error f.message]
  | .ok [] =>
    { exit := 0, console := [.text (Display.styled "yellow"
        s!"⚠️  {directory} already contains templates (use --force to overwrite)")] }
  | .ok paths =>
    { exit := 0, console := [.text (Display.styled "green" "✓" ++
        s!" Wrote {paths.length} templates to " ++ Display.styled "cyan" directory)] }

/-- Writes the built-in templates into a directory, or lists the templates. -/
def runShelf (t : Tree) (o : TemplateOptions) (directory : String) : Tree × Output :=
  let shelf : Shelf := { directory := some (.ofString directory) }
  if o.action = "init" then
    let (t, r) := shelf.materialize o.force t
    (t, showMaterialized directory r)
  else match shelf.list t with
    | .error e => (t, .failing [.unexpected e.message])
    | .ok templates => (t, { exit := 0, console := Display.templates templates })

def runTemplates (t : Tree) (o : TemplateOptions) : Tree × Output :=
  match o.directory with
  | .nothing => (t, .failing [showOptionFault .noPath])
  | .text directory => runShelf t o directory

def layerInfos (r : Roster) : List LayerInfo := r.names.filterMap fun n => (r.info n).toOption

def runCommand (t : Tree) : Command → Tree × Output
  | .generate layers o => runGenerate t layers o
  | .templates o => runTemplates t o
  | .layers => (t, { exit := 0, console := Display.layers (layerInfos .builtin) })

/-- The level at which a run logs: a verbose one tells more. -/
def Invocation.loggingLevel (i : Invocation) : Option OptionValue :=
  match i.command with
  | some (.generate _ o) =>
    if o.verbose && i.logLevel.all fun l => l.orEmpty = "" then some (.text "INFO") else i.logLevel
  | _ => i.logLevel

/-- Sets up the log of a run; a level that is nothing cannot be one. -/
def Invocation.setupLog (i : Invocation) (t : Tree) (environment : Option String) :
    Except Logging.SetupFault (Tree × Logging.Setup) :=
  match i.loggingLevel with
  | some .nothing => .error .noLevel
  | some (.text level) => Logging.setup t (some level) none environment
  | none => Logging.setup t none none environment

/-- Runs a command line; `environment` is the level of the log that the environment asks for. -/
def run (t : Tree) (environment : Option String) (words : List String) :
    Except Logging.SetupFault (Tree × Output) :=
  match Invocation.read words with
  | .error s => .ok (t, .ofStop s)
  | .ok i =>
    match i.setupLog t environment with
    | .error f => .error f
    | .ok _ =>
      match i.command with
      | none => .ok (t, { exit := 1, notices := [.usage] })
      | some c => .ok (runCommand t c)

end GoScaffold.CommandLine
