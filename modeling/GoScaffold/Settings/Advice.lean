import GoScaffold.Naming.GoName
import GoScaffold.Settings.Layered

/-!
# Advice on settings

Warnings about settings that a run would not stop for, and the module path that a project declares.
-/
namespace GoScaffold

open GoScaffold.Text GoScaffold.Naming

/-- Why a setting cannot be judged at all. -/
inductive AdviceFault
  | collection (kind : String)
  | notText (kind : String)
  | notPath (kind : String)
  | unreachable (error : FileError)
  deriving Repr, DecidableEq

def AdviceFault.message : AdviceFault → String
  | .collection kind => s!"unhashable type: '{kind}'"
  | .notText kind => s!"expected string or bytes-like object, got '{kind}'"
  | .notPath kind => s!"expected str, bytes or os.PathLike object, not {kind}"
  | .unreachable e => e.message

namespace Settings

def databases : List String := ["postgres", "mysql", "sqlite"]

/-- A warning about a value that is none of the choices; a collection is not even compared. -/
def offChoices (warning : String) (choices : List String) (value : Json) :
    Except AdviceFault (List String) :=
  match value with
  | .array _ => .error (.collection value.kind)
  | .object _ => .error (.collection value.kind)
  | .str s => .ok (if choices.contains s then [] else [warning ++ s])
  | x => .ok [warning ++ x.text]

def moduleAdvice (value : Json) : Except AdviceFault (List String) :=
  let warning := ["Invalid Go module name: " ++ value.literal]
  if !value.truthy then .ok warning
  else match value with
    | .str s => .ok (if s.toList.any isBlank then warning else [])
    | _ => .error (.notText value.kind)

def templateAdvice (t : Tree) (s : Settings) : Except AdviceFault (List String) :=
  if !s.templateDir.truthy then .ok []
  else match s.templateDir with
    | .str dir =>
      match t.isDirectory (.ofString dir) with
      | .error e => .error (.unreachable e)
      | .ok present =>
        .ok (if present || s.materializeTemplates.truthy then []
          else [s!"Template directory not found: {dir} (built-in templates are used)"])
    | value => .error (.notPath value.kind)

/-- The warnings about the settings, in the order of the settings. -/
def warnings (t : Tree) (s : Settings) : Except AdviceFault (List String) := do
  let naming ← offChoices "Invalid file_naming: " (FileNaming.all.map (·.name)) s.fileNaming
  let database ← offChoices "Unsupported database: " databases s.database
  return naming ++ database ++ (← moduleAdvice s.moduleName) ++ (← templateAdvice t s)

/-- The words with which a module line starts. -/
def moduleLineStart : List Char := "module ".toList

/-- The module path on a line that declares one. -/
def moduleOn? (line : List Char) : Option String :=
  let cs := trimWhile isBlank line
  if moduleLineStart.isPrefixOf cs then
    some (.ofList (trimWhile (· == '"') (trimWhile isBlank (cs.drop moduleLineStart.length))))
  else none

/-- The module path that the text of a module file declares. -/
def moduleIn (text : String) : String :=
  ((plainLines text.toList).findSome? moduleOn?).getD defaultModule

/-- The module path that a project's module file declares, or the default. -/
def detectModule (t : Tree) (root : Path) : Except ReadFault String :=
  let path := root / "go.mod"
  match t.isFile path with
  | .error e => .error (.refused e)
  | .ok true => (t.readText path).map moduleIn
  | .ok false => .ok defaultModule

end Settings

end GoScaffold
