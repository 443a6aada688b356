import GoScaffold.Text.Casing
import GoScaffold.Text.Quoted
import GoScaffold.Text.Split
import GoScaffold.Workspace.Tree

/-!
# Logging

Which messages of a run are worth telling, and where they are told: on the console, and in a file if
one is named.
-/
namespace GoScaffold.Logging

open GoScaffold.Text

/-- The logger that all others are below. -/
def rootLogger : String := "cleango"

def loggerName (part : String) : String :=
  if part = rootLogger || startsWith part (rootLogger ++ ".") then part
  else rootLogger ++ "." ++ part

/-- The weight from which on a message is told. -/
abbrev Level := Nat

def defaultLevel : Level := 30

def levels : List (String × Level) := [
  ("NOTSET", 0), ("DEBUG", 10), ("INFO", 20), ("WARN", 30), ("WARNING", 30), ("ERROR", 40),
  ("FATAL", 50), ("CRITICAL", 50)]

/-- A name that belongs to another setting of the log; `text` is its value if that is a text. -/
structure LevelFault where
  text : Option String
  deriving Repr, DecidableEq

def LevelFault.message (f : LevelFault) : String :=
  match f.text with
  | some s => "Unknown level: " ++ quoted s
  | none => "Level not an integer or a valid string"

/-- The settings of the log that are not levels. -/
def otherSettings : List (String × Option String) := [
  ("BASIC_FORMAT", some "%(levelname)s:%(name)s:%(message)s"), ("_STYLES", none)]

/-- The level of a name in any letter case; a name that means nothing stands for the default. -/
def level (name : String) : Except LevelFault Level :=
  match otherSettings.lookup (upper name) with
  | some text => .error ⟨text⟩
  | none => .ok ((levels.lookup (upper name)).getD defaultLevel)

inductive Handler
  | console
  | file
  deriving Repr, DecidableEq

structure Setup where
  level : Level
  handlers : List Handler
  propagates : Bool := false
  deriving Repr, DecidableEq

inductive SetupFault
  | level (f : LevelFault)
  | noLevel
  | zeroCharacter
  | file (error : FileError)
  deriving Repr, DecidableEq

def SetupFault.message : SetupFault → String
  | .level f => f.message
  | .noLevel => "Level not a name"
  | .zeroCharacter => "embedded null byte"
  | .file e => e.message

/-- The segments with each step up undone against the step before it. -/
def withoutStepsUp (segments : List String) : List String :=
  (segments.foldl (fun done s =>
    match s, done with
    | "..", d :: rest => if d = ".." then ".." :: done else rest
    | _, _ => s :: done) []).reverse

/-- Opens a log file at its end. -/
def openLog (t : Tree) (file : String) : Except SetupFault Tree :=
  let p := Path.ofString file
  let p := { p with segments := withoutStepsUp p.segments }
  if p.hasZero then .error .zeroCharacter
  else match t.isFile p with
    | .ok true => .ok t
    | _ => (t.writeBytes p .empty).mapError .file

/-- Sets up the log: the level that is asked for, else that of the environment. -/
def setup (t : Tree) (level file environment : Option String) :
    Except SetupFault (Tree × Setup) := do
  let name := (level <|> environment).getD "WARNING"
  let level ← (Logging.level name).mapError .level
  match file with
  | none => return (t, { level, handlers := [.console] })
  | some "" => return (t, { level, handlers := [.console] })
  | some file => return (← openLog t file, { level, handlers := [.console, .file] })

end GoScaffold.Logging
