import GoScaffold.Generation.Report
import GoScaffold.Layer.Roster

/-!
# What the console shows

Texts, tables, panels and code as values, with their styles in square brackets. Laying them out is
left to whoever prints them.
-/
namespace GoScaffold.CommandLine

open GoScaffold.Text

inductive Display
  | text (s : String)
  | table (title : String) (columns : List String) (rows : List (List String))
  | panel (title text : String)
  | code (s : String)
  | status (s : String)
  deriving Repr, DecidableEq

namespace Display

def blank : Display := .text ""

def styled (style text : String) : String := "[" ++ style ++ "]" ++ text ++ "[/" ++ style ++ "]"

/-- A message with a heading that sets it apart. -/
def failure (heading message : String) : Display := .text (styled "red" heading ++ " " ++ message)

def error (message : String) : Display := failure "✗ Error:" message

def unexpected (message : String) : Display := failure "✗ Unexpected error:" message

def failed (message : String) : Display := failure "✗ Code generation failed:" message

def item (style text : String) : Display := .text ("  " ++ styled style "•" ++ " " ++ text)

def labelled (label text : String) : String := styled "bold" (label ++ ":") ++ " " ++ text

/-- What is wrong with a field descriptor. -/
def descriptorFault (e : Descriptor.Error) : List Display :=
  let token := if e.token = "" then styled "dim" "(empty)" else e.token
  let suggestions := e.fault.suggestions
  let hint :=
    if suggestions.isEmpty then []
    else [labelled "Did you mean" (styled "cyan" (join ", " suggestions))]
  [.panel "✗ Invalid field descriptor" (join "\n" ([
      labelled "Problem" e.fault.kind, labelled "Position" (toString e.position),
      labelled "Declaration" token, labelled "Details" e.fault.message] ++ hint)),
    .text (styled "dim" "No files were written.")]

def actionStyle : MergeAction → String
  | .created => "green"
  | .appended => "cyan"
  | .skipped => "dim"
  | .replaced => "yellow"
  | .fallback => "magenta"

/-- What was done, or would be done, with each file. -/
def outcomes (r : Report) (dryRun : Bool) : List Display :=
  let title := if dryRun then "📄 Planned Changes (dry run)" else "📄 Generated Files"
  let rows := r.outcomes.map fun o =>
    [o.path, styled (actionStyle o.action) o.action.name, join ", " o.importsAdded]
  [blank, .table title ["File", "Action", "Imports Added"] rows]

def drafts (r : Report) (drafts : List (String × String)) : List Display :=
  r.written.flatMap fun path =>
    match OrderedMap.get? path drafts with
    | some content => [.text ("\n" ++ styled "green" ("── " ++ path ++ " ──")), .code content]
    | none => []

/-- Names in a row, or a dash if there are none. -/
def listed (names : List String) : String :=
  let joined := join ", " names
  if joined = "" then "-" else joined

def summary (r : Report) : List Display := [blank,
  .table "📊 Generation Metadata" ["Property", "Value"] [
    ["Entity", r.entity.name],
    ["Layers", listed (r.layers.map (·.name))],
    ["Field Count", toString r.entity.members.length],
    ["Search Methods", listed (r.entity.accessors.map (·.method))],
    ["Template Source", r.templates.name],
    ["Files Written", toString r.written.length]]]

def warnings (r : Report) : List Display :=
  if r.warnings.isEmpty then []
  else
    [.text ("\n" ++ styled "yellow" "⚠️  Warnings:")] ++ r.warnings.map (item "yellow") ++ [blank]

def failures (r : Report) : List Display :=
  if r.success then []
  else [.text ("\n" ++ styled "red" "✗ Some artifacts failed:")] ++
    r.failures.map fun f => item "red" (styled "bold" f.1.name ++ ": " ++ f.2)

def templates (entries : List (String × Template.Origin)) : List Display := [blank,
  .table "📋 Templates" ["Template", "Source"] (entries.map fun e => [e.1, e.2.name])]

def layerRow (i : LayerInfo) : List String :=
  let aliases := if i.aliases.isEmpty then styled "dim" "none" else join ", " i.aliases
  ["🔧 " ++ i.name, i.description, i.generator, aliases]

def layers (infos : List LayerInfo) : List Display := [blank,
  .table "📋 Available Layers" ["Layer", "Description", "Generator Class", "Aliases"]
    (infos.map layerRow),
  blank,
  .panel "💡 Quick Start" (labelled "Usage" ("cleango feature " ++ styled "cyan" "Product" ++
    " --fields " ++ styled "dim" "\"name:string,price:float64\""))]

end Display

end GoScaffold.CommandLine
