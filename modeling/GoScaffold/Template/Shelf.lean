import GoScaffold.Template.Builtin
import GoScaffold.Template.Compile
import GoScaffold.Workspace.Text

/-!
# Where templates come from

A shelf holds templates by logical name: those of a directory, read anew each time, in front of a
built-in set. A press renders templates of a shelf and keeps the ones it was last asked for; it goes
on using a template that it has as long as the place it came from is unchanged.
-/
namespace GoScaffold.Template

open GoScaffold.Text

/-- The endings of template files; of two that fit, the longer one stands first. -/
def templateEndings : List String := [".go.j2", ".go.tmpl", ".j2", ".tmpl", ".tpl"]

/-- The logical name of a file in a template directory, if it is a template. -/
def logicalName? (path : String) : Option String :=
  let path := replace "\\" "/" path
  (templateEndings.find? (endsWith path)).map fun e =>
    .ofList (path.toList.take (path.length - e.length))

/-- Where the templates are; `builtins` gives the text of each built-in one. -/
structure Shelf where
  directory : Option Path := none
  builtins : List (String × String) := Template.builtins
  deriving Repr, DecidableEq

inductive Origin
  | custom
  | builtin
  deriving Repr, DecidableEq

def Origin.name : Origin → String
  | .custom => "custom"
  | .builtin => "builtin"

/-- Why a template cannot be had. -/
inductive LoadFault
  | absent
  | malformed (fault : SyntaxFault)
  | failed (fault : RenderFault)
  | unreadable (fault : ReadFault)
  deriving Repr, DecidableEq

/-- What is reported about templates. -/
inductive TemplateFault
  | absent (name : String)
  | malformed (name : String) (fault : SyntaxFault)
  | unreadable (name : String) (fault : ReadFault)
  | failed (name : String) (fault : RenderFault)
  | malformedText (fault : SyntaxFault)
  | failedText (fault : RenderFault)
  | noDirectory
  | unreachable (error : FileError)
  | unwritable (fault : WriteFault)
  deriving Repr, DecidableEq

/-- The fault is about the template itself and not about a function it calls. -/
def RenderFault.isOfTemplate (f : RenderFault) : Bool :=
  f.kind == .absence || f.kind == .template

/-- A fault as a part of a longer message: a name that is missing somewhere is quoted. -/
def RenderFault.inner (f : RenderFault) : String :=
  match f with
  | .unknownType _ => quoted f.message
  | .unknownKey key => quoted key
  | .badCheck (.unknownPlace _) => quoted f.message
  | f => f.message

def ReadFault.inner : ReadFault → String
  | .refused e => e.message
  | .undecodable f => f.message

def TemplateFault.message : TemplateFault → String
  | .absent name => s!"Template not found: {name}"
  | .malformed name f => s!"Syntax error in template {name} (line {f.line}): {f.message}"
  | .unreadable name f => s!"Error rendering {name}: {ReadFault.inner f}"
  | .failed name (.undefined a) => s!"Undefined reference in template {name}: {a.message}"
  | .failed name f => s!"Error rendering {name}: {f.inner}"
  | .malformedText f => s!"Failed to render template string: {f.message}"
  | .failedText f =>
    if f.isOfTemplate then s!"Failed to render template string: {f.message}" else f.message
  | .noDirectory => "No template directory configured"
  | .unreachable e => e.message
  | .unwritable f => f.message

/-- Entries of which each name is kept once, with its first value. -/
def firstOfEach (entries : List (String × Path)) : List (String × Path) :=
  entries.foldl (fun m e => if OrderedMap.contains e.1 m then m else m ++ [e]) []

namespace Shelf

/-- The template files of a directory by name. Of several files for a name the first counts. -/
def templatesIn (t : Tree) (dir : Path) : List (String × Path) :=
  match t.locate dir with
  | .error _ => []
  | .ok l =>
    firstOfEach <| (t.filesBelow l).filterMap fun segments =>
      match logicalName? (join "/" segments) with
      | some "" => none
      | some name => some (name, { dir with segments := dir.segments ++ segments })
      | none => none

/-- The custom templates by name. -/
def custom (s : Shelf) (t : Tree) : Except FileError (List (String × Path)) :=
  match s.directory with
  | none => .ok []
  | some dir => (t.isDirectory dir).map fun present => if present then templatesIn t dir else []

def hasCustom (s : Shelf) (t : Tree) : Except FileError Bool :=
  (s.custom t).map fun custom => !custom.isEmpty

def origin (s : Shelf) (t : Tree) (name : String) : Except TemplateFault Origin :=
  match s.custom t with
  | .error e => .error (.unreachable e)
  | .ok custom =>
    if OrderedMap.contains name custom then .ok .custom
    else if OrderedMap.contains name s.builtins then .ok .builtin
    else .error (.absent name)

/-- Every name with its origin, in the order of the names. -/
def list (s : Shelf) (t : Tree) : Except FileError (List (String × Origin)) :=
  (s.custom t).map fun custom =>
    let custom := OrderedMap.keys custom
    let names := (OrderedMap.keys s.builtins ++ custom).eraseDups.mergeSort fun a b => decide (a ≤ b)
    names.map fun n => (n, if custom.contains n then .custom else .builtin)

end Shelf

/-- A template that has been read; `source` is its file with the time of its last write. -/
structure Loaded where
  source : Option (Path × Nat)
  nodes : Nodes
  deriving Repr, DecidableEq

/-- A shelf with templates already read from it, by name. The one asked for last stands last. -/
structure Press where
  shelf : Shelf := {}
  loaded : List (String × Loaded) := []
  deriving Repr, DecidableEq

def Loaded.isCurrent (l : Loaded) (t : Tree) : Bool :=
  match l.source with
  | none => true
  | some (path, stamp) =>
    match t.find path with
    | .ok (.file _ now) => now == stamp
    | _ => false

/-- The text of a template for what is given. The template refers to itself by a name of its own, for
which nothing may be given. -/
def Nodes.textFor (nodes : Nodes) (given : Scope) : Outcome String :=
  if given.any (·.1 == "self") then .error (.arguments "Template.render" (.repeated "self"))
  else nodes.text given

namespace Press

/-- A press for a template directory, or for the built-in templates alone. -/
def create (directory : Option String) : Press :=
  { shelf := { directory := directory.map Path.ofString } }

def compiled (source : Option (Path × Nat)) (name text : String) : Except LoadFault Loaded :=
  match compile (some name) text with
  | .ok nodes => .ok { source, nodes }
  | .error (.malformed f) => .error (.malformed f)
  | .error (.failed f) => .error (.failed f)

def loadFile (t : Tree) (name : String) (path : Path) : Except LoadFault Loaded :=
  match t.readText path with
  | .error f => .error (.unreadable f)
  | .ok text =>
    let stamp := match t.find path with
      | .ok (.file _ stamp) => stamp
      | _ => 0
    compiled (some (path, stamp)) name text

/-- Reads a template from the shelf. -/
def load (s : Shelf) (t : Tree) (name : String) : Except LoadFault Loaded :=
  match s.custom t with
  | .error e => .error (.unreadable (.refused e))
  | .ok custom =>
    match OrderedMap.get? name custom, OrderedMap.get? name s.builtins with
    | some path, _ => loadFile t name path
    | none, some text => compiled none name text
    | none, none => .error .absent

/-- How many templates a press keeps. -/
def capacity : Nat := 400

def withoutOldest : List (String × Loaded) → List (String × Loaded)
  | [] => []
  | (name, l) :: later => OrderedMap.erase name ((name, l) :: later)

/-- Keeps the template that is asked for. Where there is no room for it, the one goes that has not
been asked for the longest. -/
def keep (p : Press) (name : String) (l : Loaded) : Press :=
  let others := OrderedMap.erase name p.loaded
  let others := if others.length < capacity then others else withoutOldest others
  { p with loaded := others ++ [(name, l)] }

/-- A template that the press has is asked for even where it is out of date. -/
def touch (p : Press) (name : String) : Press :=
  match OrderedMap.get? name p.loaded with
  | some l => p.keep name l
  | none => p

/-- The template that has been read under a name, as long as it is current. -/
def current? (p : Press) (t : Tree) (name : String) : Option Loaded :=
  match OrderedMap.get? name p.loaded with
  | some l => if l.isCurrent t then some l else none
  | none => none

/-- The template of a name, read only if need be. -/
def fetch (p : Press) (t : Tree) (name : String) : Press × Except LoadFault Nodes :=
  match p.current? t name with
  | some l => (p.touch name, .ok l.nodes)
  | none =>
    match load p.shelf t name with
    | .error f => (p.touch name, .error f)
    | .ok l => (p.keep name l, .ok l.nodes)

/-- Renders the template of a name. -/
def render (p : Press) (t : Tree) (name : String) (scope : Scope) :
    Press × Except TemplateFault String :=
  match p.fetch t name with
  | (p, .error .absent) => (p, .error (.absent name))
  | (p, .error (.malformed f)) => (p, .error (.malformed name f))
  | (p, .error (.failed f)) => (p, .error (.failed name f))
  | (p, .error (.unreadable f)) => (p, .error (.unreadable name f))
  | (p, .ok nodes) =>
    match nodes.textFor scope with
    | .ok s => (p, .ok s)
    | .error f => (p, .error (.failed name f))

/-- Whether a template of a name can be had; one that makes no sense is a fault. -/
def holds (p : Press) (t : Tree) (name : String) : Press × Except LoadFault Bool :=
  match p.fetch t name with
  | (p, .ok _) => (p, .ok true)
  | (p, .error .absent) => (p, .ok false)
  | (p, .error f) => (p, .error f)

end Press

/-- Renders the text of a template. -/
def renderText (template : String) (scope : Scope) : Except TemplateFault String :=
  match compile none template with
  | .error (.malformed f) => .error (.malformedText f)
  | .error (.failed f) => .error (.failedText f)
  | .ok nodes =>
    match nodes.textFor scope with
    | .ok s => .ok s
    | .error f => .error (.failedText f)

namespace Shelf

/-- Writes templates into a directory one after another, up to the first that is refused. -/
def writeAll (directory : Path) :
    List (String × String) → Tree → Tree × Except TemplateFault (List Path)
  | [], t => (t, .ok [])
  | (name, text) :: rest, t =>
    let path := directory / (name ++ ".go.tmpl")
    match t.writeText path text with
    | (t, some f) => (t, .error (.unwritable f))
    | (t, none) =>
      match writeAll directory rest t with
      | (t, .ok paths) => (t, .ok (path :: paths))
      | (t, .error f) => (t, .error f)

/-- Writes the built-in templates into the template directory. Without `force`, a directory that
holds templates is left alone. -/
def materialize (s : Shelf) (force : Bool) (t : Tree) : Tree × Except TemplateFault (List Path) :=
  match s.directory with
  | none => (t, .error .noDirectory)
  | some dir =>
    match s.hasCustom t with
    | .error e => (t, .error (.unreachable e))
    | .ok present =>
      if present && !force then (t, .ok [])
      else writeAll dir (s.builtins.mergeSort fun a b => decide (a.1 ≤ b.1)) t

end Shelf

end GoScaffold.Template
