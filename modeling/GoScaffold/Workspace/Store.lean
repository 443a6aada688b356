import GoScaffold.SharedFile.Merge
import GoScaffold.Workspace.Text

/-!
# Stores of generated files

Where generated files live: in a directory of the tree, in drafts held in memory, or in drafts over
a directory, which are read first and hide what the directory holds. An artifact is merged by
reading the whole file, computing its next text and writing the whole file.
-/
namespace GoScaffold

/-- The files on disk and the drafts in memory, by the path under which they were written. -/
structure Workspace where
  tree : Tree := {}
  drafts : List (String × String) := []

/-- Where a run reads and writes; directories are relative to the working directory. -/
inductive Store
  | memory
  | disk (root : Path)
  | overlay (root : Path)
  deriving Repr, DecidableEq

inductive StoreFault
  | unreadable (path : String) (error : FileError)
  | undecodable (fault : Text.Utf8Fault)
  | unwritable (fault : WriteFault)
  deriving Repr, DecidableEq

def StoreFault.message : StoreFault → String
  | .unreadable path e => s!"Failed to read {path}: {e.message}"
  | .undecodable f => f.message
  | .unwritable f => f.message

namespace Store

def readDisk (root : Path) (t : Tree) (path : String) : Except StoreFault (Option String) :=
  match t.readText? (root / path) with
  | .ok text => .ok text
  | .error (.refused e) => .error (.unreadable path e)
  | .error (.undecodable f) => .error (.undecodable f)

/-- The whole text at a path, or nothing if there is no file. -/
def read (s : Store) (w : Workspace) (path : String) : Except StoreFault (Option String) :=
  match s with
  | .disk root => readDisk root w.tree path
  | .memory => .ok (OrderedMap.get? path w.drafts)
  | .overlay root =>
    match OrderedMap.get? path w.drafts with
    | some text => .ok (some text)
    | none => readDisk root w.tree path

def holds (s : Store) (w : Workspace) (path : String) : Except StoreFault Bool :=
  (s.read w path).map (·.isSome)

/-- The workspace with a new text at a path, and what went wrong. -/
def write (s : Store) (w : Workspace) (path text : String) : Workspace × Option StoreFault :=
  match s with
  | .disk root =>
    let (tree, fault) := w.tree.writeText (root / path) text
    ({ w with tree }, fault.map .unwritable)
  | _ => ({ w with drafts := OrderedMap.insert path text w.drafts }, none)

/-- Brings an artifact into the file at its path. -/
def merge (s : Store) (w : Workspace) (a : Artifact) : Workspace × Except StoreFault MergeOutcome :=
  match s.read w a.path with
  | .error e => (w, .error e)
  | .ok existing =>
    match GoScaffold.merge existing a with
    | (none, outcome) => (w, .ok outcome)
    | (some text, outcome) =>
      match s.write w a.path text with
      | (w, none) => (w, .ok outcome)
      | (w, some e) => (w, .error e)

end Store

end GoScaffold
