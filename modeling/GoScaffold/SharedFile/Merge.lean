import GoScaffold.GoSource.Imports
import GoScaffold.Text.Split

/-!
# Merging into shared files

The next text of a file from its present text and an artifact. A share goes in front of the line
that closes the file, with its imports added above; if it is there already nothing changes; if the
file has an unexpected shape, a block of its own goes to the end.

An artifact is a generated file, or the share that one entity has in a file with others. A share
holds only its own declarations; the header, the opener and the closer are what surrounds them.
-/
namespace GoScaffold

/-- `marker` is a text whose presence means that the share is already there. -/
structure Artifact where
  path : String
  content : String
  mergeable : Bool := false
  marker : Option String := none
  header : String := ""
  opener : String := ""
  closer : String := ""
  layer : String := ""
  deriving Repr, DecidableEq

namespace Artifact

/-- The declarations as the first in the file: without the blank lines that set them apart. -/
def firstContent (a : Artifact) : String := .ofList (a.content.toList.dropWhile (· == '\n'))

/-- A block that stands on its own at the end of any file. -/
def ownBlock (a : Artifact) : String := a.opener ++ a.firstContent ++ a.closer

/-- The whole file when nothing is there yet. -/
def freshFile (a : Artifact) : String :=
  if a.mergeable then a.header ++ a.opener ++ a.firstContent ++ a.closer else a.content

end Artifact

open GoScaffold.Text

/-- What was done with an artifact. -/
inductive MergeAction
  | created
  | appended
  | skipped
  | replaced
  | fallback
  deriving Repr, DecidableEq

def MergeAction.name : MergeAction → String
  | .created => "created"
  | .appended => "appended"
  | .skipped => "skipped"
  | .replaced => "replaced"
  | .fallback => "appended (fallback)"

structure MergeOutcome where
  path : String
  action : MergeAction
  importsAdded : List String := []
  deriving Repr, DecidableEq

namespace MergeOutcome

def changed (o : MergeOutcome) : Bool := o.action != .skipped

/-- What the user is told about a file of unexpected shape. -/
def warning (o : MergeOutcome) : Option String :=
  if o.action = .fallback then
    some (o.path ++ ": unexpected file structure, appended declarations at end of file")
  else none

end MergeOutcome

/-- The text before its last line that is not blank, if that line is the closer. -/
def withoutCloser? (content closer : String) : Option String :=
  let (body, last) := cutAtLastNewline (trimEndWhile isBlank content.toList)
  if trimWhile isBlank last = trimWhile isBlank closer.toList then some (.ofList body) else none

/-- The file has a package clause and ends with the artifact's closer. -/
def fits (content : String) (a : Artifact) : Bool :=
  hasPackageClause content && (a.closer == "" || (withoutCloser? content a.closer).isSome)

def headerImports (a : Artifact) : List String := existingImports a.header

def isPresent (content : String) (a : Artifact) : Bool :=
  match a.marker with
  | some m => m != "" && contains content m
  | none => false

def endWithNewline (s : String) : String := if endsWith s "\n" then s else s ++ "\n"

/-- The next text of a file, or none where it stays as it is, and what was done. -/
def merge (existing : Option String) (a : Artifact) : Option String × MergeOutcome :=
  match existing with
  | none => (some a.freshFile, { path := a.path, action := .created })
  | some content =>
    if !a.mergeable then
      if content = a.content then (none, { path := a.path, action := .skipped })
      else (some a.content, { path := a.path, action := .replaced })
    else if isPresent content a then (none, { path := a.path, action := .skipped })
    else if !fits content a then
      (some (endWithNewline content ++ "\n" ++ a.ownBlock), { path := a.path, action := .fallback })
    else
      let body :=
        if a.closer = "" then content else (withoutCloser? content a.closer).getD content
      let (body, added) := ensureImports (endWithNewline body) (headerImports a)
      (some (body ++ a.content ++ a.closer),
        { path := a.path, action := .appended, importsAdded := added })

end GoScaffold
