import GoScaffold.Layer.Piece
import GoScaffold.Workspace.Store

/-!
# Reports

What a run did. Every piece of the chosen layers has one result, in the order of generation: what
was done with its artifact, or why there is none.
-/
namespace GoScaffold

open GoScaffold.Template

/-- Why a piece came to nothing. -/
inductive PieceFault
  | template (f : TemplateFault)
  | store (f : StoreFault)
  deriving Repr, DecidableEq

def PieceFault.message : PieceFault → String
  | .template f => f.message
  | .store f => f.message

structure PieceResult where
  piece : Piece
  result : Except PieceFault MergeOutcome
  deriving Repr

structure Report where
  entity : Entity
  layers : List Layer
  templates : Origin
  advice : List String
  results : List PieceResult
  deriving Repr

namespace PieceResult

def outcome? (r : PieceResult) : Option MergeOutcome := r.result.toOption

def fault? (r : PieceResult) : Option PieceFault :=
  match r.result with
  | .ok _ => none
  | .error f => some f

/-- The layer and the message of a failure. -/
def failure? (r : PieceResult) : Option (Layer × String) :=
  r.fault?.map fun f => (r.piece.layer, f.message)

end PieceResult

namespace Report

def outcomes (r : Report) : List MergeOutcome := r.results.filterMap PieceResult.outcome?

def failures (r : Report) : List (Layer × String) := r.results.filterMap PieceResult.failure?

def success (r : Report) : Bool := r.failures.isEmpty

/-- The paths of the files that changed. -/
def written (r : Report) : List String := (r.outcomes.filter (·.changed)).map (·.path)

def warnings (r : Report) : List String := r.advice ++ r.outcomes.filterMap (·.warning)

def errors (r : Report) : List String := r.failures.map fun f => f.1.name ++ ": " ++ f.2

end Report

end GoScaffold
