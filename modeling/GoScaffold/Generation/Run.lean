import GoScaffold.Generation.Report
import GoScaffold.Generation.Request

/-!
# Generation runs

A run builds the pieces of the chosen layers one after another and merges each into the store. A
piece that fails costs no other; files that have been written stay.
-/
namespace GoScaffold

open GoScaffold.Template

/-- Builds a piece and merges it into the store. -/
def runPiece (s : Store) (e : Entity) (press : Press) (w : Workspace) (p : Piece) :
    Press × Workspace × Except PieceFault MergeOutcome :=
  match p.build press w.tree e with
  | (press, .error f) => (press, w, .error (.template f))
  | (press, .ok a) =>
    match s.merge w a with
    | (w, .ok outcome) => (press, w, .ok outcome)
    | (w, .error f) => (press, w, .error (.store f))

/-- The fault that ends a run instead of costing one piece. -/
def endOfRun? : Except PieceFault MergeOutcome → Option StoreFault
  | .error (.store f) => if f.isRefusal then none else some f
  | _ => none

/-- Runs pieces in their order. -/
def runPieces (s : Store) (e : Entity) (press : Press) (w : Workspace) :
    List Piece → Workspace × Except StoreFault (List PieceResult)
  | [] => (w, .ok [])
  | p :: rest =>
    let (press, w, r) := runPiece s e press w p
    match endOfRun? r with
    | some f => (w, .error f)
    | none =>
      match runPieces s e press w rest with
      | (w, .ok results) => (w, .ok (⟨p, r⟩ :: results))
      | (w, .error f) => (w, .error f)

/-- Runs the pieces of some layers for an entity. -/
def runLayers (s : Store) (e : Entity) (press : Press) (w : Workspace) (layers : List Layer) :
    Workspace × Except StoreFault (List PieceResult) :=
  runPieces s e press w (layers.flatMap (Layer.pieces e))

/-- Does what a request asks for. -/
def generate (roster : Roster) (s : Store) (w : Workspace) (r : Request) :
    Workspace × Except RunFault Report :=
  match r.readEntity w.tree with
  | .error f => (w, .error f)
  | .ok e =>
    match e.settings.press w.tree with
    | (tree, .error f) => ({ w with tree }, .error f)
    | (tree, .ok press) =>
      let w := { w with tree }
      match roster.select r.layers, e.settings.warnings tree, press.shelf.hasCustom tree with
      | .error f, _, _ => (w, .error (.layers f))
      | _, .error f, _ => (w, .error (.advice f))
      | _, _, .error e => (w, .error (.advice (.unreachable e)))
      | .ok layers, .ok advice, .ok hasCustom =>
        let templates := if hasCustom then Origin.custom else Origin.builtin
        match runLayers s e press w layers with
        | (w, .error f) => (w, .error (.store f))
        | (w, .ok results) => (w, .ok { entity := e, layers, templates, advice, results })

end GoScaffold
