import GoScaffold.Proofs.Generation.Drafts
import GoScaffold.Proofs.Generation.ErrorCatalog
import GoScaffold.Proofs.Generation.Mirror
import GoScaffold.Proofs.Layer.Implementation
import GoScaffold.Proofs.Layer.InterfaceCatalog
import GoScaffold.Proofs.Layer.Validation

/-!
# Foretold runs

A run over drafts foretells the run on disk: it says what that run says, and its drafts are the
texts which that run writes. Each piece is foretold where the run on disk can write its file, and so
is a run of pieces.
-/
namespace GoScaffold

open GoScaffold.Text GoScaffold.Naming GoScaffold.Template

def failedWrite? : Except PieceFault MergeOutcome → Option WriteFault
  | .error (.store (.unwritable f)) => some f
  | _ => none

def failedWrites (s : Store) (e : Entity) (press : Press) (w : Workspace) : List Piece → List WriteFault
  | [] => []
  | p :: rest =>
    let (press, w, r) := runPiece s e press w p
    (failedWrite? r).toList ++
      match endOfRun? r with
      | some _ => []
      | none => failedWrites s e press w rest

theorem failedWrites_cons (s : Store) (e : Entity) (press : Press) (w : Workspace) (p : Piece)
    (rest : List Piece) : failedWrites s e press w (p :: rest) =
      match runPiece s e press w p with
      | (press, w, r) =>
        (failedWrite? r).toList ++
          match endOfRun? r with
          | some _ => []
          | none => failedWrites s e press w rest := rfl

def Request.failedWrites (roster : Roster) (s : Store) (w : Workspace) (r : Request) :
    List WriteFault :=
  match r.readEntity w.tree with
  | .error _ => []
  | .ok e =>
    match e.settings.press w.tree with
    | (_, .error _) => []
    | (tree, .ok press) =>
      match roster.select r.layers, e.settings.warnings tree with
      | .ok layers, .ok _ =>
        GoScaffold.failedWrites s e press { w with tree } (layers.flatMap (Layer.pieces e))
      | _, _ => []

section Run

variable {root : Path} {e : Entity} {pieces : List Piece} {press press' : Press}
  {onDisk drafted : Workspace}

theorem changedPaths_append (os os' : List MergeOutcome) :
    changedPaths (os ++ os') = changedPaths os ++ changedPaths os' := by
  simp [changedPaths]

theorem Foretells.cons {p : Piece} {rest : List Piece} {drafted' onDisk' : Workspace}
    {r : Except StoreFault MergeOutcome} {dry real : Workspace × Except StoreFault (List PieceResult)}
    (hstep : Foretells root e rest (fun o => [o]) drafted (drafted', r) (onDisk', r))
    (hrun : Foretells root e [] (·.filterMap PieceResult.outcome?) drafted' dry real) :
    Foretells root e [] (·.filterMap PieceResult.outcome?) drafted
      (dry.1, dry.2.map (⟨p, r.mapError .store⟩ :: ·))
      (real.1, real.2.map (⟨p, r.mapError .store⟩ :: ·)) where
  result := congrArg (Except.map _) hrun.result
  mirrors := hrun.mirrors
  tree := hrun.tree.trans hstep.tree
  kept path hpath := hrun.kept path (hstep.kept path hpath)
  changed results hresults path hpath := by
    cases hreal : real.2 with
    | error f => simp [hreal, Except.map] at hresults
    | ok later =>
      obtain rfl : ⟨p, r.mapError .store⟩ :: later = results := by
        simpa [hreal, Except.map] using hresults
      cases r with
      | error f => exact hrun.changed later hreal path hpath
      | ok o =>
        have hsplit : path ∈ changedPaths [o] ∨
            path ∈ changedPaths (later.filterMap PieceResult.outcome?) := by
          rw [← List.mem_append, ← changedPaths_append]
          exact hpath
        rcases hsplit with ho | hlater
        · exact hrun.kept path (hstep.changed o rfl path ho)
        · exact hrun.changed later hreal path hlater

/-- A run over drafts foretells the run on disk if no write of that fails. -/
theorem runPieces_foretells (hdeclares : ∀ p : Piece, ∃ text, p.Declares e text)
    (hreturn : ∀ text, Piece.entity.Declares e text → '\r' ∉ text.toList)
    (hnamed : ∀ p ∈ pieces, p.IsNamed e)
    (hpaths : pieces.Pairwise fun p q => p.path e = q.path e → p = .entity)
    (h : Mirrors root e pieces onDisk drafted) (hpress : press.IsBuiltin)
    (hpress' : press'.IsBuiltin) (hwrites : failedWrites (.disk root) e press onDisk pieces = []) :
    Foretells root e [] (·.filterMap PieceResult.outcome?) drafted
      (runPieces (.overlay root) e press' drafted pieces)
      (runPieces (.disk root) e press onDisk pieces) := by
  induction pieces generalizing press press' onDisk drafted with
  | nil => exact h.foretells fun results hr => by cases hr; rfl
  | cons p rest ih =>
    obtain ⟨text, htext⟩ := hdeclares p
    obtain ⟨hp, hrest⟩ := List.forall_mem_cons.1 hnamed
    obtain ⟨hother, hlater⟩ := List.pairwise_cons.1 hpaths
    obtain ⟨press₁, hreal, hpress₁⟩ := runPiece_eq (.disk root) (w := onDisk) hpress htext
    obtain ⟨press₂, hdry, hpress₂⟩ := runPiece_eq (.overlay root) (w := drafted) hpress' htext
    rw [failedWrites_cons, hreal] at hwrites
    simp only [List.append_eq_nil_iff] at hwrites
    have hstep : Foretells root e rest (fun o => [o]) drafted
        ((Store.overlay root).merge drafted (p.artifact e text))
        ((Store.disk root).merge onDisk (p.artifact e text)) := by
      refine h.merge hp hrest (fun q hq he => ?_) fun f hf => ?_
      · obtain rfl := hother q hq he
        exact ⟨rfl, hreturn text htext⟩
      · simp [hf, Except.mapError, failedWrite?] at hwrites
    rw [runPieces_cons, runPieces_cons, hreal, hdry]
    revert hstep hwrites
    obtain ⟨onDisk', r⟩ := (Store.disk root).merge onDisk (p.artifact e text)
    obtain ⟨drafted', r'⟩ := (Store.overlay root).merge drafted (p.artifact e text)
    intro hwrites hstep
    obtain rfl : r' = r := hstep.result
    dsimp only at hwrites ⊢
    cases hend : endOfRun? (r'.mapError .store) with
    | some f =>
      exact ⟨rfl, hstep.mirrors.sublist (by simp), hstep.tree, hstep.kept, by simp⟩
    | none =>
      rw [hend] at hwrites
      exact hstep.cons (ih hrest hlater hstep.mirrors hpress₁ hpress₂ hwrites.2)

end Run

/-- Layers are selected in the order of generation, each once. -/
theorem sublist_of_select {wanted : List String} {layers : List Layer}
    (h : Roster.builtin.select wanted = .ok layers) : layers.Sublist Layer.all := by
  have hall : Roster.builtin.order.mapM Roster.builtin.layer = .ok Layer.all := rfl
  rw [Roster.select] at h
  cases hkeys : wanted.mapM Roster.builtin.resolve with
  | error f => simp [hkeys, bind, Except.bind] at h
  | ok keys =>
    simp only [hkeys, bind, Except.bind] at h
    rw [← filterMap_of_mapM h, ← filterMap_of_mapM hall]
    refine List.Sublist.filterMap _ ?_
    split
    · exact List.Sublist.refl _
    · exact List.filter_sublist

/-- Of two pieces of a selection that go to one file, the entity comes first. -/
theorem pairwise_pieces {layers : List Layer} (h : layers.Sublist Layer.all) (e : Entity) :
    (layers.flatMap (Layer.pieces e)).Pairwise fun p q => p.path e = q.path e → p = .entity := by
  refine List.Pairwise.sublist (h.flatMap _) ?_
  have horder : (Layer.all.flatMap (Layer.pieces e)).Pairwise fun p q =>
      p ≠ q ∧ ¬ (p = .errors ∧ q = .entity) := by
    simp only [Layer.all, Layer.pieces, List.flatMap_cons, List.flatMap_nil]
    split <;> decide
  refine horder.imp fun {p q} hpq hpath => ?_
  obtain ⟨-, ⟨hp, -⟩ | hrefuted⟩ := Piece.fileBase_of_path_eq hpq.1 hpath
  · exact hp
  · exact absurd hrefuted hpq.2

/-- The dry run says and drafts what the run on disk says and writes. -/
structure Request.IsForetold (root : Path) (t : Tree) (r : Request) : Prop where
  result : (generate .builtin (.overlay root) { tree := t } r).2 =
    (generate .builtin (.disk root) { tree := t } r).2
  tree : (generate .builtin (.overlay root) { tree := t } r).1.tree = t
  drafts : ∀ path text,
    OrderedMap.get? path (generate .builtin (.overlay root) { tree := t } r).1.drafts = some text →
      (generate .builtin (.disk root) { tree := t } r).1.tree.readBytes (root / path) =
        .ok text.toUTF8
  written : ∀ report, (generate .builtin (.disk root) { tree := t } r).2 = .ok report →
    ∀ path ∈ report.written, OrderedMap.contains path
      (generate .builtin (.overlay root) { tree := t } r).1.drafts = true

section Generate

variable {root : Path} {t : Tree} {r : Request}

theorem isForetold_of_fault {f : RunFault}
    (h : ∀ s, generate .builtin s { tree := t } r = ({ tree := t }, .error f)) :
    r.IsForetold root t where
  result := by rw [h, h]
  tree := by rw [h]
  drafts path text hdraft := by simp [h, OrderedMap.get?] at hdraft
  written report hreport := by simp [h] at hreport

/-- The run of the request gets to the pieces of its layers, without a template directory. -/
structure Request.Begins (t : Tree) (r : Request) (e : Entity) (layers : List Layer)
    (advice : List String) : Prop where
  entity : r.readEntity t = .ok e
  templates : e.settings.templateDir = .null
  select : Roster.builtin.select r.layers = .ok layers
  warnings : e.settings.warnings t = .ok advice

namespace Request.Begins

variable {e : Entity} {layers : List Layer} {advice : List String}
  (h : r.Begins t e layers advice)

include h

theorem generate_eq (s : Store) : generate .builtin s { tree := t } r =
    ((runPieces s e (.create none) { tree := t } (layers.flatMap (Layer.pieces e))).1,
      match (runPieces s e (.create none) { tree := t } (layers.flatMap (Layer.pieces e))).2 with
      | .error f => .error (.store f)
      | .ok results => .ok ⟨e, layers, .builtin, advice, results⟩) := by
  rw [GoScaffold.generate_eq (w := { tree := t }) h.entity h.templates h.select, h.warnings,
    runLayers]
  dsimp only
  obtain ⟨w, results⟩ := runPieces s e (.create none) { tree := t }
    (layers.flatMap (Layer.pieces e))
  cases results <;> rfl

theorem failedWrites_eq (s : Store) : r.failedWrites .builtin s { tree := t } =
    GoScaffold.failedWrites s e (.create none) { tree := t } (layers.flatMap (Layer.pieces e)) := by
  have hpress : e.settings.press t = (t, .ok (.create none)) := by
    rw [Settings.press, h.templates]
  simp only [Request.failedWrites, h.entity, hpress, h.select, h.warnings]

/-- A run of all pieces that is foretold makes a request that is foretold. -/
theorem isForetold (hrun : Foretells root e [] (·.filterMap PieceResult.outcome?) { tree := t }
    (runPieces (.overlay root) e (.create none) { tree := t } (layers.flatMap (Layer.pieces e)))
    (runPieces (.disk root) e (.create none) { tree := t } (layers.flatMap (Layer.pieces e)))) :
    r.IsForetold root t := by
  refine ⟨?_, ?_, fun path text hdraft => ?_, fun report hreport => ?_⟩
  · rw [h.generate_eq, h.generate_eq, hrun.result]
  · rw [h.generate_eq, hrun.tree]
  · rw [h.generate_eq] at hdraft ⊢
    obtain ⟨-, stamp, hfile⟩ := hrun.mirrors.drafts path text hdraft
    simp only [Tree.readBytes, hfile]
  · rw [h.generate_eq] at hreport ⊢
    dsimp only at hreport ⊢
    split at hreport
    · cases hreport
    · next results hresults =>
      cases hreport
      exact hrun.changed results hresults

theorem result_eq (hforetold : r.IsForetold root t) :
    (runPieces (.overlay root) e (.create none) { tree := t } (layers.flatMap (Layer.pieces e))).2 =
      (runPieces (.disk root) e (.create none) { tree := t } (layers.flatMap (Layer.pieces e))).2 := by
  have hresult := hforetold.result
  rw [h.generate_eq, h.generate_eq] at hresult
  dsimp only at hresult
  split at hresult <;> split at hresult <;> simp_all

end Request.Begins

theorem isNamed_of_slash {e : Entity} (h : e.IsDescribed)
    (hdatabase : '/' ∉ e.settings.database.text.toList) {p : Piece}
    (hshort : (p.sourceFile e).utf8ByteSize ≤ Tree.longestName) : p.IsNamed e := by
  have hbase := slash_not_mem_fileBase h
  refine ⟨?_, hshort⟩
  cases p <;> simp [Piece.baseName, hbase, hdatabase]

theorem return_not_mem_entity {e : Entity} (h : e.IsDescribed) (htagged : e.IsTagged)
    {text : String} (htext : Piece.entity.Declares e text) : '\r' ∉ text.toList := by
  rw [htext.unique (Piece.declares_entity e), Entity.toList_textOf]
  intro hmem
  obtain ⟨l, hl, hc⟩ := List.mem_flatten.1 hmem
  obtain ⟨line, hline, rfl⟩ := List.mem_map.1 hl
  have hlacks := Entity.lacks_entityLines h htagged line hline '\r' (by decide)
  simp [hlacks] at hc

end Generate

end GoScaffold
