import GoScaffold.Proofs.Generation.Ownership
import GoScaffold.Proofs.SharedFile.Run
import GoScaffold.Proofs.Workspace.Refused

/-!
# Pieces that fail alone

A piece that fails costs no other: what a run leaves on disk is what merging just the artifacts
leaves that it reports, one after another. A run returns with a result for every piece, unless a
text cannot be decoded or a temporary name cannot be used, which is more than one piece answers for.
-/
namespace GoScaffold

open GoScaffold.Text GoScaffold.Template

/-- The artifact of a piece that was built and brought into its file. -/
def broughtIn? : Except TemplateFault Artifact → Except PieceFault MergeOutcome → Option Artifact
  | .ok a, .ok _ => some a
  | _, _ => none

/-- The artifacts that a run of pieces reports as brought into their files. -/
def reported (s : Store) (e : Entity) (press : Press) (w : Workspace) : List Piece → List Artifact
  | [] => []
  | p :: rest =>
    let (press', w', r) := runPiece s e press w p
    (broughtIn? (p.build press w.tree e).2 r).toList ++
      match endOfRun? r with
      | some _ => []
      | none => reported s e press' w' rest

/-- Every piece has one result, in the order of the pieces. -/
theorem pieces_of_runPieces {s : Store} {e : Entity} {press : Press} {w w' : Workspace}
    {pieces : List Piece} {results : List PieceResult}
    (h : runPieces s e press w pieces = (w', .ok results)) : results.map (·.piece) = pieces := by
  induction pieces generalizing press w results with
  | nil =>
    cases h
    rfl
  | cons p rest ih =>
    obtain ⟨press', between, r, later, -, -, hlater, rfl⟩ := exists_of_runPieces_cons h
    rw [List.map_cons, ih hlater]

namespace Store

open GoScaffold.Tree

section Merge

variable {root : Path} {w : Workspace} {a : Artifact} {home : Location}

/-- A merge on disk goes through, or it is refused and changes nothing; it ends otherwise only where
the path is not clear. -/
theorem merge_cases (hrooted : w.tree.IsRooted) (hreach : w.tree.Reaches (root / a.path) home) :
    (∃ w' o, (disk root).merge w a = (w', .ok o)) ∨
    (∃ f, (disk root).merge w a = (w, .error f) ∧ f.isRefusal = true) ∨
    (∃ w' f, (disk root).merge w a = (w', .error f) ∧ f.isRefusal = false) ∧
      ¬ w.tree.IsClear (root / a.path) home := by
  cases hread : w.tree.readText? (root / a.path) with
  | error f =>
    cases f with
    | refused e =>
      have hr : (disk root).read w a.path = .error (.unreadable a.path e) := by
        simp only [read, readDisk, hread]
      exact Or.inr (Or.inl ⟨_, merge_of_unreadable hr, rfl⟩)
    | undecodable f =>
      have hr : (disk root).read w a.path = .error (.undecodable f) := by
        simp only [read, readDisk, hread]
      refine Or.inr (Or.inr ⟨⟨w, _, merge_of_unreadable hr, rfl⟩, fun hclear => ?_⟩)
      obtain ⟨bytes, stamp, hfind, hdecode⟩ := find_of_undecodable hread
      obtain ⟨l, hl, hentry⟩ := find_ok.1 hfind
      rw [hreach.leadsTo.locate_eq hl] at hentry
      obtain ⟨s, hs⟩ := hclear.decodes bytes stamp hentry
      rw [hdecode] at hs
      cases hs
  | ok existing =>
    cases hm : GoScaffold.merge existing a with
    | mk next outcome =>
      cases next with
      | none =>
        have hr : (disk root).read w a.path = .ok existing := by
          simp only [read, readDisk, hread]
        exact Or.inl ⟨w, outcome, merge_of_same hr hm⟩
      | some text =>
        obtain ⟨moved, hw⟩ | ⟨e, hw⟩ | ⟨⟨t', e, hw⟩, hobstacle⟩ :=
          writeText_cases text hrooted hreach (hreach.entry_ne hrooted hread)
        · exact Or.inl ⟨_, _, merge_disk hread hm hw⟩
        · exact Or.inr (Or.inl ⟨_, merge_disk hread hm hw, rfl⟩)
        · refine Or.inr (Or.inr ⟨⟨_, _, merge_disk hread hm hw, rfl⟩, fun hclear => ?_⟩)
          obtain hlong | hdirectory := hobstacle
          · have hfind := hclear.short.resolve_left hlong
            rw [readText?_of_tooLong hreach.zero hfind] at hread
            cases hread
          · exact hclear.temporary hdirectory

theorem tree_of_merge {w' : Workspace} {o : MergeOutcome} (h : (disk root).merge w a = (w', .ok o)) :
    w' = w ∨ ∃ text, w.tree.writeText (root / a.path) text = (w'.tree, none) := by
  obtain ⟨existing, -, -, ⟨-, rfl⟩ | ⟨text, -, hw⟩⟩ := merge_ok h
  · exact Or.inl rfl
  · simp only [write, Prod.mk.injEq, Option.map_eq_none_iff] at hw
    obtain ⟨rfl, hnone⟩ := hw
    exact Or.inr ⟨text, Prod.ext rfl hnone⟩

end Merge

end Store

/-- The folders of the pieces lead to the locations, and their paths are ones that files may have. -/
structure Tree.IsReady (t : Tree) (root : Path) (e : Entity) (home : Piece → Location)
    (pieces : List Piece) : Prop where
  rooted : t.IsRooted
  reaches : ∀ p ∈ pieces, t.Reaches (root / p.path e) (home p)

/-- The files of the pieces are clear, and none has its temporary name on the way to another. -/
structure Tree.AreClear (t : Tree) (root : Path) (e : Entity) (home : Piece → Location)
    (pieces : List Piece) : Prop where
  clear : ∀ p ∈ pieces, t.IsClear (root / p.path e) (home p)
  way : ∀ p ∈ pieces, ∀ q ∈ pieces, ¬ home p ++ [(t.temporary (root / p.path e)).name] <+: home q

section Run

variable {root : Path} {e : Entity} {home : Piece → Location} {press press' : Press}
  {w w' : Workspace} {p : Piece} {pieces : List Piece} {a : Artifact} {o : MergeOutcome}

theorem Piece.name_path_ne (root : Path) (e : Entity) (p : Piece) :
    (root / p.path e : Path).name ≠ "" ∧ (root / p.path e : Path).name ≠ ".." := by
  obtain ⟨stem, hname⟩ := exists_name_path root e p
  rw [hname]
  refine ⟨by simp, ?_⟩
  have hdots := ne_of_endings (s := ".go") (t := "..") (by decide) (by decide) stem ""
  rwa [String.empty_append] at hdots

theorem Piece.name_path_ne_temporary (t : Tree) (root : Path) (e : Entity) (p q : Piece) :
    (root / p.path e : Path).name ≠ (t.temporary (root / q.path e)).name := by
  obtain ⟨stem, hname⟩ := exists_name_path root e p
  rw [hname, Tree.temporary_name t (name_path_ne root e q).1]
  exact Tree.append_ne_temporaryName (by decide) t _ _

theorem Piece.path_of_build {t : Tree} (h : p.build press t e = (press', .ok a)) :
    a.path = p.path e := by
  obtain ⟨text, rfl⟩ := exists_artifact_of_build h
  rfl

theorem Tree.IsReady.tail {t : Tree} (h : t.IsReady root e home (p :: pieces)) :
    t.IsReady root e home pieces :=
  ⟨h.rooted, fun q hq => h.reaches q (List.mem_cons_of_mem _ hq)⟩

theorem Tree.AreClear.tail {t : Tree} (h : t.AreClear root e home (p :: pieces)) :
    t.AreClear root e home pieces :=
  ⟨fun q hq => h.clear q (List.mem_cons_of_mem _ hq), fun q hq q' hq' =>
    h.way q (List.mem_cons_of_mem _ hq) q' (List.mem_cons_of_mem _ hq')⟩

/-- A merge of a piece leaves the ways of all pieces as they were. -/
theorem Tree.IsReady.merge (h : w.tree.IsReady root e home pieces) (hp : p ∈ pieces)
    (ha : a.path = p.path e) (hm : (Store.disk root).merge w a = (w', .ok o)) :
    w'.tree.IsReady root e home pieces := by
  obtain rfl | ⟨text, hwrite⟩ := Store.tree_of_merge hm
  · exact h
  · rw [ha] at hwrite
    have hwritten := (h.reaches p hp).isWritten hwrite
    exact ⟨hwritten.rooted h.rooted, fun q hq => (h.reaches q hq).congr hwritten.directory⟩

theorem Tree.AreClear.merge (h : w.tree.AreClear root e home pieces)
    (hready : w.tree.IsReady root e home pieces) (hp : p ∈ pieces)
    (ha : a.path = p.path e) (hm : (Store.disk root).merge w a = (w', .ok o)) :
    w'.tree.AreClear root e home pieces := by
  obtain rfl | ⟨text, hwrite⟩ := Store.tree_of_merge hm
  · exact h
  · rw [ha] at hwrite
    have hwritten := (hready.reaches p hp).isWritten hwrite
    refine ⟨fun q hq => ?_, fun q hq q' hq' => ?_⟩
    · refine (h.clear q hq).of_isWritten hwritten (h.way q hq p hp) ?_
        (Piece.name_path_ne_temporary _ root e p q).symm
      rw [← Tree.temporary_name _ (Piece.name_path_ne root e p).1]
      exact Piece.name_path_ne_temporary _ root e q p
    · rw [Tree.temporary_congr hwritten.process]
      exact h.way q hq q' hq'

/-- A piece that does not end its run is brought into its file, or it fails and changes nothing. -/
theorem runPiece_cases (h : w.tree.IsReady root e home pieces) (hp : p ∈ pieces)
    {r : Except PieceFault MergeOutcome}
    (hrun : runPiece (.disk root) e press w p = (press', w', r)) :
    (∃ a o, p.build press w.tree e = (press', .ok a) ∧
      (Store.disk root).merge w a = (w', .ok o) ∧ r = .ok o) ∨
    (∃ f, r = .error f ∧ w' = w ∧ endOfRun? r = none) ∨
    (∃ f, endOfRun? r = some f) ∧ ¬ w.tree.IsClear (root / p.path e) (home p) := by
  rw [runPiece] at hrun
  cases hbuild : p.build press w.tree e with
  | mk press₁ built =>
    rw [hbuild] at hrun
    cases built with
    | error f =>
      cases hrun
      exact Or.inr (Or.inl ⟨_, rfl, rfl, rfl⟩)
    | ok a =>
      have hpath := Piece.path_of_build hbuild
      have hreach := h.reaches p hp
      rw [← hpath] at hreach ⊢
      dsimp only at hrun
      obtain ⟨after, o, hm⟩ | ⟨f, hm, hrefusal⟩ | ⟨⟨after, f, hm, hrefusal⟩, hunclear⟩ :=
        Store.merge_cases h.rooted hreach
      · rw [hm] at hrun
        cases hrun
        exact Or.inl ⟨a, o, rfl, hm, rfl⟩
      · rw [hm] at hrun
        cases hrun
        exact Or.inr (Or.inl ⟨_, rfl, rfl, by simp [endOfRun?, hrefusal]⟩)
      · rw [hm] at hrun
        cases hrun
        exact Or.inr (Or.inr ⟨⟨f, by simp [endOfRun?, hrefusal]⟩, hunclear⟩)

theorem reported_cons (s : Store) (e : Entity) (press : Press) (w : Workspace) (p : Piece)
    (rest : List Piece) : reported s e press w (p :: rest) =
      match runPiece s e press w p with
      | (press', w', r) =>
        (broughtIn? (p.build press w.tree e).2 r).toList ++
          match endOfRun? r with
          | some _ => []
          | none => reported s e press' w' rest := rfl

/-- A run that returns left what merging the reported artifacts leaves. -/
theorem mergeAll_reported (h : w.tree.IsReady root e home pieces) {results : List PieceResult}
    (hrun : runPieces (.disk root) e press w pieces = (w', .ok results)) :
    (Store.disk root).mergeAll w (reported (.disk root) e press w pieces) =
      (w', (results.filterMap PieceResult.outcome?).map .ok) := by
  induction pieces generalizing press w results with
  | nil =>
    cases hrun
    rfl
  | cons p rest ih =>
    obtain ⟨press₁, between, r, later, hpiece, hend, hlater, rfl⟩ := exists_of_runPieces_cons hrun
    rw [reported_cons, hpiece]
    obtain ⟨a, o, hbuild, hm, rfl⟩ | ⟨f, rfl, rfl, -⟩ | ⟨⟨f, hf⟩, -⟩ :=
      runPiece_cases h List.mem_cons_self hpiece
    · have hnext := h.merge List.mem_cons_self (Piece.path_of_build hbuild) hm
      simp only [hbuild, broughtIn?, hend, Option.toList_some, List.singleton_append,
        Store.mergeAll, hm, ih hnext.tail hlater]
      rfl
    · have hnone : broughtIn? (p.build press between.tree e).2 (.error f) = none := by
        cases (p.build press between.tree e).2 <;> rfl
      simp only [hnone, hend, Option.toList_none, List.nil_append, ih h.tail hlater]
      rfl
    · rw [hend] at hf
      cases hf

/-- Where the files of the pieces are clear, a run returns. -/
theorem exists_results (h : w.tree.IsReady root e home pieces)
    (hclear : w.tree.AreClear root e home pieces) (press : Press) :
    ∃ w' results, runPieces (.disk root) e press w pieces = (w', .ok results) := by
  induction pieces generalizing press w with
  | nil => exact ⟨w, [], rfl⟩
  | cons p rest ih =>
    cases hpiece : runPiece (.disk root) e press w p with
    | mk press' ran =>
      obtain ⟨between, r⟩ := ran
      have hnext : endOfRun? r = none ∧ between.tree.IsReady root e home (p :: rest) ∧
          between.tree.AreClear root e home (p :: rest) := by
        obtain ⟨a, o, hbuild, hm, rfl⟩ | ⟨f, -, rfl, hend⟩ | ⟨-, hunclear⟩ :=
          runPiece_cases h List.mem_cons_self hpiece
        · have hpath := Piece.path_of_build hbuild
          exact ⟨rfl, h.merge List.mem_cons_self hpath hm,
            hclear.merge h List.mem_cons_self hpath hm⟩
        · exact ⟨hend, h, hclear⟩
        · exact absurd (hclear.clear p List.mem_cons_self) hunclear
      obtain ⟨hend, hready, hstill⟩ := hnext
      obtain ⟨w', results, hrest⟩ := ih hready.tail hstill.tail press'
      refine ⟨w', ⟨p, r⟩ :: results, ?_⟩
      rw [runPieces_cons, hpiece]
      simp only [hend, hrest, Except.map]

end Run

/-- A piece that fails costs no other. Where the folders of the pieces lead somewhere and their paths
are ones that files may have, a run on disk that returns has one result for every piece, in order,
and leaves the workspace that merging just the reported artifacts leaves. It does return where every
file can be decoded and every temporary name can be used. -/
theorem runLayers_isolated {root : Path} {e : Entity} {home : Piece → Location} {w : Workspace}
    {layers : List Layer} (press : Press) (hrooted : w.tree.IsRooted)
    (hfolder : ∀ p ∈ layers.flatMap (Layer.pieces e),
      w.tree.LeadsTo (root / p.path e : Path).parent (home p))
    (hzero : ∀ p ∈ layers.flatMap (Layer.pieces e), (root / p.path e : Path).hasZero = false) :
    (∀ w' results, runLayers (.disk root) e press w layers = (w', .ok results) →
      results.map (·.piece) = layers.flatMap (Layer.pieces e) ∧
        (Store.disk root).mergeAll w
            (reported (.disk root) e press w (layers.flatMap (Layer.pieces e))) =
          (w', (results.filterMap PieceResult.outcome?).map .ok)) ∧
    (w.tree.AreClear root e home (layers.flatMap (Layer.pieces e)) →
      ∃ w' results, runLayers (.disk root) e press w layers = (w', .ok results)) := by
  have hready : w.tree.IsReady root e home (layers.flatMap (Layer.pieces e)) :=
    ⟨hrooted, fun p hp => ⟨hfolder p hp, Piece.name_path_ne root e p, hzero p hp⟩⟩
  refine ⟨fun w' results hrun => ⟨pieces_of_runPieces hrun, mergeAll_reported hready hrun⟩,
    fun hclear => exists_results hready hclear press⟩

/-- A directory has the name of a product's file, and a file that of the folder of messages. -/
def crowdedTree : Tree where
  entries := [(["internal"], .directory), (["internal", "domain"], .directory),
    (["internal", "domain", "product.go"], .directory),
    (["internal", "messages"], .file "messages".toUTF8 1)]
  clock := 1

theorem isRooted_crowdedTree : crowdedTree.IsRooted := Tree.isRooted_of_entries (by
  simp only [crowdedTree, List.forall_mem_cons, List.not_mem_nil, false_implies, implies_true,
    and_true]
  exact ⟨rfl, rfl, rfl, rfl⟩)

section Crowded

variable {e : Entity} (hbase : e.fileBase = "product")
  (hdatabase : e.settings.database.text = "postgres")

include hbase hdatabase

theorem path_crowded (p : Piece) :
    (Path.here / p.path e : Path) = { segments := p.folder ++ [p.sourceFile e] } := by
  have hslash : '/' ∉ (p.baseName e).toList := by
    cases p <;> simp only [Piece.baseName, hbase, hdatabase] <;> decide
  change Path.here.append (Path.ofString (p.path e)) = _
  rw [Piece.ofString_path hslash]
  rfl

theorem isClear_crowded (p : Piece) :
    crowdedTree.IsClear (Path.here / p.path e) p.folder := by
  have hname := Piece.name_path_ne .here e p
  rw [path_crowded hbase hdatabase] at hname ⊢
  have hfile : ({ segments := p.folder ++ [p.sourceFile e] } : Path).name = p.sourceFile e := by
    simp [Path.name]
  refine ⟨?_, ?_, Or.inl ⟨?_, ?_⟩⟩
  · have hentry : crowdedTree.entry? (p.folder ++ [p.sourceFile e]) = none ∨
        crowdedTree.entry? (p.folder ++ [p.sourceFile e]) = some .directory := by
      cases p <;> simp only [Piece.folder, Piece.sourceFile, Piece.baseName, hbase, hdatabase]
      case entity => exact Or.inr rfl
      all_goals exact Or.inl rfl
    intro bytes stamp hbytes
    rw [hfile] at hbytes
    rw [hbytes] at hentry
    obtain hnone | hdirectory := hentry
    · cases hnone
    · cases hdirectory
  · have hentry : (crowdedTree.entry? (p.folder ++ [crowdedTree.temporaryName (p.sourceFile e)])).isNone =
        true := by
      cases p <;> simp only [Piece.folder, Piece.sourceFile, Piece.baseName, hbase, hdatabase] <;>
        decide
    rw [Tree.temporary_name _ hname.1, hfile, Option.isNone_iff_eq_none.1 hentry]
    simp
  · cases p <;> simp only [Piece.folder, Piece.sourceFile, Piece.baseName, hbase, hdatabase] <;>
      decide
  · cases p <;> simp only [Piece.folder, Piece.sourceFile, Piece.baseName, hbase, hdatabase] <;>
      decide

theorem areClear_crowded (pieces : List Piece) :
    crowdedTree.AreClear .here e Piece.folder pieces where
  clear p _ := isClear_crowded hbase hdatabase p
  way p _ q _ hleads := by
    have hmem : (crowdedTree.temporary (Path.here / p.path e)).name ∈ q.folder :=
      hleads.subset (by simp)
    rw [Tree.temporary_name _ (Piece.name_path_ne .here e p).1] at hmem
    exact Piece.temporaryName_not_mem_folder crowdedTree _ q hmem

theorem hasZero_crowded (p : Piece) : (Path.here / p.path e : Path).hasZero = false := by
  rw [path_crowded hbase hdatabase, Tree.hasZero_eq]
  cases p <;> simp only [Piece.folder, Piece.sourceFile, Piece.baseName, hbase, hdatabase] <;> decide

theorem leadsTo_crowded (p : Piece) :
    crowdedTree.LeadsTo (Path.here / p.path e : Path).parent p.folder := by
  have hdots : ".." ∉ p.folder := fun hmem => (Piece.folder_segments _ p.folder_mem _ hmem).1 rfl
  rw [path_crowded hbase hdatabase]
  exact ⟨[], p.folder, [], by simp [Path.parent], hdots, rfl, rfl, rfl⟩

end Crowded

/-- The run for a product returns in a crowded tree, where three of its pieces have no place. -/
theorem runLayers_isolated_crowded : ∃ (fields : List Field) (e : Entity) (w' : Workspace)
    (results : List PieceResult), Descriptor.read .builtin (some "name:string") = .ok fields ∧
      Entity.ofFields "product" fields {} = .ok e ∧
      runLayers (.disk .here) e (.create none) { tree := crowdedTree } [.domain, .messages] =
        (w', .ok results) ∧
      results.map (·.piece) = [.entity, .samples, .errorMessages, .responseMessages, .constants] ∧
      (Store.disk .here).mergeAll { tree := crowdedTree }
          (reported (.disk .here) e (.create none) { tree := crowdedTree }
            [.entity, .samples, .errorMessages, .responseMessages, .constants]) =
        (w', (results.filterMap PieceResult.outcome?).map .ok) := by
  have hread : ∃ fields, Descriptor.read .builtin (some "name:string") = .ok fields ∧
      (Entity.ofFields "product" fields {}).toOption.any (·.fileBase == "product") = true :=
    exists_of_toOption_any (by decide +kernel)
  obtain ⟨fields, hread, hproduct⟩ := hread
  obtain ⟨e, he, hbase⟩ := exists_of_toOption_any hproduct
  rw [beq_iff_eq] at hbase
  have hsettings : e.settings = {} := (Entity.ofFields_ok he).2.2.1
  have hdatabase : e.settings.database.text = "postgres" := by rw [hsettings]; rfl
  have hpieces : [Layer.domain, .messages].flatMap (Layer.pieces e) =
      [.entity, .samples, .errorMessages, .responseMessages, .constants] := by
    simp only [List.flatMap_cons, Layer.pieces, hsettings]
    rfl
  obtain ⟨hisolated, hreturns⟩ := @runLayers_isolated .here e Piece.folder { tree := crowdedTree }
    [.domain, .messages] (.create none) isRooted_crowdedTree
    (fun p _ => leadsTo_crowded hbase hdatabase p) (fun p _ => hasZero_crowded hbase hdatabase p)
  obtain ⟨w', results, hrun⟩ := hreturns (areClear_crowded hbase hdatabase _)
  have hresult := hisolated w' results hrun
  rw [hpieces] at hresult
  exact ⟨fields, e, w', results, hread, he, hrun, hresult⟩

end GoScaffold
