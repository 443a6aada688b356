import GoScaffold.Proofs.Generation.Run
import GoScaffold.Proofs.SharedFile.Growth

/-!
# Runs over drafts

Over drafts in memory a run of built-in pieces goes through. Each piece merges its artifact into the
draft at its path and leaves the other drafts alone, so that after pieces of different files every
draft is what one merge made of it.
-/
namespace GoScaffold

open GoScaffold.Text GoScaffold.Naming GoScaffold.Template

namespace Workspace

def afterMerge (w : Workspace) (a : Artifact) : Workspace := (Store.memory.merge w a).1

variable (w : Workspace) (a : Artifact)

theorem merge_memory :
    Store.memory.merge w a =
      (w.afterMerge a, .ok (merge (OrderedMap.get? a.path w.drafts) a).2) := by
  rw [afterMerge, Store.merge]
  simp only [Store.read]
  cases merge (OrderedMap.get? a.path w.drafts) a with
  | mk next outcome => cases next <;> rfl

theorem afterMerge_of_skip (h : (merge (OrderedMap.get? a.path w.drafts) a).1 = none) :
    w.afterMerge a = w := by
  rw [afterMerge, Store.merge]
  simp only [Store.read]
  cases hm : merge (OrderedMap.get? a.path w.drafts) a with
  | mk next outcome =>
    rw [hm] at h
    cases h
    rfl

theorem afterMerge_tree : (w.afterMerge a).tree = w.tree := by
  rw [afterMerge, Store.merge]
  simp only [Store.read]
  cases merge (OrderedMap.get? a.path w.drafts) a with
  | mk next outcome => cases next <;> rfl

/-- Merging changes the draft at the path of the artifact only. -/
theorem get?_afterMerge (path : String) :
    OrderedMap.get? path (w.afterMerge a).drafts =
      if path = a.path then textAfter (OrderedMap.get? a.path w.drafts) a
      else OrderedMap.get? path w.drafts := by
  rw [afterMerge, Store.merge, textAfter]
  simp only [Store.read]
  cases hm : merge (OrderedMap.get? a.path w.drafts) a with
  | mk next outcome =>
    cases next with
    | none =>
      by_cases hp : path = a.path
      · simp [hp]
      · simp [hp]
    | some text =>
      by_cases hp : path = a.path
      · simp [Store.write, OrderedMap.get?_insert, hp]
      · simp [Store.write, OrderedMap.get?_insert, hp, Ne.symm hp]

end Workspace

section Runs

variable {e : Entity} {press : Press} {w : Workspace} {pieces : List Piece}

theorem runPiece_memory {p : Piece} {text : String} (hpress : press.IsBuiltin)
    (htext : p.Declares e text) :
    ∃ press' : Press, runPiece .memory e press w p =
      (press', w.afterMerge (p.artifact e text),
        .ok (merge (OrderedMap.get? (p.path e) w.drafts) (p.artifact e text)).2) ∧
      press'.IsBuiltin := by
  obtain ⟨press', hrun, hpress'⟩ := runPiece_eq .memory (w := w) hpress htext
  refine ⟨press', ?_, hpress'⟩
  rw [hrun, Workspace.merge_memory]
  rfl

/-- Every draft after a run of pieces that go to different files. -/
theorem runPieces_drafts (hpress : press.IsBuiltin) (h : ∀ p ∈ pieces, ∃ text, p.Declares e text)
    (hpaths : (pieces.map (Piece.path e)).Nodup) :
    ∃ w' results, runPieces .memory e press w pieces = (w', .ok results) ∧ w'.tree = w.tree ∧
      (∀ r ∈ results, r.fault? = none) ∧
      (∀ p ∈ pieces, ∀ text, p.Declares e text → OrderedMap.get? (p.path e) w'.drafts =
        textAfter (OrderedMap.get? (p.path e) w.drafts) (p.artifact e text)) ∧
      ∀ path ∉ pieces.map (Piece.path e),
        OrderedMap.get? path w'.drafts = OrderedMap.get? path w.drafts := by
  induction pieces generalizing press w with
  | nil => exact ⟨w, [], rfl, rfl, by simp, by simp, fun _ _ => rfl⟩
  | cons p pieces ih =>
    rw [List.map_cons, List.nodup_cons] at hpaths
    obtain ⟨text, htext⟩ := h p (by simp)
    obtain ⟨press', hrun, hpress'⟩ := runPiece_memory (w := w) hpress htext
    obtain ⟨w', results, hruns, htree, hok, hdrafts, hframe⟩ :=
      ih (w := w.afterMerge (p.artifact e text)) hpress' (fun q hq => h q (by simp [hq])) hpaths.2
    let outcome := (merge (OrderedMap.get? (p.path e) w.drafts) (p.artifact e text)).2
    refine ⟨w', ⟨p, .ok outcome⟩ :: results, ?_, htree.trans (w.afterMerge_tree _),
      List.forall_mem_cons.2 ⟨rfl, hok⟩, fun q hq s hs => ?_, fun path hpath => ?_⟩
    · rw [runPieces, hrun]
      simp only [endOfRun?, hruns, outcome]
    · rcases List.mem_cons.1 hq with rfl | hq
      · rw [hframe _ hpaths.1, Workspace.get?_afterMerge, hs.unique htext]
        exact if_pos rfl
      · have hne : q.path e ≠ p.path e := fun he => hpaths.1 (he ▸ List.mem_map_of_mem hq)
        rw [hdrafts q hq s hs, Workspace.get?_afterMerge]
        exact congrArg (textAfter · _) (if_neg hne)
    · rw [List.map_cons, List.mem_cons, not_or] at hpath
      rw [hframe path hpath.2, Workspace.get?_afterMerge]
      exact if_neg hpath.1

end Runs

end GoScaffold

/-! ## A second run changes nothing

Over drafts in memory, a run leaves every file of its pieces as one in which the piece is found
again. So a second run with the same request skips every piece. -/

namespace GoScaffold

open GoScaffold.Text GoScaffold.Naming GoScaffold.Template

namespace Piece

theorem exists_traceable {e : Entity} (h : e.IsDescribed) {advice : List String}
    (hmodule : Settings.moduleAdvice e.settings.moduleName = .ok advice) (p : Piece) :
    ∃ text, p.Declares e text ∧ (p.artifact e text).IsTraceable := by
  cases hm : p.marker e with
  | none =>
    obtain ⟨text, htext⟩ := exists_declares h hmodule p
    exact ⟨text, htext, fun hmergeable => by simp [artifact, hm] at hmergeable⟩
  | some m =>
    refine ⟨_, declares_lines h (by simp [hm]), fun _ => ?_⟩
    obtain ⟨l, hl, hmarker⟩ := exists_marker_line hm
    have hne := marker_ne_nil hm
    have htext : (p.artifact e (textOf (p.lines e))).markerText = m := by
      simp [artifact, Artifact.markerText, hm]
    rw [htext, contains_iff,
      SharedFile.infix_firstContent_iff hne (newline_not_mem_marker h hm)]
    exact ⟨by simpa using hne, hmarker.isInfix.trans (Entity.infix_textOf_of_mem hl)⟩

end Piece

/-- The piece is built and merging it into the drafts changes nothing. -/
def IsSettled (e : Entity) (w : Workspace) (p : Piece) : Prop :=
  ∃ text, p.Declares e text ∧
    merge (OrderedMap.get? (p.path e) w.drafts) (p.artifact e text) =
      (none, { path := p.path e, action := .skipped })

def skippedResult (e : Entity) (p : Piece) : PieceResult :=
  ⟨p, .ok { path := p.path e, action := .skipped }⟩

section Runs

variable {e : Entity} {press : Press} {w : Workspace} {pieces : List Piece}

/-- A run of pieces that are there already skips all of them. -/
theorem runPieces_of_isSettled (hpress : press.IsBuiltin)
    (h : ∀ p ∈ pieces, IsSettled e w p) :
    runPieces .memory e press w pieces = (w, .ok (pieces.map (skippedResult e))) := by
  induction pieces generalizing press with
  | nil => rfl
  | cons p pieces ih =>
    obtain ⟨text, htext, hmerge⟩ := h p (by simp)
    obtain ⟨press', hrun, hpress'⟩ := runPiece_memory (w := w) hpress htext
    have hw := w.afterMerge_of_skip (p.artifact e text) (congrArg (·.1) hmerge)
    have ih := ih hpress' fun q hq => h q (by simp [hq])
    rw [runPieces, hrun, hw, hmerge]
    simp only [endOfRun?, ih]
    rfl

theorem runPieces_settles (hpress : press.IsBuiltin)
    (h : ∀ p ∈ pieces, ∃ text, p.Declares e text ∧ (p.artifact e text).IsTraceable)
    (hpaths : (pieces.map (Piece.path e)).Nodup) :
    ∃ w' results, runPieces .memory e press w pieces = (w', .ok results) ∧ w'.tree = w.tree ∧
      ∀ p ∈ pieces, IsSettled e w' p := by
  obtain ⟨w', results, hruns, htree, -, hdrafts, -⟩ := runPieces_drafts (w := w) hpress
    (fun p hp => (h p hp).imp fun text htext => htext.1) hpaths
  refine ⟨w', results, hruns, htree, fun p hp => ?_⟩
  obtain ⟨text, htext, htraceable⟩ := h p hp
  refine ⟨text, htext, ?_⟩
  rw [hdrafts p hp text htext]
  exact merge_textAfter htraceable _

end Runs

theorem written_skipped {e : Entity} {pieces : List Piece} {report : Report}
    (h : report.results = pieces.map (skippedResult e)) : report.written = [] := by
  have houtcomes : report.outcomes =
      pieces.map fun p => { path := p.path e, action := .skipped } := by
    rw [Report.outcomes, h, List.filterMap_map, ← List.filterMap_eq_map]
    rfl
  rw [Report.written, houtcomes]
  simp [MergeOutcome.changed]

/-- A run without a template directory, its pieces going to different files, leaves drafts that the
same run finds complete: it skips every piece and changes nothing. -/
theorem generate_generate {roster : Roster} {w : Workspace} {r : Request} {text : Option String}
    (hfields : r.fields = .descriptor text) {e : Entity} (he : r.readEntity w.tree = .ok e)
    (hdir : e.settings.templateDir = .null) {layers : List Layer}
    (hlayers : roster.select r.layers = .ok layers)
    (hpaths : ((layers.flatMap (Layer.pieces e)).map (Piece.path e)).Nodup) :
    (∀ f, e.settings.warnings w.tree = .error f →
      generate roster .memory w r = (w, .error (.advice f))) ∧
    ∀ advice, e.settings.warnings w.tree = .ok advice →
      ∃ w' first second, generate roster .memory w r = (w', .ok first) ∧
        generate roster .memory w' r = (w', .ok second) ∧
        second.results = (layers.flatMap (Layer.pieces e)).map (skippedResult e) ∧
        second.written = [] := by
  refine ⟨fun f hf => by rw [generate_eq he hdir hlayers, hf], fun advice hadvice => ?_⟩
  have hdescribed := isDescribed_of_readEntity hfields he
  obtain ⟨found, hmodule⟩ := moduleAdvice_of_warnings hadvice
  obtain ⟨w', results, hrun, htree, hsettled⟩ :=
    runPieces_settles (w := w) Press.isBuiltin_create
      (fun p _ => Piece.exists_traceable hdescribed hmodule p) hpaths
  have hagain := runPieces_of_isSettled Press.isBuiltin_create hsettled
  let report (results : List PieceResult) : Report :=
    { entity := e, layers := layers, templates := .builtin, advice := advice, results := results }
  refine ⟨w', report results, report ((layers.flatMap (Layer.pieces e)).map (skippedResult e)),
    ?_, ?_, rfl, written_skipped rfl⟩
  · rw [generate_eq he hdir hlayers, hadvice, runLayers, hrun]
  · rw [generate_eq (htree ▸ he) hdir hlayers, htree, hadvice, runLayers, hagain]

def productRequest : Request where
  entity := "product"
  fields := .descriptor (some "name:string")
  settings := .given {}

/-- Drafts with a shared file that has been spoilt by hand. -/
def spoiltDrafts : Workspace := { drafts := [("internal/messages/errors.go", "package messages")] }

theorem generate_generate_product : ∃ w' first second,
    generate .builtin .memory spoiltDrafts productRequest = (w', .ok first) ∧
      generate .builtin .memory w' productRequest = (w', .ok second) ∧ second.written = [] := by
  have hread : ∃ e, productRequest.readEntity {} = .ok e ∧
      decide ((Layer.all.flatMap (Layer.pieces e)).map (Piece.path e)).Nodup = true :=
    exists_of_toOption_any (by decide +kernel)
  obtain ⟨e, he, hpaths⟩ := hread
  have hsettings : e.settings = {} := settings_of_readEntity rfl he
  have hdir : e.settings.templateDir = .null := by rw [hsettings]
  have hadvice : e.settings.warnings {} = .ok [] := by
    rw [hsettings]
    rfl
  have hlayers : Roster.builtin.select productRequest.layers = .ok Layer.all := rfl
  obtain ⟨w', first, second, hfirst, hsecond, -, hwritten⟩ :=
    (generate_generate (w := spoiltDrafts) rfl he hdir hlayers (of_decide_eq_true hpaths)).2 []
      hadvice
  exact ⟨w', first, second, hfirst, hsecond, hwritten⟩

end GoScaffold
