import GoScaffold.Generation.Run
import GoScaffold.Proofs.Layer.Built
import GoScaffold.Proofs.Workspace.Written

/-!
# What a run does

A run without a template directory reads its entity, judges the settings and merges what its pieces
declare, one after another.
-/
namespace GoScaffold

open GoScaffold.Template

theorem readEntity_ok {r : Request} {t : Tree} {e : Entity} (h : r.readEntity t = .ok e) :
    ∃ fields settings, r.readFields = .ok fields ∧ r.readSettings t = .ok settings ∧
      Entity.ofFields r.entity fields settings = .ok e := by
  rw [Request.readEntity] at h
  cases hfields : r.readFields with
  | error f => simp [hfields, bind, Except.bind] at h
  | ok fields =>
    cases hsettings : r.readSettings t with
    | error f => simp [hfields, hsettings, bind, Except.bind] at h
    | ok settings =>
      refine ⟨fields, settings, rfl, rfl, ?_⟩
      cases hof : Entity.ofFields r.entity fields settings with
      | error f => simp [hfields, hsettings, hof, Except.mapError, bind, Except.bind] at h
      | ok e' => simpa [hfields, hsettings, hof, Except.mapError, bind, Except.bind] using h

theorem isDescribed_of_readEntity {r : Request} {t : Tree} {text : Option String} {e : Entity}
    (hfields : r.fields = .descriptor text) (he : r.readEntity t = .ok e) : e.IsDescribed := by
  obtain ⟨fields, settings, hread, -, hof⟩ := readEntity_ok he
  rw [Request.readFields, hfields] at hread
  cases hd : Descriptor.read .builtin text with
  | error f => simp [hd, Except.mapError] at hread
  | ok given =>
    obtain rfl : given = fields := by simpa [hd, Except.mapError] using hread
    exact Entity.isDescribed_of_read hd hof

theorem isTagged_of_readEntity {r : Request} {t : Tree} {e : Entity} (he : r.readEntity t = .ok e) :
    e.IsTagged := by
  obtain ⟨_, _, -, -, hof⟩ := readEntity_ok he
  exact Entity.isTagged_of_ofFields hof

theorem settings_of_readEntity {r : Request} {t : Tree} {s : Settings} {e : Entity}
    (hs : r.settings = .given s) (he : r.readEntity t = .ok e) : e.settings = s := by
  obtain ⟨fields, settings, -, hread, hof⟩ := readEntity_ok he
  rw [Request.readSettings, hs, Except.ok.injEq] at hread
  exact (Entity.ofFields_ok hof).2.2.1.trans hread.symm

theorem moduleAdvice_of_warnings {s : Settings} {t : Tree} {advice : List String}
    (h : s.warnings t = .ok advice) : ∃ found, Settings.moduleAdvice s.moduleName = .ok found := by
  rw [Settings.warnings] at h
  cases hm : Settings.moduleAdvice s.moduleName with
  | ok found => exact ⟨found, rfl⟩
  | error f =>
    simp only [hm, bind, Except.bind] at h
    split at h
    · cases h
    · split at h <;> cases h

section Pieces

variable {s : Store} {e : Entity} {press : Press} {w w' : Workspace} {p : Piece}
  {pieces : List Piece}

/-- A piece that declares a text is merged into the store. -/
theorem runPiece_eq (s : Store) {text : String} (hpress : press.IsBuiltin)
    (htext : p.Declares e text) :
    ∃ press' : Press, runPiece s e press w p =
      (press', (s.merge w (p.artifact e text)).1,
        (s.merge w (p.artifact e text)).2.mapError .store) ∧ press'.IsBuiltin := by
  obtain ⟨press', hbuild, hpress'⟩ := htext press w.tree hpress
  refine ⟨press', ?_, hpress'⟩
  rw [runPiece, hbuild]
  cases hm : s.merge w (p.artifact e text) with
  | mk w' outcome => cases outcome <;> simp only [hm, Except.mapError]

theorem runPieces_cons (s : Store) (e : Entity) (press : Press) (w : Workspace) (p : Piece)
    (rest : List Piece) : runPieces s e press w (p :: rest) =
      match runPiece s e press w p with
      | (press, w, r) =>
        match endOfRun? r with
        | some f => (w, .error f)
        | none => ((runPieces s e press w rest).1,
          (runPieces s e press w rest).2.map (⟨p, r⟩ :: ·)) := by
  rw [runPieces]
  obtain ⟨press, w, r⟩ := runPiece s e press w p
  dsimp only
  cases endOfRun? r with
  | some f => rfl
  | none =>
    obtain ⟨w, results⟩ := runPieces s e press w rest
    cases results <;> rfl

/-- A run that returns ran its first piece, which did not end it, and then the others. -/
theorem exists_of_runPieces_cons {results : List PieceResult}
    (h : runPieces s e press w (p :: pieces) = (w', .ok results)) :
    ∃ press' between r later, runPiece s e press w p = (press', between, r) ∧ endOfRun? r = none ∧
      runPieces s e press' between pieces = (w', .ok later) ∧ results = ⟨p, r⟩ :: later := by
  rw [runPieces_cons] at h
  cases hpiece : runPiece s e press w p with
  | mk press' rest =>
    obtain ⟨between, r⟩ := rest
    rw [hpiece] at h
    dsimp only at h
    split at h
    · cases h
    · next hend =>
      cases hlater : runPieces s e press' between pieces with
      | mk last outcome =>
        cases outcome with
        | error f => simp [hlater, Except.map] at h
        | ok later =>
          simp only [hlater, Except.map, Prod.mk.injEq, Except.ok.injEq] at h
          obtain ⟨rfl, rfl⟩ := h
          exact ⟨press', between, r, later, rfl, hend, hlater, rfl⟩

/-- A run in which no piece fails merged its first piece and ran the others. -/
theorem runPieces_cons_ok {text : String} (hpress : press.IsBuiltin) (htext : p.Declares e text)
    {results : List PieceResult} (h : runPieces s e press w (p :: pieces) = (w', .ok results))
    (hok : ∀ r ∈ results, r.fault? = none) :
    ∃ (between : Workspace) (outcome : MergeOutcome) (press' : Press) (rest : List PieceResult),
      s.merge w (p.artifact e text) = (between, .ok outcome) ∧ press'.IsBuiltin ∧
        runPieces s e press' between pieces = (w', .ok rest) ∧
        results = ⟨p, .ok outcome⟩ :: rest := by
  obtain ⟨press', hrun, hpress'⟩ := runPiece_eq s (w := w) hpress htext
  obtain ⟨_, _, _, rest, hpiece, -, hrest, rfl⟩ := exists_of_runPieces_cons h
  rw [hrun] at hpiece
  cases hpiece
  cases hm : (s.merge w (p.artifact e text)).2 with
  | error f =>
    have hfault := hok _ List.mem_cons_self
    simp [PieceResult.fault?, hm, Except.mapError] at hfault
  | ok outcome => exact ⟨_, outcome, press', rest, Prod.ext rfl hm, hpress', hrest, rfl⟩

/-- Over drafts no piece that declares a text fails. -/
theorem runPieces_memory_ok (hpress : press.IsBuiltin)
    (h : ∀ p ∈ pieces, ∃ text, p.Declares e text) :
    ∃ w' results, runPieces .memory e press w pieces = (w', .ok results) ∧
      ∀ r ∈ results, r.fault? = none := by
  induction pieces generalizing press w with
  | nil => exact ⟨w, [], rfl, by simp⟩
  | cons p pieces ih =>
    obtain ⟨text, htext⟩ := h p (by simp)
    obtain ⟨press', hrun, hpress'⟩ := runPiece_eq .memory (w := w) hpress htext
    have hmerge := Store.merge_of_not_isDisk (s := .memory) (w := w) (a := p.artifact e text)
      not_false rfl
    obtain ⟨w', results, hruns, hok⟩ := ih (w := (Store.memory.merge w (p.artifact e text)).1)
      hpress' fun q hq => h q (by simp [hq])
    rw [hmerge] at hrun
    let outcome := (merge (OrderedMap.get? (p.path e) w.drafts) (p.artifact e text)).2
    refine ⟨w', ⟨p, .ok outcome⟩ :: results, ?_, List.forall_mem_cons.2 ⟨rfl, hok⟩⟩
    rw [runPieces, hrun]
    simp only [Except.mapError, endOfRun?, hruns]
    rfl

end Pieces

/-- What a run without a template directory does, once its advice is known. -/
theorem generate_eq {roster : Roster} {s : Store} {w : Workspace} {r : Request} {e : Entity}
    (he : r.readEntity w.tree = .ok e) (hdir : e.settings.templateDir = .null)
    {layers : List Layer} (hlayers : roster.select r.layers = .ok layers) :
    generate roster s w r =
      match e.settings.warnings w.tree with
      | .error f => (w, .error (.advice f))
      | .ok advice =>
        match runLayers s e (.create none) w layers with
        | (w, .error f) => (w, .error (.store f))
        | (w, .ok results) =>
          (w, .ok { entity := e, layers, templates := .builtin, advice, results }) := by
  have hpress : e.settings.press w.tree = (w.tree, .ok (.create none)) := by
    rw [Settings.press, hdir]
  have hcustom : (Press.create none).shelf.hasCustom w.tree = .ok false := rfl
  rw [generate, he]
  simp only [hpress, hlayers, hcustom]
  cases e.settings.warnings w.tree with
  | error f => rfl
  | ok advice => rfl

theorem runPieces_of_generate {roster : Roster} {s : Store} {w w' : Workspace} {r : Request}
    {e : Entity} (he : r.readEntity w.tree = .ok e) (hdir : e.settings.templateDir = .null)
    {layers : List Layer} (hlayers : roster.select r.layers = .ok layers) {advice : List String}
    (hadvice : e.settings.warnings w.tree = .ok advice) {report : Report}
    (h : generate roster s w r = (w', .ok report)) :
    runPieces s e (.create none) w (layers.flatMap (Layer.pieces e)) =
      (w', .ok report.results) := by
  rw [generate_eq he hdir hlayers, hadvice, runLayers] at h
  dsimp only at h
  split at h
  · cases h
  · next results hrun =>
    cases h
    exact hrun

end GoScaffold
