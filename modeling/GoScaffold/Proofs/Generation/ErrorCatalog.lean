import GoScaffold.Proofs.Generation.Run
import GoScaffold.Proofs.Layer.ErrorCatalog
import GoScaffold.Proofs.Layer.Path
import GoScaffold.Proofs.Text.Pieces
import GoScaffold.Proofs.Workspace.Merged

/-!
# Runs that fill the catalog of domain errors

Runs of the domain layer for different entities add to one catalog of errors. The catalog gets the
errors of all of them unless a field of one spells the error by which a later one is found.
-/
namespace GoScaffold

open GoScaffold.Text GoScaffold.Naming GoScaffold.Template

/-- Does what some requests ask for, one after another. -/
def generateAll (roster : Roster) (s : Store) (w : Workspace) :
    List Request → Workspace × List (Except RunFault Report)
  | [] => (w, [])
  | r :: requests =>
    let (w, outcome) := generate roster s w r
    let (w, outcomes) := generateAll roster s w requests
    (w, outcome :: outcomes)

theorem generateAll_cons {roster : Roster} {s : Store} {w w' : Workspace} {r : Request}
    {outcome : Except RunFault Report} (h : generate roster s w r = (w', outcome))
    (requests : List Request) : generateAll roster s w (r :: requests) =
      ((generateAll roster s w' requests).1, outcome :: (generateAll roster s w' requests).2) := by
  rw [generateAll, h]

/-- The request is one for the domain layer of the entity, with validation and without a template
directory. -/
structure Request.IsDomainRun (roster : Roster) (t : Tree) (r : Request) (e : Entity) : Prop where
  fields : ∃ text, r.fields = .descriptor text
  entity : r.readEntity t = .ok e
  layers : roster.select r.layers = .ok [.domain]
  validation : e.settings.validation.truthy = true
  templates : e.settings.templateDir = .null
  advice : ∃ advice, e.settings.warnings t = .ok advice
  fileBase : e.fileBase ≠ "errors"

/-- The requests are such requests for the entities, each in the workspace that the runs before it
leave. -/
inductive AreDomainRuns (roster : Roster) (s : Store) : Workspace → List Request → List Entity → Prop
  | nil {w : Workspace} : AreDomainRuns roster s w [] []
  | cons {w : Workspace} {r : Request} {e : Entity} {requests : List Request} {es : List Entity}
    (hrun : r.IsDomainRun roster w.tree e)
    (hrest : AreDomainRuns roster s (generate roster s w r).1 requests es) :
    AreDomainRuns roster s w (r :: requests) (e :: es)

/-- The run has found the file complete. -/
def Report.Skips (report : Report) (path : String) : Prop :=
  ∃ o ∈ report.outcomes, o.path = path ∧ o.action = .skipped

theorem ofString_domain {name : String} (h : '/' ∉ name.toList) :
    Path.ofString ("internal/domain/" ++ (name ++ ".go")) =
      { segments := ["internal", "domain", name ++ ".go"] } := by
  have hslash : '/' ∉ (name ++ ".go").toList := by simp [h]
  have hpieces : splitAt '/' ("internal/domain/" ++ (name ++ ".go")) =
      ["internal", "domain", name ++ ".go"] := by
    rw [← Piece.slashed_domain]
    exact Piece.splitAt_slashed (by decide) hslash
  have hsegments : ["internal", "domain", name ++ ".go"].filter Path.isSegment =
      ["internal", "domain", name ++ ".go"] := by
    have hinternal : Path.isSegment "internal" = true := by decide
    have hdomain : Path.isSegment "domain" = true := by decide
    simp [hinternal, hdomain, Piece.isSegment_source]
  rw [Path.ofString, hpieces, hsegments, String.toList_append]
  rfl

/-- The source files of the domain stand beside the file of errors. -/
theorem areBeside_errorsPath {name : String} (h : '/' ∉ name.toList) (hne : name ≠ "errors") :
    Store.AreBeside errorsPath ("internal/domain/" ++ (name ++ ".go")) := by
  have hpath (root : Path) (name : String) (h : '/' ∉ name.toList) :
      (root / ("internal/domain/" ++ (name ++ ".go")) : Path) =
        { root with segments := (root.segments ++ ["internal", "domain"]) ++ [name ++ ".go"] } := by
    change root.append (Path.ofString _) = _
    rw [ofString_domain h]
    simp [Path.append, Path.isAbsolute]
  have herrors : errorsPath = "internal/domain/" ++ ("errors" ++ ".go") := by decide
  have hfile : "errors" ++ ".go" ≠ name ++ ".go" := fun he => hne (ending_inj.1 he).symm
  refine ⟨fun he => ?_, fun root => ?_⟩
  · rw [herrors] at he
    exact hfile (by simpa [← String.toList_inj] using he)
  · rw [herrors, hpath root "errors" (by decide), hpath root name h]
    refine ⟨rfl, by simp [Path.parent, Path.name], ?_, ?_, ?_⟩
    · simp [Path.name]
    · simpa [Path.name] using hfile
    · intro t
      have hapart : "errors" ++ ".go" ≠ t.temporaryName (name ++ ".go") :=
        Tree.append_ne_temporaryName (by decide) t _ _
      simpa [Path.name] using hapart

theorem slash_not_mem_fileBase {e : Entity} (h : e.IsDescribed) : '/' ∉ e.fileBase.toList :=
  not_mem_fileName h.name.word (by decide) (by decide) _

theorem path_entity (e : Entity) :
    Piece.path e .entity = "internal/domain/" ++ (e.fileBase ++ ".go") :=
  String.append_assoc

theorem path_samples (e : Entity) :
    Piece.path e .samples = "internal/domain/" ++ (e.fileBase ++ "_seeds" ++ ".go") := by
  change "internal/domain/" ++ e.fileBase ++ "_seeds.go" = _
  generalize e.fileBase = name
  simp [← String.toList_inj]

theorem areBeside_entity {e : Entity} (h : e.IsDescribed) (hbase : e.fileBase ≠ "errors") :
    Store.AreBeside errorsPath (Piece.path e .entity) := by
  rw [path_entity]
  exact areBeside_errorsPath (slash_not_mem_fileBase h) hbase

theorem areBeside_samples {e : Entity} (h : e.IsDescribed) :
    Store.AreBeside errorsPath (Piece.path e .samples) := by
  have hslash : '/' ∉ (e.fileBase ++ "_seeds").toList := by simp [slash_not_mem_fileBase h]
  have hname : e.fileBase ++ "_seeds" ≠ "" ++ "errors" := ne_of_endings (by decide) (by decide) _ _
  rw [path_samples]
  exact areBeside_errorsPath hslash hname

section Run

variable {roster : Roster} {s : Store} {w w' : Workspace} {r : Request} {e : Entity}
  {parts : List Entity} {report : Report}

theorem Report.success_iff : report.success = true ↔ ∀ p ∈ report.results, p.fault? = none := by
  rw [success, failures, List.isEmpty_iff, List.filterMap_eq_nil_iff]
  simp [PieceResult.failure?]

namespace Request.IsDomainRun

theorem isDescribed (h : r.IsDomainRun roster w.tree e) : e.IsDescribed := by
  obtain ⟨text, hfields⟩ := h.fields
  exact isDescribed_of_readEntity hfields h.entity

theorem pieces (h : r.IsDomainRun roster w.tree e) :
    [Layer.domain].flatMap (Layer.pieces e) = [.entity, .errors, .samples] := by
  simp [Layer.pieces, h.validation]

theorem declares (h : r.IsDomainRun roster w.tree e) (p : Piece) : ∃ text, p.Declares e text := by
  obtain ⟨advice, hadvice⟩ := h.advice
  obtain ⟨found, hmodule⟩ := moduleAdvice_of_warnings hadvice
  exact Piece.exists_declares h.isDescribed hmodule p

theorem generate_ok (h : r.IsDomainRun roster w.tree e) :
    ∃ w' report, generate roster .memory w r = (w', .ok report) ∧ report.success = true := by
  obtain ⟨advice, hadvice⟩ := h.advice
  have hdeclares : ∀ p ∈ [Layer.domain].flatMap (Layer.pieces e), ∃ text, p.Declares e text :=
    fun p _ => h.declares p
  obtain ⟨w', results, hrun, hok⟩ :=
    runPieces_memory_ok (w := w) Press.isBuiltin_create hdeclares
  let report : Report :=
    { entity := e, layers := [.domain], templates := .builtin, advice, results }
  refine ⟨w', report, ?_, Report.success_iff.2 hok⟩
  rw [generate_eq h.entity h.templates h.layers, hadvice, runLayers, hrun]

theorem runPieces_of_ok (h : r.IsDomainRun roster w.tree e)
    (hgo : generate roster s w r = (w', .ok report)) :
    runPieces s e (.create none) w [.entity, .errors, .samples] = (w', .ok report.results) := by
  obtain ⟨advice, hadvice⟩ := h.advice
  rw [← h.pieces]
  exact runPieces_of_generate h.entity h.templates h.layers hadvice hgo

/-- A run of the domain layer that goes through adds the share of its entity to the catalog, or
skips the catalog if the entity is hidden. -/
theorem generate_errors (h : r.IsDomainRun roster w.tree e)
    (htext : s.HasText w errorsPath (errorsFile? parts)) (hparts : ∀ b ∈ parts, b.IsDescribed)
    (hnew : e.name ∉ parts.map Entity.name) (hgo : generate roster s w r = (w', .ok report))
    (hok : report.success = true) :
    s.HasText w' errorsPath (errorsFile? (withErrors parts e)) ∧
      (report.Skips errorsPath ↔ ∃ b ∈ parts, b.Hides e) := by
  have hdescribed := h.isDescribed
  obtain ⟨entityText, hentity⟩ := h.declares .entity
  obtain ⟨samplesText, hsamples⟩ := h.declares .samples
  have herrors := Piece.declares_lines hdescribed (p := .errors) rfl
  have hrun := h.runPieces_of_ok hgo
  have hok := Report.success_iff.1 hok
  rw [Report.Skips, Report.outcomes]
  generalize report.results = results at hrun hok ⊢
  obtain ⟨w₁, o₁, press₁, rest₁, hm₁, hp₁, hrun₁, rfl⟩ :=
    runPieces_cons_ok Press.isBuiltin_create hentity hrun hok
  rw [List.forall_mem_cons] at hok
  obtain ⟨w₂, o₂, press₂, rest₂, hm₂, hp₂, hrun₂, rfl⟩ := runPieces_cons_ok hp₁ herrors hrun₁ hok.2
  rw [List.forall_mem_cons] at hok
  obtain ⟨w₃, o₃, press₃, rest₃, hm₃, hp₃, hrun₃, rfl⟩ :=
    runPieces_cons_ok hp₂ hsamples hrun₂ hok.2.2
  cases hrun₃
  -- the entity's own files leave the catalog alone, and the piece between them is its share
  have hbefore : s.HasText w₁ e.errorsArtifact.path (errorsFile? parts) :=
    htext.merge_beside hm₁ (areBeside_entity hdescribed h.fileBase)
  have hshare : s.merge w₁ e.errorsArtifact = (w₂, .ok o₂) := hm₂
  obtain ⟨hnext, hskipped⟩ := merge_errorsFile_new hparts hdescribed hnew
  have hlisted : ∀ b ∈ withErrors parts e, b.IsDescribed := fun b hb => by
    rcases mem_withErrors hb with hb | rfl
    · exact hparts b hb
    · exact hdescribed
  have hkeeps : ∀ next ∈ textAfter (errorsFile? parts) e.errorsArtifact, s.Keeps next := by
    rw [hnext]
    exact keeps_errorsFile hlisted s
  obtain ⟨hmiddle, ho₂⟩ := hbefore.merge hshare hkeeps
  rw [hnext] at hmiddle
  refine ⟨hmiddle.merge_beside hm₃ (areBeside_samples hdescribed), ?_⟩
  rw [← hskipped, ← ho₂]
  have hpath₁ : o₁.path ≠ errorsPath := by
    rw [Store.path_of_merge hm₁]
    exact (areBeside_entity hdescribed h.fileBase).ne.symm
  have hpath₂ : o₂.path = errorsPath := Store.path_of_merge hshare
  have hpath₃ : o₃.path ≠ errorsPath := by
    rw [Store.path_of_merge hm₃]
    exact (areBeside_samples hdescribed).ne.symm
  simp [PieceResult.outcome?, Except.toOption, hpath₁, hpath₂, hpath₃]

end Request.IsDomainRun

end Run

section Runs

variable {roster : Roster} {s : Store} {w : Workspace} {requests : List Request}
  {es parts : List Entity}

theorem AreDomainRuns.isDescribed (h : AreDomainRuns roster s w requests es) :
    ∀ e ∈ es, e.IsDescribed := by
  induction h with
  | nil => simp
  | cons hrun _ ih => exact List.forall_mem_cons.2 ⟨hrun.isDescribed, ih⟩

/-- The catalog that runs leave, and when none of them skips it. -/
theorem AreDomainRuns.fill (h : AreDomainRuns roster s w requests es)
    (hparts : ∀ b ∈ parts, b.IsDescribed) (hnames : ((parts ++ es).map Entity.name).Nodup)
    (htext : s.HasText w errorsPath (errorsFile? parts))
    (hgo : s ≠ .memory → ∀ o ∈ (generateAll roster s w requests).2,
      ∃ report, o = .ok report ∧ report.success = true) :
    (∀ o ∈ (generateAll roster s w requests).2,
      ∃ report, o = .ok report ∧ report.success = true) ∧
    s.HasText (generateAll roster s w requests).1 errorsPath
      (errorsFile? (es.foldl withErrors parts)) ∧
    ((∀ report, .ok report ∈ (generateAll roster s w requests).2 → ¬ report.Skips errorsPath) ↔
      ∀ e ∈ es, e ∈ es.foldl withErrors parts) := by
  induction h generalizing parts with
  | nil => exact ⟨by simp [generateAll], htext, by simp [generateAll]⟩
  | @cons w r e requests es hrun hrest ih =>
    have hnodup : (parts ++ e :: es).Nodup := hnames.of_map _
    have hnew : e.name ∉ parts.map Entity.name := by
      rw [List.map_append, List.map_cons] at hnames
      exact fun hmem => (List.nodup_append.1 hnames).2.2 _ hmem _ (by simp) rfl
    obtain ⟨report, hreport, hok⟩ : ∃ report,
        (generate roster s w r).2 = .ok report ∧ report.success = true := by
      by_cases hs : s = .memory
      · subst hs
        obtain ⟨w', report, hgen, hok⟩ := hrun.generate_ok
        exact ⟨report, congrArg (·.2) hgen, hok⟩
      · exact hgo hs _ (List.mem_cons_self ..)
    obtain ⟨hnext, hskips⟩ :=
      hrun.generate_errors htext hparts hnew (Prod.ext rfl hreport) hok
    have hlisted : ∀ b ∈ withErrors parts e, b.IsDescribed := fun b hb => by
      rcases mem_withErrors hb with hb | rfl
      · exact hparts b hb
      · exact hrun.isDescribed
    have hlater : ((withErrors parts e ++ es).map Entity.name).Nodup :=
      hnames.sublist (withErrors_sublist.map _)
    obtain ⟨hall, htext', hnone⟩ := ih hlisted hlater hnext fun hs o ho =>
      hgo hs o (List.mem_cons_of_mem _ ho)
    refine ⟨List.forall_mem_cons.2 ⟨⟨report, hreport, hok⟩, hall⟩, htext', ?_⟩
    rw [List.forall_mem_cons, mem_foldl_cons_iff hnodup, ← hskips, List.foldl_cons, ← hnone]
    simp only [generateAll, List.mem_cons, hreport, Except.ok.injEq]
    refine ⟨fun hno => ⟨hno report (Or.inl rfl), fun other ho => hno other (Or.inr ho)⟩, ?_⟩
    rintro ⟨hfirst, hothers⟩ other (rfl | ho)
    · exact hfirst
    · exact hothers other ho

/-- Runs of the domain layer for entities of different names, with validation and the built-in
templates, in a store where the catalog of domain errors is not there. All of them succeed. None
skips the catalog, and the catalog has the errors of every entity in the end, if and only if no
entity has a field that spells the error for an invalid record of a later one. In a store on disk
or over one, as long as every run succeeds. -/
theorem generateAll_errors (h : AreDomainRuns roster s w requests es)
    (hnames : (es.map Entity.name).Nodup) (hstart : s.HasText w errorsPath none)
    (hgo : s ≠ .memory → ∀ o ∈ (generateAll roster s w requests).2,
      ∃ report, o = .ok report ∧ report.success = true) :
    (∀ o ∈ (generateAll roster s w requests).2,
      ∃ report, o = .ok report ∧ report.success = true) ∧
    ((∀ report, .ok report ∈ (generateAll roster s w requests).2 → ¬ report.Skips errorsPath) ↔
      es.Pairwise fun e e' => ¬ e.Hides e') ∧
    ((∀ e ∈ es, ∃ text, s.read (generateAll roster s w requests).1 errorsPath = .ok (some text) ∧
        contains text e.errorsBlock = true) ↔
      es.Pairwise fun e e' => ¬ e.Hides e') := by
  have hnone : ∀ b ∈ ([] : List Entity), b.IsDescribed := by simp
  have hnodup : ([] ++ es).Nodup := hnames.of_map _
  obtain ⟨hall, htext, hskips⟩ := h.fill hnone hnames hstart hgo
  have hpairwise := forall_mem_foldl_iff hnodup
  simp only [List.not_mem_nil, false_implies, implies_true, and_true] at hpairwise
  refine ⟨hall, hskips.trans hpairwise, ?_⟩
  rw [← contains_all_iff h.isDescribed hnames]
  refine forall₂_congr fun e _ => exists_congr fun text => and_congr_left fun _ => ?_
  refine ⟨fun hread => (htext.read_eq hread).symm, fun hfile => ?_⟩
  rw [hfile] at htext
  exact htext

end Runs

def domainRequest (name descriptor : String) : Request where
  entity := name
  fields := .descriptor (some descriptor)
  settings := .given { validation := .bool true }
  layers := ["domain"]

theorem isDomainRun_domainRequest {name descriptor : String} {e : Entity}
    (h : (domainRequest name descriptor).readEntity {} = .ok e) (hbase : e.fileBase ≠ "errors")
    (t : Tree) : (domainRequest name descriptor).IsDomainRun .builtin t e := by
  have hsettings : e.settings = { validation := .bool true } := settings_of_readEntity rfl h
  refine ⟨⟨_, rfl⟩, h, rfl, by rw [hsettings]; rfl, by rw [hsettings], ⟨[], ?_⟩, hbase⟩
  rw [hsettings]
  rfl

/-- The item data of an order are found in place of the data of an order item. -/
theorem generateAll_errors_orderItem : ∃ es : List Entity,
    es.map Entity.name = ["Order", "OrderItem"] ∧
    let runs := generateAll .builtin .memory {} [
      domainRequest "Order" "item_data:string", domainRequest "OrderItem" "name:string"]
    ¬ (∀ report, .ok report ∈ runs.2 → ¬ report.Skips errorsPath) ∧
    ¬ ∀ e ∈ es, ∃ text, Store.memory.read runs.1 errorsPath = .ok (some text) ∧
      contains text e.errorsBlock = true := by
  have hread : ∃ e, (domainRequest "Order" "item_data:string").readEntity {} = .ok e ∧
      (e.name == "Order" && e.fileBase != "errors" &&
        e.userMembers.any (·.name == "ItemData")) = true :=
    exists_of_toOption_any (by decide +kernel)
  have hread' : ∃ e, (domainRequest "OrderItem" "name:string").readEntity {} = .ok e ∧
      (e.name == "OrderItem" && e.fileBase != "errors") = true :=
    exists_of_toOption_any (by decide +kernel)
  obtain ⟨e, he, hfacts⟩ := hread
  obtain ⟨e', he', hfacts'⟩ := hread'
  simp only [Bool.and_eq_true, beq_iff_eq, bne_iff_ne, List.any_eq_true] at hfacts hfacts'
  obtain ⟨⟨hname, hbase⟩, m, hm, hfield⟩ := hfacts
  have hhides : e.Hides e' := ⟨m, hm, by rw [hname, hfield, hfacts'.1]; decide⟩
  have hnot : ¬ [e, e'].Pairwise fun e e' => ¬ e.Hides e' := by simp [hhides]
  have hnames : ([e, e'].map Entity.name).Nodup := by simp [hname, hfacts'.1]
  obtain ⟨-, hskips, hblocks⟩ := generateAll_errors (s := .memory) (w := {})
    (.cons (isDomainRun_domainRequest he hbase _)
      (.cons (isDomainRun_domainRequest he' hfacts'.2 _) .nil)) hnames rfl
    fun hs => absurd rfl hs
  exact ⟨[e, e'], by simp [hname, hfacts'.1], mt hskips.1 hnot, mt hblocks.1 hnot⟩

end GoScaffold
