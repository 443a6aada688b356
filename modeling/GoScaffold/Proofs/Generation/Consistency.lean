import GoScaffold.Proofs.Generation.Drafts
import GoScaffold.Proofs.Generation.ErrorCatalog
import GoScaffold.Proofs.Layer.Implementation
import GoScaffold.Proofs.Layer.Path
import GoScaffold.Proofs.Layer.Validation

/-!
# Consistent files after several runs

Runs of all layers, in which an entity may come again with other fields and other settings. The
entity's own files are those of its last run, while its shares of the catalogs are those of its
first. The files agree as far as the two versions of the entity do.
-/
namespace GoScaffold

open GoScaffold.Text GoScaffold.Naming GoScaffold.Template

/-- The request is one for all layers of the entity, with validation and without a template
directory. The entity has a file of its own: `get?_errorsPath_of_errors` is about one that has not. -/
structure Request.IsFeatureRun (r : Request) (t : Tree) (e : Entity) : Prop where
  layers : r.layers = []
  entity : r.readEntity t = .ok e
  described : e.IsDescribed
  validation : e.settings.validation.truthy = true
  templates : e.settings.templateDir = .null
  fileBase : e.fileBase ≠ "errors"

/-- The name of the module has no white space. What one with line breaks can do is shown in
`generate_product_spelled`. -/
def Entity.HasPlainModule (e : Entity) : Prop :=
  ∀ c ∈ e.settings.moduleName.text.toList, isBlank c = false

/-- Runs for some entities, one after another, lead from no drafts to these. -/
inductive FeatureRuns : List Entity → Workspace → Prop
  | start (t : Tree) : FeatureRuns [] { tree := t }
  | step {es : List Entity} {w w' : Workspace} {r : Request} {e : Entity} {report : Report}
    (hruns : FeatureRuns es w) (hrun : r.IsFeatureRun w.tree e) (hmodule : e.HasPlainModule)
    (hgo : generate .builtin .memory w r = (w', .ok report)) : FeatureRuns (es ++ [e]) w'

section Run

variable {w w' : Workspace} {r : Request} {e : Entity} {report : Report}

namespace Request.IsFeatureRun

theorem mem_pieces (h : r.IsFeatureRun w.tree e) :
    ∀ p ∈ [Piece.entity, .errors, .repositoryInterface, .repositoryImplementation],
      p ∈ Layer.all.flatMap (Layer.pieces e) := by
  simp only [Layer.all, List.flatMap_cons, List.flatMap_nil, Layer.pieces, h.validation, if_true]
  decide

theorem select (h : r.IsFeatureRun w.tree e) : Roster.builtin.select r.layers = .ok Layer.all := by
  rw [h.layers]
  rfl

theorem generate_ok (h : r.IsFeatureRun w.tree e) {advice : List String}
    (hadvice : e.settings.warnings w.tree = .ok advice) :
    ∃ w' report, generate .builtin .memory w r = (w', .ok report) ∧ report.success = true := by
  obtain ⟨found, hmodule⟩ := moduleAdvice_of_warnings hadvice
  have hdeclares : ∀ p ∈ Layer.all.flatMap (Layer.pieces e), ∃ text, p.Declares e text :=
    fun p _ => Piece.exists_declares h.described hmodule p
  obtain ⟨w', results, hrun, hok⟩ :=
    runPieces_memory_ok (w := w) Press.isBuiltin_create hdeclares
  let report : Report :=
    { entity := e, layers := Layer.all, templates := .builtin, advice, results }
  refine ⟨w', report, ?_, Report.success_iff.2 hok⟩
  rw [generate_eq h.entity h.templates h.select, hadvice, runLayers, hrun]

theorem drafts (h : r.IsFeatureRun w.tree e)
    (hgo : generate .builtin .memory w r = (w', .ok report)) :
    ∀ p ∈ Layer.all.flatMap (Layer.pieces e), ∀ text, p.Declares e text →
      OrderedMap.get? (p.path e) w'.drafts =
        textAfter (OrderedMap.get? (p.path e) w.drafts) (p.artifact e text) := by
  have hlayers := h.select
  cases hadvice : e.settings.warnings w.tree with
  | error f =>
    rw [generate_eq h.entity h.templates hlayers, hadvice] at hgo
    cases hgo
  | ok advice =>
    obtain ⟨found, hmodule⟩ := moduleAdvice_of_warnings hadvice
    obtain ⟨w'', results, hrun, -, -, hdrafts, -⟩ := runPieces_drafts (w := w)
      Press.isBuiltin_create (fun p _ => Piece.exists_declares h.described hmodule p)
      (Piece.nodup_paths h.fileBase)
    have hsame := runPieces_of_generate h.entity h.templates hlayers hadvice hgo
    rw [hrun] at hsame
    cases hsame
    exact hdrafts

section Drafts

variable (h : r.IsFeatureRun w.tree e) (hgo : generate .builtin .memory w r = (w', .ok report))

include h hgo

theorem entityDraft :
    OrderedMap.get? (Piece.entity.path e) w'.drafts = some (textOf e.entityLines) := by
  rw [h.drafts hgo .entity (h.mem_pieces _ (by simp)) _ (Piece.declares_entity e)]
  exact textAfter_of_not_mergeable rfl _

theorem implementationDraft :
    OrderedMap.get? (Piece.repositoryImplementation.path e) w'.drafts =
      some (textOf e.implementationLines) := by
  rw [h.drafts hgo .repositoryImplementation (h.mem_pieces _ (by simp)) _
    (Entity.declares_implementation e)]
  exact textAfter_of_not_mergeable rfl _

theorem errorsDraft : OrderedMap.get? errorsPath w'.drafts =
    textAfter (OrderedMap.get? errorsPath w.drafts) e.errorsArtifact :=
  h.drafts hgo .errors (h.mem_pieces _ (by simp)) _ (Piece.declares_lines h.described rfl)

theorem interfacesDraft : OrderedMap.get? interfacesPath w'.drafts =
    textAfter (OrderedMap.get? interfacesPath w.drafts) e.interfaceShare :=
  h.drafts hgo .repositoryInterface (h.mem_pieces _ (by simp)) _
    (Piece.declares_lines h.described rfl)

end Drafts

end Request.IsFeatureRun

/-- The pieces of all layers but the entity and the errors. -/
def Piece.others : List Piece := [.samples, .dto, .repositoryInterface, .repositoryImplementation,
  .handler, .errorMessages, .responseMessages, .constants]

theorem Piece.others_apart (e : Entity) :
    (others.map (path e)).Nodup ∧ errorsPath ∉ others.map (path e) := by
  have hall : others.Nodup ∧ .errors ∉ others ∧ ∀ p ∈ others, p ≠ .entity := by decide
  refine ⟨List.Nodup.map_on (fun p hp q hq hpath => ?_) hall.1, fun hmem => ?_⟩
  · exact path_injective_of_ne (hall.2.2 p hp) (hall.2.2 q hq) hpath
  · obtain ⟨p, hp, hpath⟩ := List.mem_map.1 hmem
    have herrors : p = .errors := path_injective_of_ne (hall.2.2 p hp) (by decide) hpath
    exact hall.2.1 (herrors ▸ hp)

/-- An entity whose own file is named like the catalog of errors takes the place of it: of what the
catalog held, nothing is left. -/
theorem get?_errorsPath_of_errors (hentity : r.readEntity w.tree = .ok e) (hdescribed : e.IsDescribed)
    (hlayers : r.layers = []) (hvalidation : e.settings.validation.truthy = true)
    (htemplates : e.settings.templateDir = .null) (hbase : e.fileBase = "errors")
    (hgo : generate .builtin .memory w r = (w', .ok report)) :
    OrderedMap.get? errorsPath w'.drafts =
      textAfter (some (textOf e.entityLines)) e.errorsArtifact := by
  have hselect : Roster.builtin.select r.layers = .ok Layer.all := hlayers ▸ rfl
  have hpieces : Layer.all.flatMap (Layer.pieces e) = .entity :: .errors :: Piece.others := by
    simp [Layer.all, Layer.pieces, hvalidation, Piece.others]
  obtain ⟨hothers, hapart⟩ := Piece.others_apart e
  have hpath : Piece.path e .entity = errorsPath := by
    rw [path_entity, hbase]
    decide
  cases hadvice : e.settings.warnings w.tree with
  | error f =>
    rw [generate_eq hentity htemplates hselect, hadvice] at hgo
    cases hgo
  | ok advice =>
    obtain ⟨found, hmodule⟩ := moduleAdvice_of_warnings hadvice
    have hrun := runPieces_of_generate hentity htemplates hselect hadvice hgo
    let own := Piece.artifact e .entity (textOf e.entityLines)
    obtain ⟨press₁, hrun₁, hpress₁⟩ :=
      runPiece_memory (w := w) Press.isBuiltin_create (Piece.declares_entity e)
    obtain ⟨press₂, hrun₂, hpress₂⟩ := runPiece_memory (w := w.afterMerge own) hpress₁
      (Piece.declares_lines hdescribed (p := .errors) rfl)
    obtain ⟨w₂, results, hruns, -, -, -, hframe⟩ :=
      runPieces_drafts (w := (w.afterMerge own).afterMerge e.errorsArtifact) hpress₂
        (fun p (_ : p ∈ Piece.others) => Piece.exists_declares hdescribed hmodule p) hothers
    have hw : w₂ = w' := by
      rw [hpieces, runPieces_cons, hrun₁] at hrun
      dsimp only [endOfRun?] at hrun
      rw [runPieces_cons, hrun₂] at hrun
      exact (congrArg Prod.fst hruns).symm.trans (congrArg Prod.fst hrun)
    have hown : OrderedMap.get? errorsPath (w.afterMerge own).drafts =
        some (textOf e.entityLines) := by
      rw [Workspace.get?_afterMerge, ← hpath]
      exact (if_pos rfl).trans (textAfter_of_not_mergeable rfl _)
    rw [← hw, hframe _ hapart, Workspace.get?_afterMerge]
    exact (if_pos rfl).trans (congrArg (textAfter · _) hown)

end Run

section Runs

variable {es : List Entity} {w : Workspace}

/-- No entity hides the errors of one with another name. -/
def NoneHidden (es : List Entity) : Prop := ∀ b ∈ es, ∀ e ∈ es, b.Hides e → b.name = e.name

/-- The catalogs have the shares with which the entities first came. -/
theorem FeatureRuns.catalogs (h : FeatureRuns es w) (hhidden : NoneHidden es) :
    (∀ e ∈ es, e.IsDescribed) ∧
      OrderedMap.get? errorsPath w.drafts = errorsFile? (firsts es) ∧
      HasInterfaces (firsts es) (OrderedMap.get? interfacesPath w.drafts) := by
  induction h with
  | start t => exact ⟨by simp, rfl, rfl⟩
  | @step es w w' r e report hruns hrun hmodule hgo ih =>
    obtain ⟨hes, herrors, hinterfaces⟩ := ih fun b hb c hc =>
      hhidden b (List.mem_append_left _ hb) c (List.mem_append_left _ hc)
    have hfirsts : ∀ b ∈ firsts es, b.IsDescribed := fun b hb => hes b (mem_of_mem_firsts hb)
    have hnone : ∀ b ∈ firsts es, b.Hides e → b.name = e.name := fun b hb =>
      hhidden b (List.mem_append_left _ (mem_of_mem_firsts hb)) e (by simp)
    refine ⟨?_, ?_, ?_⟩
    · rw [List.forall_mem_append]
      exact ⟨hes, by simpa using hrun.described⟩
    · rw [hrun.errorsDraft hgo, herrors, textAfter_errorsFile hfirsts hrun.described hnone,
        firsts_concat]
    · rw [hrun.interfacesDraft hgo, firsts_concat]
      exact hinterfaces.merge hfirsts hrun.described hmodule

/-- What the files of the last entity say after runs: its own files follow the last run, and its
shares the first. -/
theorem FeatureRuns.names {r : Request} {e : Entity} {w' : Workspace} {report : Report}
    (h : FeatureRuns es w) (hrun : r.IsFeatureRun w.tree e) (hmodule : e.HasPlainModule)
    (hgo : generate .builtin .memory w r = (w', .ok report)) (hhidden : NoneHidden (es ++ [e])) :
    ∃ domain errors interfaces implementation : String,
      Store.memory.read w' (Piece.entity.path e) = .ok (some domain) ∧
      Store.memory.read w' errorsPath = .ok (some errors) ∧
      Store.memory.read w' interfacesPath = .ok (some interfaces) ∧
      Store.memory.read w' (Piece.repositoryImplementation.path e) = .ok (some implementation) ∧
      returnedErrors domain = e.checkedMembers.map e.fieldError ∧
      declaredNames errors =
        (firsts (es ++ [e])).flatMap (fun b => b.domainErrors.map (·.1)) ∧
      (∀ b ∈ firsts (es ++ [e]), b.name = e.name →
        listedMethods e.interfaceName interfaces = b.repositoryMethods.map Method.name) ∧
      definedMethods e.repositoryType implementation = e.repositoryMethods.map Method.name := by
  obtain ⟨hes, herrors, hinterfaces⟩ := (FeatureRuns.step h hrun hmodule hgo).catalogs hhidden
  have hfirsts : ∀ b ∈ firsts (es ++ [e]), b.IsDescribed := fun b hb => hes b (mem_of_mem_firsts hb)
  have hne : firsts (es ++ [e]) ≠ [] := by
    rw [firsts_concat]
    exact withFirst_ne_nil _ _
  obtain ⟨errors, herrorsText⟩ : ∃ text, errorsFile? (firsts (es ++ [e])) = some text :=
    ⟨_, if_neg (by simpa using hne)⟩
  rw [HasInterfaces, if_neg hne] at hinterfaces
  obtain ⟨head, hhead, hinterfacesText⟩ := hinterfaces
  have himports : ∀ i ∈ e.implementationImports, Lacks ['\n'] i := by
    have hspacing : ∀ i ∈ e.implementationImports, Lacks spacing i := by
      simp only [Entity.implementationImports, List.forall_mem_append, List.forall_mem_cons]
      exact ⟨lacks_importsOf _, lacks_domainImport hmodule, by decide, by simp⟩
    exact fun i hi c hc => hspacing i hi c (List.mem_append_left ['\r', ' '] hc)
  refine ⟨_, errors, _, _, congrArg Except.ok (hrun.entityDraft hgo),
    congrArg Except.ok (herrors.trans herrorsText), congrArg Except.ok hinterfacesText,
    congrArg Except.ok (hrun.implementationDraft hgo), ?_, ?_, fun b hb hname => ?_, ?_⟩
  · exact Entity.returnedErrors_entityLines hrun.described (isTagged_of_readEntity hrun.entity)
      hrun.validation
  · exact declaredNames_errorsFile hfirsts herrorsText
  · have hinterface : e.interfaceName = b.interfaceName := by
      rw [Entity.interfaceName, Entity.interfaceName, hname]
    rw [hinterface]
    exact listedMethods_textUnder hfirsts (nodup_firsts _) (fun i hi => hhead i hi '\n' (by decide)) hb
  · exact Entity.definedMethods_implementation hrun.described himports

/-- Runs of all layers from no drafts, with validation, built-in templates and a module name without
white space, where an entity may come again with other fields and settings, and none hides the
errors of another. After each run the file of the entity returns only errors that are declared if
and only if for every field that it checks some entity declared the error when it first came; and
the interface lists only methods that the implementation has if and only if the entity still has
every method that it had when it first came. -/
theorem FeatureRuns.consistent_iff {r : Request} {e : Entity} {w' : Workspace} {report : Report}
    (h : FeatureRuns es w) (hrun : r.IsFeatureRun w.tree e) (hmodule : e.HasPlainModule)
    (hgo : generate .builtin .memory w r = (w', .ok report)) (hhidden : NoneHidden (es ++ [e])) :
    ∃ domain errors interfaces implementation : String,
      Store.memory.read w' (Piece.entity.path e) = .ok (some domain) ∧
      Store.memory.read w' errorsPath = .ok (some errors) ∧
      Store.memory.read w' interfacesPath = .ok (some interfaces) ∧
      Store.memory.read w' (Piece.repositoryImplementation.path e) = .ok (some implementation) ∧
      ((∀ x ∈ returnedErrors domain, x ∈ declaredNames errors) ↔
        ∀ m ∈ e.checkedMembers, ∃ b ∈ firsts (es ++ [e]),
          e.fieldError m ∈ b.domainErrors.map (·.1)) ∧
      ((∀ x ∈ listedMethods e.interfaceName interfaces,
          x ∈ definedMethods e.repositoryType implementation) ↔
        ∀ b ∈ firsts (es ++ [e]), b.name = e.name →
          ∀ x ∈ b.repositoryMethods.map Method.name, x ∈ e.repositoryMethods.map Method.name) := by
  obtain ⟨domain, errors, interfaces, implementation, hdomain, herrors, hinterfaces,
    himplementation, hreturned, hdeclared, hlisted, hdefined⟩ := h.names hrun hmodule hgo hhidden
  refine ⟨domain, errors, interfaces, implementation, hdomain, herrors, hinterfaces,
    himplementation, ?_, ?_⟩
  · rw [hreturned, hdeclared, List.forall_mem_map]
    simp only [List.mem_flatMap]
  · obtain ⟨b, hb, hname⟩ := exists_mem_withFirst (firsts es) e
    rw [← firsts_concat] at hb
    rw [hdefined, hlisted b hb hname]
    refine ⟨fun hall c hc hsame => ?_, fun hall => hall b hb hname⟩
    rwa [List.inj_on_of_nodup_map (nodup_firsts _) hc hb (hsame.trans hname.symm)]

end Runs

def featureRequest (descriptor : String) (s : Settings) : Request where
  entity := "Product"
  fields := .descriptor (some descriptor)
  settings := .given { s with validation := .bool true }

section Requests

variable {descriptor : String} {s : Settings} {e : Entity}

theorem isFeatureRun_featureRequest (h : (featureRequest descriptor s).readEntity {} = .ok e)
    (htemplates : s.templateDir = .null) (hbase : e.fileBase = "product") (t : Tree) :
    (featureRequest descriptor s).IsFeatureRun t e := by
  have hsettings : e.settings = { s with validation := .bool true } := settings_of_readEntity rfl h
  refine ⟨rfl, h, isDescribed_of_readEntity rfl h, by rw [hsettings]; rfl, ?_, by simp [hbase]⟩
  rw [hsettings]
  exact htemplates

theorem hasPlainModule_featureRequest (h : (featureRequest descriptor s).readEntity {} = .ok e)
    (hmodule : s.moduleName = .str defaultModule) : e.HasPlainModule := by
  have hplain : defaultModule.toList.all (fun c => !isBlank c) = true := by decide
  have hsettings : e.settings = { s with validation := .bool true } := settings_of_readEntity rfl h
  intro c hc
  rw [hsettings] at hc
  rw [hmodule] at hc
  simpa using List.all_eq_true.1 hplain c hc

theorem generate_featureRequest (h : (featureRequest descriptor s).readEntity {} = .ok e)
    (htemplates : s.templateDir = .null) (hbase : e.fileBase = "product") {w : Workspace}
    {advice : List String}
    (hadvice : Settings.warnings w.tree { s with validation := .bool true } = .ok advice) :
    ∃ w' report, generate .builtin .memory w (featureRequest descriptor s) = (w', .ok report) ∧
      report.success = true := by
  have hsettings : e.settings = { s with validation := .bool true } := settings_of_readEntity rfl h
  exact (isFeatureRun_featureRequest h htemplates hbase w.tree).generate_ok (hsettings ▸ hadvice)

theorem noneHidden_of_names {es : List Entity} (name : String) (h : ∀ e ∈ es, e.name = name) :
    NoneHidden es := fun b hb e he _ => (h b hb).trans (h e he).symm

end Requests

/-- A product in the default module, with settings that can be judged. -/
structure Entity.IsProductOf (e : Entity) (descriptor : String) (s : Settings) : Prop where
  entity : (featureRequest descriptor s).readEntity {} = .ok e
  name : e.name = "Product"
  fileBase : e.fileBase = "product"
  templates : s.templateDir = .null
  defaultModule : s.moduleName = .str defaultModule
  database : s.database = .str "postgres"
  judged : ∀ t, ∃ advice, Settings.warnings t { s with validation := .bool true } = .ok advice

section Products

variable {descriptor descriptor' : String} {s s' : Settings} {e e' : Entity}

theorem Entity.IsProductOf.names (h : e.IsProductOf descriptor s) :
    e.interfaceName = "ProductRepository" ∧ e.repositoryType = "postgresProductRepository" ∧
      Piece.entity.path e = "internal/domain/product.go" ∧
      Piece.repositoryImplementation.path e =
        "internal/repository/postgres_product_repository.go" := by
  have hsettings : e.settings = { s with validation := .bool true } :=
    settings_of_readEntity rfl h.entity
  have hdatabase : e.settings.database.text = "postgres" := by
    rw [hsettings, h.database]
    rfl
  simp only [interfaceName, repositoryType, Piece.path_eq, Piece.sourceFile, Piece.baseName, h.name,
    h.fileBase, hdatabase]
  decide

/-- Both runs for a product go through, and the second is one as the theorems ask for. -/
theorem exists_product_runs (h : e.IsProductOf descriptor s) (h' : e'.IsProductOf descriptor' s') :
    ∃ w w' report report',
      generate .builtin .memory {} (featureRequest descriptor s) = (w, .ok report) ∧
      generate .builtin .memory w (featureRequest descriptor' s') = (w', .ok report') ∧
      report.success = true ∧ report'.success = true ∧ FeatureRuns [e] w ∧
      (featureRequest descriptor' s').IsFeatureRun w.tree e' ∧ e'.HasPlainModule ∧
      NoneHidden ([e] ++ [e']) ∧ firsts ([e] ++ [e']) = [e] := by
  obtain ⟨advice, hadvice⟩ := h.judged {}
  obtain ⟨w, report, hgo, hok⟩ :=
    generate_featureRequest (w := {}) h.entity h.templates h.fileBase hadvice
  obtain ⟨advice', hadvice'⟩ := h'.judged w.tree
  obtain ⟨w', report', hgo', hok'⟩ :=
    generate_featureRequest (w := w) h'.entity h'.templates h'.fileBase hadvice'
  have hruns : FeatureRuns [e] w :=
    .step (.start {}) (isFeatureRun_featureRequest h.entity h.templates h.fileBase _)
      (hasPlainModule_featureRequest h.entity h.defaultModule) hgo
  refine ⟨w, w', report, report', hgo, hgo', hok, hok', hruns,
    isFeatureRun_featureRequest h'.entity h'.templates h'.fileBase _,
    hasPlainModule_featureRequest h'.entity h'.defaultModule,
    noneHidden_of_names "Product" (by simp [h.name, h'.name]), ?_⟩
  simp [firsts, withFirst, h.name, h'.name]

theorem exists_productOf (descriptor : String) (s : Settings) (p : Entity → Bool)
    (h : ((featureRequest descriptor s).readEntity {}).toOption.any
      (fun e => e.name == "Product" && e.fileBase == "product" && p e) = true)
    (htemplates : s.templateDir = .null) (hmodule : s.moduleName = .str defaultModule)
    (hdatabase : s.database = .str "postgres")
    (hjudged : ∀ t, ∃ advice, Settings.warnings t { s with validation := .bool true } = .ok advice) :
    ∃ e : Entity, e.IsProductOf descriptor s ∧ p e = true := by
  obtain ⟨e, he, hfacts⟩ := exists_of_toOption_any h
  simp only [Bool.and_eq_true, beq_iff_eq] at hfacts
  exact ⟨e, ⟨he, hfacts.1.1, hfacts.1.2, htemplates, hmodule, hdatabase, hjudged⟩, hfacts.2⟩

end Products

/-- A product that comes again with its fields in another order and with other switches stays
consistent. -/
theorem consistent_product_switches : ∃ w w' report report',
    generate .builtin .memory {} (featureRequest "name:string,price:float64" {}) =
      (w, .ok report) ∧
    generate .builtin .memory w (featureRequest "price:float64,name:string"
      { timestamps := .bool true, softDelete := .bool true, transactions := .bool true }) =
        (w', .ok report') ∧
    ∃ domain errors interfaces implementation : String,
      Store.memory.read w' "internal/domain/product.go" = .ok (some domain) ∧
      Store.memory.read w' "internal/domain/errors.go" = .ok (some errors) ∧
      Store.memory.read w' "internal/repository/interfaces.go" = .ok (some interfaces) ∧
      Store.memory.read w' "internal/repository/postgres_product_repository.go" =
        .ok (some implementation) ∧
      (∀ x ∈ returnedErrors domain, x ∈ declaredNames errors) ∧
      ∀ x ∈ listedMethods "ProductRepository" interfaces,
        x ∈ definedMethods "postgresProductRepository" implementation := by
  let methods := ["Save", "FindByID", "FindByName", "Update", "Delete", "FindAll"]
  let checks := ["ErrInvalidProductPrice", "ErrInvalidProductName"]
  obtain ⟨e, he, hfacts⟩ := exists_productOf "name:string,price:float64" {}
    (fun e => checks.all (e.domainErrors.map (·.1)).contains &&
      e.repositoryMethods.map Method.name == methods) (by decide +kernel) rfl rfl rfl fun _ => ⟨_, rfl⟩
  obtain ⟨e', he', hfacts'⟩ := exists_productOf "price:float64,name:string"
    { timestamps := .bool true, softDelete := .bool true, transactions := .bool true }
    (fun e => e.checkedMembers.map e.fieldError == checks &&
      methods.all (e.repositoryMethods.map Method.name).contains) (by decide +kernel) rfl rfl rfl
      fun _ => ⟨_, rfl⟩
  simp only [Bool.and_eq_true, beq_iff_eq, List.contains_eq_mem, List.all_eq_true,
    decide_eq_true_eq] at hfacts hfacts'
  obtain ⟨hdeclared, hmethods⟩ := hfacts
  obtain ⟨hchecked, hmethods'⟩ := hfacts'
  obtain ⟨w, w', report, report', hgo, hgo', -, -, hruns, hrun, hmodule, hhidden, hfirsts⟩ :=
    exists_product_runs he he'
  obtain ⟨hinterface, htype, hpath, hpath'⟩ := he'.names
  obtain ⟨domain, errors, interfaces, implementation, hdomain, herrors, hinterfaces,
    himplementation, hreturned, hlisted⟩ := FeatureRuns.consistent_iff hruns hrun hmodule hgo' hhidden
  rw [hfirsts] at hreturned hlisted
  rw [hpath] at hdomain
  rw [hpath'] at himplementation
  rw [hinterface, htype] at hlisted
  refine ⟨w, w', report, report', hgo, hgo', domain, errors, interfaces, implementation, hdomain,
    herrors, hinterfaces, himplementation, hreturned.2 fun m hm => ⟨e, by simp, ?_⟩,
    hlisted.2 fun b hb _ x hx => ?_⟩
  · exact hdeclared _ (hchecked ▸ List.mem_map_of_mem hm)
  · rw [List.mem_singleton.1 hb, hmethods] at hx
    exact hmethods' x hx

/-- A product with a name that comes again with an email address instead: its error for the address
is not declared, and its implementation lacks the search by name that the interface lists. -/
theorem generateAll_product_email :
    let runs := generateAll .builtin .memory {}
      [featureRequest "name:string" {}, featureRequest "email:string" {}]
    (∀ o ∈ runs.2, ∃ report, o = .ok report ∧ report.success = true) ∧
    ∃ domain errors interfaces implementation : String,
      Store.memory.read runs.1 "internal/domain/product.go" = .ok (some domain) ∧
      Store.memory.read runs.1 "internal/domain/errors.go" = .ok (some errors) ∧
      Store.memory.read runs.1 "internal/repository/interfaces.go" = .ok (some interfaces) ∧
      Store.memory.read runs.1 "internal/repository/postgres_product_repository.go" =
        .ok (some implementation) ∧
      "ErrInvalidProductEmail" ∈ returnedErrors domain ∧
      "ErrInvalidProductEmail" ∉ declaredNames errors ∧
      "FindByName" ∈ listedMethods "ProductRepository" interfaces ∧
      "FindByName" ∉ definedMethods "postgresProductRepository" implementation := by
  obtain ⟨e, he, hfacts⟩ := exists_productOf "name:string" {}
    (fun e => !(e.domainErrors.map (·.1)).contains "ErrInvalidProductEmail" &&
      (e.repositoryMethods.map Method.name).contains "FindByName") (by decide +kernel) rfl rfl rfl
      fun _ => ⟨_, rfl⟩
  obtain ⟨e', he', hfacts'⟩ := exists_productOf "email:string" {}
    (fun e => (e.checkedMembers.map e.fieldError).contains "ErrInvalidProductEmail" &&
      !(e.repositoryMethods.map Method.name).contains "FindByName") (by decide +kernel) rfl rfl rfl
      fun _ => ⟨_, rfl⟩
  simp only [Bool.and_eq_true, Bool.not_eq_true', List.contains_eq_mem, decide_eq_true_eq,
    decide_eq_false_iff_not] at hfacts hfacts'
  obtain ⟨hundeclared, hlisted⟩ := hfacts
  obtain ⟨hreturned, hundefined⟩ := hfacts'
  obtain ⟨w, w', report, report', hgo, hgo', hok, hok', hruns, hrun, hmodule, hhidden, hfirsts⟩ :=
    exists_product_runs he he'
  obtain ⟨hinterface, htype, hpath, hpath'⟩ := he'.names
  obtain ⟨domain, errors, interfaces, implementation, hdomain, herrors, hinterfaces,
    himplementation, hreturnedErrors, hdeclaredNames, hlistedMethods, hdefinedMethods⟩ :=
    hruns.names hrun hmodule hgo' hhidden
  rw [hfirsts] at hdeclaredNames hlistedMethods
  rw [hpath] at hdomain
  rw [hpath'] at himplementation
  rw [hinterface] at hlistedMethods
  rw [htype] at hdefinedMethods
  have hall : generateAll .builtin .memory {}
      [featureRequest "name:string" {}, featureRequest "email:string" {}] =
        (w', [.ok report, .ok report']) := by
    rw [generateAll_cons hgo, generateAll_cons hgo']
    rfl
  rw [hall]
  refine ⟨by simp [hok, hok'], domain, errors, interfaces, implementation, hdomain, herrors,
    hinterfaces, himplementation, hreturnedErrors ▸ hreturned, ?_, ?_, hdefinedMethods ▸ hundefined⟩
  · rw [hdeclaredNames]
    simpa using hundeclared
  · rw [hlistedMethods e (by simp) (he.name.trans he'.name.symm)]
    exact hlisted

/-- A module name that closes the import block and spells an interface. -/
def spelledModule : String := "shop\"\n)\n\ntype ProductRepository interface \x7b\n\tCount() int\n\x7d\n\""

/-- The lines of a head that imports the domain of this module first, up to the other imports. -/
def spelledHead : List String := [
  "package repository", "", "import (", "\t\"shop\"", ")", "",
  "type ProductRepository interface \x7b", "\tCount() int", "\x7d", "\"/internal/domain\""]

theorem listedMethods_spelled {e : Entity} (h : e.IsDescribed)
    (himports : e.interfaceImports = [spelledModule ++ "/internal/domain"]) :
    listedMethods "ProductRepository" e.interfaceShare.freshFile = ["Count"] := by
  let rest := ["\"/internal/domain\"", ")", ""] ++ e.interfaceLines.tail
  have hheader : goHeader "repository" [spelledModule ++ "/internal/domain"] =
      textOf (spelledHead ++ [")", ""]) := by decide +kernel
  have hfile : e.interfaceShare.freshFile = textOf (spelledHead.take 6 ++
      "type ProductRepository interface \x7b" :: (["\tCount() int"] ++ "\x7d" :: rest)) := by
    have hshare : e.interfaceShare.firstContent = textOf e.interfaceLines.tail :=
      Piece.firstContent_share rfl
    change goHeader "repository" e.interfaceImports ++ "" ++ e.interfaceShare.firstContent ++ "" = _
    rw [himports, hheader, hshare, String.append_empty, String.append_empty, ← textOf_append]
    rfl
  have hlines : ∀ l ∈ spelledHead.take 6 ++
      "type ProductRepository interface \x7b" :: (["\tCount() int"] ++ "\x7d" :: rest),
      '\n' ∉ l.toList := by
    have hshare : ∀ l ∈ e.interfaceLines.tail, '\n' ∉ l.toList := fun l hl =>
      newline_not_mem_interfaceLines h l (List.mem_of_mem_tail hl)
    simp only [spelledHead, rest, List.take, List.forall_mem_append, List.forall_mem_cons]
    simpa using hshare
  have hopening : "type ProductRepository interface \x7b" =
      "type " ++ "ProductRepository" ++ " interface \x7b" := by decide
  rw [hfile, listedMethods_textOf hopening hlines (by decide) (by decide)]
  rfl

theorem definedMethods_spelled {e : Entity} (h : e.IsDescribed)
    (himports : e.implementationImports = [spelledModule ++ "/internal/domain", databaseImport]) :
    definedMethods e.repositoryType (textOf e.implementationLines) =
      e.repositoryMethods.map Method.name := by
  have hheader : textOf (headerLines "repository"
      [spelledModule ++ "/internal/domain", databaseImport]) =
        textOf (spelledHead ++ ["\t\"gorm.io/gorm\"", ")", ""]) := by decide +kernel
  rw [Entity.implementationLines, himports, textOf_append, hheader, ← textOf_append]
  refine Entity.definedMethods_source h ?_
  simp only [spelledHead, List.forall_mem_append, List.forall_mem_cons]
  simp

/-- With a module name over several lines the interfaces can list what no implementation has. -/
theorem generate_product_spelled : ∃ w report interfaces implementation,
    generate .builtin .memory {} (featureRequest "name:string" { moduleName := .str spelledModule }) =
      (w, .ok report) ∧ report.success = true ∧
    Store.memory.read w "internal/repository/interfaces.go" = .ok (some interfaces) ∧
    Store.memory.read w "internal/repository/postgres_product_repository.go" =
      .ok (some implementation) ∧
    "Count" ∈ listedMethods "ProductRepository" interfaces ∧
    "Count" ∉ definedMethods "postgresProductRepository" implementation := by
  have hread : ∃ e, (featureRequest "name:string"
        { moduleName := .str spelledModule }).readEntity {} = .ok e ∧
      (e.fileBase == "product" && e.repositoryType == "postgresProductRepository" &&
        Piece.repositoryImplementation.path e ==
          "internal/repository/postgres_product_repository.go" &&
        e.interfaceImports == [spelledModule ++ "/internal/domain"] &&
        e.implementationImports == [spelledModule ++ "/internal/domain", databaseImport] &&
        !(e.repositoryMethods.map Method.name).contains "Count") = true :=
    exists_of_toOption_any (by decide +kernel)
  obtain ⟨e, he, hfacts⟩ := hread
  simp only [Bool.and_eq_true, Bool.not_eq_true', beq_iff_eq, List.contains_eq_mem,
    decide_eq_false_iff_not] at hfacts
  obtain ⟨⟨⟨⟨⟨hbase, htype⟩, hpath⟩, hinterface⟩, himplementation⟩, hundefined⟩ := hfacts
  have hrun := isFeatureRun_featureRequest he rfl hbase {}
  obtain ⟨w, report, hgo, hok⟩ := generate_featureRequest (w := {}) he rfl hbase rfl
  refine ⟨w, report, e.interfaceShare.freshFile, textOf e.implementationLines, hgo, hok,
    congrArg Except.ok (hrun.interfacesDraft hgo),
    congrArg Except.ok (hpath ▸ hrun.implementationDraft hgo), ?_, ?_⟩
  · rw [listedMethods_spelled hrun.described hinterface]
    simp
  · rw [← htype, definedMethods_spelled hrun.described himplementation]
    exact hundefined

end GoScaffold
