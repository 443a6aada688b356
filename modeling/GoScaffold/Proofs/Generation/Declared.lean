import GoScaffold.Proofs.Generation.Consistency
import GoScaffold.Proofs.Generation.Layerwise
import GoScaffold.Proofs.Layer.ConstantCatalog

/-!
# Names that are declared twice

Runs of all layers for different entities fill the catalogs. The names in them are made of the names
of entities and fields without anything between these, so that two entities can declare the same
name, and one can with a field that is called like the record as a whole.
-/
namespace GoScaffold

open GoScaffold.Text GoScaffold.Naming GoScaffold.Template

/-- The names that a draft declares. -/
def declaredAt (w : Workspace) (path : String) : List String :=
  ((OrderedMap.get? path w.drafts).map declaredNames).getD []

/-- The requests are for all layers of the entities, and the settings of each can be judged. -/
def AreFeatureRuns (t : Tree) (requests : List Request) (es : List Entity) : Prop :=
  List.Forall₂ (fun r e => r.IsFeatureRun t e ∧ ∃ advice, e.settings.warnings t = .ok advice)
    requests es

namespace Request.IsFeatureRun

variable {w w' : Workspace} {r : Request} {e : Entity} {report : Report}

theorem tree_eq (h : r.IsFeatureRun w.tree e) {advice : List String}
    (hadvice : e.settings.warnings w.tree = .ok advice)
    (hgo : generate .builtin .memory w r = (w', .ok report)) : w'.tree = w.tree := by
  obtain ⟨found, hmodule⟩ := moduleAdvice_of_warnings hadvice
  choose text htext using Piece.exists_declares h.described hmodule
  obtain ⟨_, hrun, -⟩ := generate_mergeAll h.entity h.templates h.select hadvice htext
  rw [hgo] at hrun
  cases hrun
  rw [tree_mergeAll_memory]

theorem constantDraft (h : r.IsFeatureRun w.tree e)
    (hgo : generate .builtin .memory w r = (w', .ok report)) {p : Piece} (hp : p.isConstant = true) :
    OrderedMap.get? p.constantFile.path w'.drafts =
      textAfter (OrderedMap.get? p.constantFile.path w.drafts) (p.share e) := by
  have hmem : p ∈ Layer.all.flatMap (Layer.pieces e) := by
    simp only [Layer.all, List.flatMap_cons, List.flatMap_nil, Layer.pieces, h.validation, if_true]
    rcases Piece.cases_of_isConstant hp with rfl | rfl | rfl <;> decide
  rw [← (Piece.isShare_constant h.described hp).path]
  exact h.drafts hgo p hmem _ (Piece.declares_lines h.described
    (Piece.isSome_marker_of_isCatalog (Piece.isCatalog_of_isConstant hp) e))

end Request.IsFeatureRun

section Runs

variable {t : Tree} {requests : List Request} {es parts shared : List Entity} {w : Workspace}

theorem AreFeatureRuns.fill (h : AreFeatureRuns t requests es) (htree : w.tree = t)
    (hnames : ((parts ++ es).map Entity.name).Nodup) (hparts : ∀ b ∈ parts, b.IsDescribed)
    (hshared : ∀ b ∈ shared, b ∈ parts)
    (herrors : OrderedMap.get? errorsPath w.drafts = errorsFile? shared)
    (hconstants : ∀ p : Piece, p.isConstant = true →
      OrderedMap.get? p.constantFile.path w.drafts = p.constantFile? parts) :
    (∀ o ∈ (generateAll .builtin .memory w requests).2,
      ∃ report, o = .ok report ∧ report.success = true) ∧
    OrderedMap.get? errorsPath (generateAll .builtin .memory w requests).1.drafts =
      errorsFile? (es.foldl withErrors shared) ∧
    ∀ p : Piece, p.isConstant = true →
      OrderedMap.get? p.constantFile.path (generateAll .builtin .memory w requests).1.drafts =
        p.constantFile? (parts ++ es) := by
  induction h generalizing w parts shared with
  | nil => exact ⟨by simp [generateAll], herrors, by simpa [generateAll] using hconstants⟩
  | @cons r e requests es hrun hrest ih =>
    obtain ⟨hrun, advice, hadvice⟩ := hrun
    subst htree
    obtain ⟨w', report, hgo, hok⟩ := hrun.generate_ok hadvice
    have hnew : e.name ∉ parts.map Entity.name := by
      rw [List.map_append, List.map_cons] at hnames
      exact fun hmem => (List.nodup_append.1 hnames).2.2 _ hmem _ (by simp) rfl
    have hunshared : e.name ∉ shared.map Entity.name := fun hmem =>
      hnew (List.map_subset _ hshared hmem)
    have hmore : ∀ b ∈ parts ++ [e], b.IsDescribed := by
      rw [List.forall_mem_append]
      exact ⟨hparts, by simpa using hrun.described⟩
    have hstep : ∀ b ∈ withErrors shared e, b ∈ parts ++ [e] := fun b hb => by
      rcases mem_withErrors hb with hb | rfl
      · exact List.mem_append_left _ (hshared b hb)
      · simp
    have hlater : ((parts ++ [e] ++ es).map Entity.name).Nodup := by simpa using hnames
    have herrorsNext : OrderedMap.get? errorsPath w'.drafts = errorsFile? (withErrors shared e) := by
      rw [hrun.errorsDraft hgo, herrors]
      exact (merge_errorsFile_new (fun b hb => hparts b (hshared b hb)) hrun.described hunshared).1
    have hconstantsNext : ∀ p : Piece, p.isConstant = true →
        OrderedMap.get? p.constantFile.path w'.drafts = p.constantFile? (parts ++ [e]) := by
      intro p hp
      rw [hrun.constantDraft hgo hp, hconstants p hp,
        Piece.textAfter_constantFile hparts hrun.described hp hnew]
    obtain ⟨hall, herrors', hconstants'⟩ := ih (hrun.tree_eq hadvice hgo) hlater hmore hstep
      herrorsNext hconstantsNext
    rw [generateAll_cons hgo]
    exact ⟨List.forall_mem_cons.2 ⟨⟨report, rfl, hok⟩, hall⟩, herrors', by simpa using hconstants'⟩

theorem AreFeatureRuns.isDescribed (h : AreFeatureRuns t requests es) : ∀ e ∈ es, e.IsDescribed :=
  fun _ he => (exists_of_forall₂ h he).choose_spec.2.1.described

/-- Runs of all layers for entities of different names, with validation, built-in templates and
settings that can be judged, from no drafts. All of them succeed. A catalog declares no name twice if
and only if the words are all different of which its names are made: in the domain errors those of
the fields, and of the records as a whole, of the entities that have a share; in the error messages
those of the fields that have to be given; in the success messages the plurals of the entities; and
in the constants those of all fields. -/
theorem generateAll_declared (h : AreFeatureRuns t requests es) (hnames : (es.map Entity.name).Nodup) :
    let runs := generateAll .builtin .memory { tree := t } requests
    (∀ o ∈ runs.2, ∃ report, o = .ok report ∧ report.success = true) ∧
    ((declaredAt runs.1 "internal/domain/errors.go").Nodup ↔
      ((es.foldl withErrors []).flatMap Entity.errorWords).Nodup) ∧
    ((declaredAt runs.1 "internal/messages/errors.go").Nodup ↔
      (es.flatMap Entity.requiredWords).Nodup) ∧
    ((declaredAt runs.1 "internal/messages/responses.go").Nodup ↔
      (es.map Entity.pluralName).Nodup) ∧
    ((declaredAt runs.1 "internal/constants/constants.go").Nodup ↔
      (es.flatMap Entity.fieldWords).Nodup) := by
  intro runs
  have hes := h.isDescribed
  have hstart : ((([] : List Entity) ++ es).map Entity.name).Nodup := hnames
  have hnone : OrderedMap.get? errorsPath ([] : List (String × String)) = errorsFile? [] := rfl
  obtain ⟨hall, herrors, hconstants⟩ := h.fill (w := { tree := t }) rfl hstart (by simp) (by simp)
    hnone fun p _ => rfl
  have hshared : (es.foldl withErrors []).Sublist es := foldl_withErrors_sublist es []
  have hdomain : declaredAt runs.1 errorsPath =
      (es.foldl withErrors []).flatMap fun b => (Piece.errors.declarations b).map (·.1) := by
    rw [declaredAt, herrors]
    cases htext : errorsFile? (es.foldl withErrors []) with
    | none =>
      have hnil : es.foldl withErrors [] = [] := by
        by_contra hne
        exact absurd htext (by simp [errorsFile?, SharedFile.file?, hne])
      rw [hnil]
      rfl
    | some text => exact declaredNames_errorsFile (fun b hb => hes b (hshared.subset hb)) htext
  have hconstant (p : Piece) (hp : p.isConstant = true) : declaredAt runs.1 p.constantFile.path =
      es.flatMap fun b => (p.declarations b).map (·.1) := by
    rw [declaredAt, hconstants p hp, List.nil_append]
    cases htext : p.constantFile? es with
    | none =>
      have hnil : es = [] := by
        by_contra hne
        exact absurd htext (by simp [Piece.constantFile?, SharedFile.file?, hne])
      rw [hnil]
      rfl
    | some text => exact Piece.declaredNames_constantFile hes hp htext
  have hplural : es.flatMap (fun e => [e.pluralName]) = es.map Entity.pluralName :=
    List.flatMap_pure_eq_map _ _
  refine ⟨hall, ?_, ?_, ?_, ?_⟩
  · rw [← errorsPath, hdomain]
    exact Piece.nodup_names_iff rfl (hnames.sublist (hshared.map _))
  · rw [show "internal/messages/errors.go" = Piece.errorMessages.constantFile.path from rfl,
      hconstant _ rfl]
    exact Piece.nodup_names_iff rfl hnames
  · rw [show "internal/messages/responses.go" = Piece.responseMessages.constantFile.path from rfl,
      hconstant _ rfl, ← hplural]
    exact Piece.nodup_names_iff rfl hnames
  · rw [show "internal/constants/constants.go" = Piece.constants.constantFile.path from rfl,
      hconstant _ rfl]
    exact Piece.nodup_names_iff rfl hnames

end Runs

theorem hides_iff {e e' : Entity} : e.Hides e' ↔ e'.name ++ "Data" ∈ e.fieldWords := by
  simp [Entity.Hides, Entity.fieldWords, Entity.fieldWord]

def catalogRequest (name descriptor : String) : Request where
  entity := name
  fields := .descriptor (some descriptor)
  settings := .given { validation := .bool true }

def Entity.hasWords (e : Entity) (name : String) (words : List String) : Bool :=
  e.name == name && e.fileBase != "errors" && e.fieldWords == words && e.requiredWords == words

theorem isFeatureRun_catalogRequest {name descriptor : String} {e : Entity}
    (h : (catalogRequest name descriptor).readEntity {} = .ok e) (hbase : e.fileBase ≠ "errors") :
    (catalogRequest name descriptor).IsFeatureRun {} e ∧
      ∃ advice, e.settings.warnings {} = .ok advice := by
  have hsettings : e.settings = { validation := .bool true } := settings_of_readEntity rfl h
  refine ⟨⟨rfl, h, isDescribed_of_readEntity rfl h, by rw [hsettings]; rfl, by rw [hsettings], hbase⟩,
    [], ?_⟩
  rw [hsettings]
  rfl

/-- The item name of an order and the name of an order item are the same word. -/
theorem generateAll_declared_orderItem : ∃ es : List Entity,
    es.map Entity.name = ["Order", "OrderItem"] ∧
    let runs := generateAll .builtin .memory {} [
      catalogRequest "Order" "item_name:string", catalogRequest "OrderItem" "name:string"]
    ¬ (declaredAt runs.1 "internal/domain/errors.go").Nodup ∧
    ¬ (declaredAt runs.1 "internal/messages/errors.go").Nodup ∧
    (declaredAt runs.1 "internal/messages/responses.go").Nodup ∧
    ¬ (declaredAt runs.1 "internal/constants/constants.go").Nodup := by
  have hread : ∃ e, (catalogRequest "Order" "item_name:string").readEntity {} = .ok e ∧
      e.hasWords "Order" ["OrderItemName"] = true := exists_of_toOption_any (by decide +kernel)
  have hread' : ∃ e, (catalogRequest "OrderItem" "name:string").readEntity {} = .ok e ∧
      e.hasWords "OrderItem" ["OrderItemName"] = true := exists_of_toOption_any (by decide +kernel)
  obtain ⟨e, he, hfacts⟩ := hread
  obtain ⟨e', he', hfacts'⟩ := hread'
  simp only [Entity.hasWords, Bool.and_eq_true, beq_iff_eq, bne_iff_ne] at hfacts hfacts'
  obtain ⟨⟨⟨hname, hbase⟩, hfields⟩, hrequired⟩ := hfacts
  obtain ⟨⟨⟨hname', hbase'⟩, hfields'⟩, hrequired'⟩ := hfacts'
  have hshared : [e, e'].foldl withErrors [] = [e, e'] := by
    have hnot : ¬ e.Hides e' := by
      rw [hides_iff, hfields, hname']
      decide
    simp [withErrors, hnot]
  have hruns : AreFeatureRuns {} [catalogRequest "Order" "item_name:string",
      catalogRequest "OrderItem" "name:string"] [e, e'] :=
    .cons (isFeatureRun_catalogRequest he hbase)
      (.cons (isFeatureRun_catalogRequest he' hbase') .nil)
  obtain ⟨-, herrors, hmessages, hresponses, hconstants⟩ :=
    generateAll_declared hruns (by simp [hname, hname'])
  refine ⟨[e, e'], by simp [hname, hname'], mt herrors.1 ?_, mt hmessages.1 ?_, hresponses.2 ?_,
    mt hconstants.1 ?_⟩
  · simp [hshared, Entity.errorWords, hname, hfields, hname', hfields']
  · simp [hrequired, hrequired']
  · have hplural : plural "Order" ≠ plural "OrderItem" := by decide
    simpa [Entity.pluralName, hname, hname'] using hplural
  · simp [hfields, hfields']

end GoScaffold
