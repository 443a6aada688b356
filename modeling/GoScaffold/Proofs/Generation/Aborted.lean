import GoScaffold.Proofs.Generation.Run
import GoScaffold.Proofs.Template.Materialized

/-!
# Runs that come to nothing

A run that is aborted has written no generated file. It has left the files as they were, unless its
settings had a template directory given the built-in templates before the fault was met.
-/
namespace GoScaffold

open GoScaffold.Text GoScaffold.Template

/-- What a run has done when settings are refused or accepted: nothing, or given a directory
templates. -/
theorem Settings.press_cases (s : Settings) (t : Tree) :
    (s.press t).1 = t ∨ ∃ dir, s.templateDir = .str dir ∧ s.templateDir.truthy = true ∧
      s.materializeTemplates.truthy = true ∧
      (Press.create (some dir)).shelf.hasCustom t = .ok false ∧
      (Press.create (some dir)).shelf.IsStocked t (s.press t).1 (.ofString dir) := by
  unfold press
  cases hvalue : s.templateDir with
  | str dir =>
    simp only
    split
    · next hasked =>
      rw [Bool.and_eq_true] at hasked
      have hdirectory : (Press.create (some dir)).shelf.directory = some (.ofString dir) := rfl
      have hcases := Shelf.materialize_cases (t := t) hdirectory fun e he =>
        Shelf.isFileName_of_plain (builtins_fit.2 e he).1
      split
      all_goals
        next t' _ hm =>
        rw [hm] at hcases
        rcases hcases with hsame | ⟨hcustom, hstocked⟩
        · exact Or.inl hsame
        · exact Or.inr ⟨dir, rfl, hasked.1, hasked.2, hcustom, hstocked⟩
    · exact Or.inl rfl
  | _ => exact Or.inl rfl

/-- A template directory is refused for what it is, or where it cannot be read or written. -/
theorem Settings.fault_of_press {s : Settings} {t : Tree} {f : RunFault} (h : (s.press t).2 = .error f) :
    (∃ kind, f = .templateDirectory kind) ∨ (∃ e, f = .templates (.unreachable e)) ∨
      ∃ g, f = .templates (.unwritable g) := by
  unfold press at h
  split at h
  · cases h
  · next dir hvalue =>
    simp only at h
    split at h
    · have hdirectory : (Press.create (some dir)).shelf.directory = some (.ofString dir) := rfl
      have hfault (g : TemplateFault) := Shelf.fault_of_materialize (t := t) hdirectory (f := g)
      split at h
      · cases h
      · next t' g hm =>
        cases h
        rcases hfault g (by rw [hm]) with ⟨e, rfl⟩ | ⟨g', rfl⟩
        · exact Or.inr (Or.inl ⟨e, rfl⟩)
        · exact Or.inr (Or.inr ⟨g', rfl⟩)
    · cases h
  · next value _ _ =>
    cases h
    exact Or.inl ⟨_, rfl⟩

/-- A run that is aborted with a report has left the drafts, and the files too unless its settings
ask for a template directory in which no template was. Then the built-in templates may have been
written there, in whole, before a layer was found unknown or a template was refused. No other fault
is met so late. -/
theorem generate_aborted {roster : Roster} {s : Store} {w w' : Workspace} {r : Request} {f : RunFault}
    (h : generate roster s w r = (w', .error f)) (hreported : f.isReported = true) :
    w'.drafts = w.drafts ∧
    (w'.tree = w.tree ∨ ∃ e dir, r.readEntity w.tree = .ok e ∧ e.settings.templateDir = .str dir ∧
      e.settings.templateDir.truthy = true ∧ e.settings.materializeTemplates.truthy = true ∧
      (Press.create (some dir)).shelf.hasCustom w.tree = .ok false ∧
      ((∃ g, f = .layers g) ∨ ∃ g, f = .templates (.unwritable g)) ∧
      (Press.create (some dir)).shelf.IsStocked w.tree w'.tree (.ofString dir)) := by
  unfold generate at h
  split at h
  · cases h
    exact ⟨rfl, Or.inl rfl⟩
  · next e he =>
    have hcases := e.settings.press_cases w.tree
    have hlate (t : Tree) (ht : (e.settings.press w.tree).1 = t)
        (hf : (∃ g, f = .layers g) ∨ ∃ g, f = .templates (.unwritable g)) :
        t = w.tree ∨ ∃ e dir, r.readEntity w.tree = .ok e ∧ e.settings.templateDir = .str dir ∧
          e.settings.templateDir.truthy = true ∧ e.settings.materializeTemplates.truthy = true ∧
          (Press.create (some dir)).shelf.hasCustom w.tree = .ok false ∧
          ((∃ g, f = .layers g) ∨ ∃ g, f = .templates (.unwritable g)) ∧
          (Press.create (some dir)).shelf.IsStocked w.tree t (.ofString dir) := by
      subst ht
      rcases hcases with hsame | ⟨dir, hvalue, hdir, hasked, hcustom, hstocked⟩
      · exact Or.inl hsame
      · exact Or.inr ⟨e, dir, he, hvalue, hdir, hasked, hcustom, hf, hstocked⟩
    split at h
    · next t g hpress =>
      cases h
      refine ⟨rfl, hlate t (by rw [hpress]) ?_⟩
      rcases Settings.fault_of_press (by rw [hpress]) with ⟨kind, rfl⟩ | ⟨e, rfl⟩ | ⟨g, rfl⟩
      · cases hreported
      · cases hreported
      · exact Or.inr ⟨g, rfl⟩
    · next t press hpress =>
      simp only at h
      split at h
      · next g _ =>
        cases h
        exact ⟨rfl, hlate t (by rw [hpress]) (Or.inl ⟨g, rfl⟩)⟩
      · cases h
        cases hreported
      · cases h
        cases hreported
      · split at h
        · cases h
          cases hreported
        · cases h

/-- A template directory where a file stands in the way of the second template. -/
def blockedTree : Tree where
  entries := [(["tpl"], .directory), (["tpl", "domain"], .file "".toUTF8 1)]
  clock := 1

def stockedTree : Tree where
  entries := [(["tpl"], .directory), (["tpl", "domain"], .file "".toUTF8 1),
    (["tpl", "constants"], .directory),
    (["tpl", "constants", "constants.go.tmpl"], .file constantsTemplate.toUTF8 2)]
  clock := 2

def blockedRequest : Request where
  entity := "product"
  fields := .descriptor (some "name:string")
  settings := .given { templateDir := .str "tpl" }

theorem mergeSort_builtins : builtins.mergeSort (fun a b => decide (a.1 ≤ b.1)) = [
    ("constants/constants", constantsTemplate), ("domain/entity", entityTemplate),
    ("handler/http/handler", handlerTemplate), ("messages/errors", errorMessagesTemplate),
    ("messages/responses", responseMessagesTemplate), ("repository/interface", repositoryTemplate),
    ("usecase/dto", dtoTemplate)] := by
  simp [builtins, List.mergeSort, List.MergeSort.Internal.splitInTwo]

theorem writeText_constants (text : String) :
    blockedTree.writeText { segments := ["tpl", "constants", "constants.go.tmpl"] } text =
      ({ entries := [(["tpl"], .directory), (["tpl", "domain"], .file "".toUTF8 1),
          (["tpl", "constants"], .directory),
          (["tpl", "constants", "constants.go.tmpl"], .file text.toUTF8 2)]
         clock := 2 }, none) := by
  let made : Tree :=
    { blockedTree with entries := blockedTree.entries ++ [(["tpl", "constants"], .directory)] }
  have hmade : blockedTree.makeDirectories "" ["constants", "tpl"] = (made, none) := rfl
  exact Tree.writeText_of_steps (by decide) (hasZero_eq_false (by decide))
    (hasZero_eq_false (by decide)) hmade rfl rfl

theorem writeText_domain (text : String) : ∃ e,
    stockedTree.writeText { segments := ["tpl", "domain", "entity.go.tmpl"] } text =
      (stockedTree, some (.refused { segments := ["tpl", "domain", "entity.go.tmpl"] } e)) := by
  have hlocate : stockedTree.locate { segments := ["tpl", "domain"] } = .ok ["tpl", "domain"] := rfl
  obtain ⟨e, he, hpresent⟩ := Tree.ensureDirectory_of_file (Or.inr ⟨hlocate, _, _, rfl⟩)
  have hmade : stockedTree.makeDirectories "" ["domain", "tpl"] = (stockedTree, some e) := by
    simp [Tree.makeDirectories, he, hpresent]
  refine ⟨e, ?_⟩
  have hblocked : stockedTree.find { segments := ["tpl", "domain", ".entity.go.tmpl.tmp.PID"] } =
      .error .notDirectory := rfl
  rw [Tree.writeText_of_notMade (by decide) (hasZero_eq_false (by decide)) hmade]
  exact Tree.abandon_of_notDirectory hblocked e

theorem press_blocked : ∃ e, ({ templateDir := .str "tpl" } : Settings).press blockedTree =
    (stockedTree, .error (.templates (.unwritable
      (.refused { segments := ["tpl", "domain", "entity.go.tmpl"] } e)))) := by
  have hdirectory : Path.ofString "tpl" = { segments := ["tpl"] } := by decide
  have hcustom : (Press.create (some "tpl")).shelf.hasCustom blockedTree = .ok false := by
    have hzero : Path.hasZero { segments := ["tpl"] } = false := hasZero_eq_false (by decide)
    have hfind : blockedTree.find { segments := ["tpl"] } = .ok .directory := rfl
    have hlocate : blockedTree.locate { segments := ["tpl"] } = .ok ["tpl"] := rfl
    have hfiles : blockedTree.filesBelow ["tpl"] = [["domain"]] := List.mergeSort_singleton _
    have hname : logicalName? "domain" = none := by decide
    simp [Shelf.hasCustom, Shelf.custom, Press.create, hdirectory, Tree.isDirectory, Tree.probe, hzero,
      hfind, Except.map, Shelf.templatesIn, hlocate, hfiles, join, hname, firstOfEach]
  have hconstants : Path.ofString "tpl" / ("constants/constants" ++ ".go.tmpl") =
      ({ segments := ["tpl", "constants", "constants.go.tmpl"] } : Path) := by decide
  have hdomain : Path.ofString "tpl" / ("domain/entity" ++ ".go.tmpl") =
      ({ segments := ["tpl", "domain", "entity.go.tmpl"] } : Path) := by decide
  have hfirst : blockedTree.writeText { segments := ["tpl", "constants", "constants.go.tmpl"] }
      constantsTemplate = (stockedTree, none) := writeText_constants _
  obtain ⟨e, he⟩ := writeText_domain entityTemplate
  refine ⟨e, ?_⟩
  have hwritten : (Press.create (some "tpl")).shelf.materialize false blockedTree =
      (stockedTree, .error (.unwritable
        (.refused { segments := ["tpl", "domain", "entity.go.tmpl"] } e))) := by
    rw [Shelf.materialize, hcustom]
    show Shelf.writeAll (Path.ofString "tpl") (builtins.mergeSort _) blockedTree = _
    simp only [mergeSort_builtins, Shelf.writeAll, hconstants, hfirst, hdomain, he]
  simp only [Settings.press, hwritten]
  rfl

theorem generate_blocked : ∃ entity e,
    blockedRequest.readEntity blockedTree = .ok entity ∧
    generate .builtin .memory { tree := blockedTree } blockedRequest = ({ tree := stockedTree },
      .error (.templates (.unwritable
        (.refused { segments := ["tpl", "domain", "entity.go.tmpl"] } e)))) := by
  obtain ⟨entity, hentity, -⟩ := exists_of_toOption_any
    (r := blockedRequest.readEntity blockedTree) (p := fun _ => true) (by decide +kernel)
  have hsettings : entity.settings = { templateDir := .str "tpl" } :=
    settings_of_readEntity rfl hentity
  obtain ⟨e, he⟩ := press_blocked
  refine ⟨entity, e, hentity, ?_⟩
  simp only [generate, hentity, hsettings, he]

/-- A refused template leaves the one before it, and nothing else. -/
theorem generate_aborted_blocked : ∃ w' f,
    generate .builtin .memory { tree := blockedTree } blockedRequest = (w', .error f) ∧
    f.isReported = true ∧ w'.drafts = [] ∧
    (Press.create (some "tpl")).shelf.IsStocked blockedTree w'.tree (.ofString "tpl") := by
  obtain ⟨entity, e, hentity, he⟩ := generate_blocked
  refine ⟨_, _, he, rfl, ?_⟩
  obtain ⟨hdrafts, hsame | ⟨entity', dir, hentity', hvalue, -, -, -, -, hstocked⟩⟩ :=
    generate_aborted he rfl
  · have hkept := congrArg ( Tree.entry? · ["tpl", "constants", "constants.go.tmpl"]) hsame
    have hwritten : stockedTree.entry? ["tpl", "constants", "constants.go.tmpl"] =
        some (.file constantsTemplate.toUTF8 2) := rfl
    have hmissing : blockedTree.entry? ["tpl", "constants", "constants.go.tmpl"] = none := rfl
    simp only [hwritten, hmissing] at hkept
    cases hkept
  · obtain rfl : entity = entity' := Except.ok.inj (hentity.symm.trans hentity')
    rw [settings_of_readEntity rfl hentity] at hvalue
    cases hvalue
    exact ⟨hdrafts, hstocked⟩

/-- Files may be created by a run that is aborted. -/
theorem not_untouched_blocked : ∃ w' f,
    generate .builtin .memory { tree := blockedTree } blockedRequest = (w', .error f) ∧
    f.isReported = true ∧
    blockedTree.entry? ["tpl", "constants", "constants.go.tmpl"] = none ∧
    w'.tree.entry? ["tpl", "constants", "constants.go.tmpl"] =
      some (.file constantsTemplate.toUTF8 2) := by
  obtain ⟨entity, e, -, he⟩ := generate_blocked
  exact ⟨_, _, he, rfl, rfl, rfl⟩

end GoScaffold
