import GoScaffold.Proofs.Generation.Drafts
import GoScaffold.Proofs.Generation.ErrorCatalog

/-!
# Layers one by one

Over drafts in memory it makes no difference whether the layers of an entity are run together or one
by one, in whatever order and however often: every file gets its one artifact when that first comes.
-/
namespace GoScaffold

open GoScaffold.Text GoScaffold.Naming GoScaffold.Template

/-- Artifacts that can be found again, and that are the same if they go to the same file. -/
structure AreSeparate (run : List Artifact) : Prop where
  traceable : ∀ a ∈ run, a.IsTraceable
  eq_of_path : ∀ a ∈ run, ∀ b ∈ run, a.path = b.path → a = b

section Artifacts

variable {w : Workspace} {a : Artifact} {run run' : List Artifact}

theorem AreSeparate.tail (h : AreSeparate (a :: run)) : AreSeparate run where
  traceable b hb := h.traceable b (List.mem_cons_of_mem _ hb)
  eq_of_path b hb c hc := h.eq_of_path b (List.mem_cons_of_mem _ hb) c (List.mem_cons_of_mem _ hc)

theorem AreSeparate.mono (h : AreSeparate run) (hsub : ∀ a ∈ run', a ∈ run) :
    AreSeparate run' where
  traceable a ha := h.traceable a (hsub a ha)
  eq_of_path a ha b hb := h.eq_of_path a (hsub a ha) b (hsub b hb)

/-- The first artifact of a file does not depend on the order of the artifacts. -/
theorem AreSeparate.find?_eq (h : AreSeparate run) (hsame : ∀ a, a ∈ run' ↔ a ∈ run)
    (path : String) : run'.find? (·.path == path) = run.find? (·.path == path) := by
  cases hfound' : run'.find? (·.path == path) with
  | none =>
    rw [List.find?_eq_none] at hfound'
    exact (List.find?_eq_none.2 fun a ha => hfound' a ((hsame a).2 ha)).symm
  | some a =>
    have ha := (hsame a).1 (List.mem_of_find?_eq_some hfound')
    have hpath : a.path = path := by simpa using List.find?_some hfound'
    cases hfound : run.find? (·.path == path) with
    | none => exact absurd (by simpa using hpath) (List.find?_eq_none.1 hfound a ha)
    | some b =>
      have hpath' : b.path = path := by simpa using List.find?_some hfound
      rw [h.eq_of_path a ha b (List.mem_of_find?_eq_some hfound) (hpath.trans hpath'.symm)]

theorem mergeAll_memory_cons (w : Workspace) (a : Artifact) (run : List Artifact) :
    Store.memory.mergeAll w (a :: run) =
      ((Store.memory.mergeAll (w.afterMerge a) run).1,
        .ok (merge (OrderedMap.get? a.path w.drafts) a).2 ::
          (Store.memory.mergeAll (w.afterMerge a) run).2) := by
  rw [Store.mergeAll, Workspace.merge_memory]

theorem mergeAll_append (s : Store) (w : Workspace) (run run' : List Artifact) :
    s.mergeAll w (run ++ run') =
      ((s.mergeAll (s.mergeAll w run).1 run').1,
        (s.mergeAll w run).2 ++ (s.mergeAll (s.mergeAll w run).1 run').2) := by
  induction run generalizing w with
  | nil => rfl
  | cons a run ih => simp only [List.cons_append, Store.mergeAll, ih]

theorem tree_mergeAll_memory (w : Workspace) (run : List Artifact) :
    (Store.memory.mergeAll w run).1.tree = w.tree := by
  induction run generalizing w with
  | nil => rfl
  | cons a run ih => rw [mergeAll_memory_cons, ih, Workspace.afterMerge_tree]

/-- Each draft is what the first artifact of its file made of it, and the first outcome for a file is
the one of that artifact. -/
theorem AreSeparate.mergeAll (h : AreSeparate run) (w : Workspace) :
    ∃ outcomes : List MergeOutcome,
      (Store.memory.mergeAll w run).2 = outcomes.map .ok ∧
      ∀ path,
        OrderedMap.get? path (Store.memory.mergeAll w run).1.drafts =
          ((run.find? (·.path == path)).elim (OrderedMap.get? path w.drafts)
            (textAfter (OrderedMap.get? path w.drafts))) ∧
        outcomes.find? (·.path == path) =
          (run.find? (·.path == path)).map
            fun a => (merge (OrderedMap.get? path w.drafts) a).2 := by
  induction run generalizing w with
  | nil => exact ⟨[], rfl, fun _ => ⟨rfl, rfl⟩⟩
  | cons a run ih =>
    obtain ⟨outcomes, hall, hpaths⟩ := ih h.tail (w.afterMerge a)
    refine ⟨(merge (OrderedMap.get? a.path w.drafts) a).2 :: outcomes, ?_, fun path => ?_⟩
    · rw [mergeAll_memory_cons, hall, List.map_cons]
    · obtain ⟨hdraft, houtcome⟩ := hpaths path
      rw [mergeAll_memory_cons, hdraft]
      simp only [Workspace.get?_afterMerge] at houtcome ⊢
      by_cases hpath : a.path = path
      · subst hpath
        rw [if_pos rfl, List.find?_cons_of_pos (by simp), List.find?_cons_of_pos (by simp [path_merge])]
        refine ⟨?_, rfl⟩
        cases hfound : run.find? (·.path == a.path) with
        | none => rfl
        | some b =>
          -- the same artifact comes again and is found
          have hb : b.path = a.path := by simpa using List.find?_some hfound
          have hmem := List.mem_cons_of_mem a (List.mem_of_find?_eq_some hfound)
          obtain rfl := h.eq_of_path b hmem a List.mem_cons_self hb
          have hagain := merge_textAfter (h.traceable b hmem) (OrderedMap.get? b.path w.drafts)
          rw [Option.elim_some, Option.elim_some, textAfter, hagain]
          rfl
      · rw [if_neg (Ne.symm hpath)] at houtcome ⊢
        rw [List.find?_cons_of_neg (by simpa using hpath),
          List.find?_cons_of_neg (by simpa [path_merge] using hpath)]
        exact ⟨rfl, houtcome⟩

/-- Merging the same artifacts in another order comes to the same. -/
theorem AreSeparate.mergeAll_congr (h : AreSeparate run) (hsame : ∀ a, a ∈ run' ↔ a ∈ run)
    (w : Workspace) {outcomes outcomes' : List MergeOutcome}
    (hall : outcomes.map .ok = (Store.memory.mergeAll w run).2)
    (hall' : outcomes'.map .ok = (Store.memory.mergeAll w run').2) :
    (∀ path, OrderedMap.get? path (Store.memory.mergeAll w run').1.drafts =
        OrderedMap.get? path (Store.memory.mergeAll w run).1.drafts) ∧
      ∀ path, outcomes'.find? (·.path == path) = outcomes.find? (·.path == path) := by
  have hinj : Function.Injective (Except.ok (ε := StoreFault) (α := MergeOutcome)) :=
    fun _ _ h => Except.ok.inj h
  obtain ⟨_, heq, hmerged⟩ := h.mergeAll w
  obtain ⟨_, heq', hmerged'⟩ := (h.mono fun a ha => (hsame a).1 ha).mergeAll w
  obtain rfl := List.map_injective_iff.2 hinj (hall.trans heq)
  obtain rfl := List.map_injective_iff.2 hinj (hall'.trans heq')
  refine ⟨fun path => ?_, fun path => ?_⟩
  · rw [(hmerged path).1, (hmerged' path).1, h.find?_eq hsame]
  · rw [(hmerged path).2, (hmerged' path).2, h.find?_eq hsame]

end Artifacts

section Runs

variable {e : Entity} {press : Press} {w : Workspace} {text : Piece → String}

def artifactsOf (e : Entity) (text : Piece → String) (pieces : List Piece) : List Artifact :=
  pieces.map fun p => p.artifact e (text p)

theorem artifactsOf_cons (p : Piece) (pieces : List Piece) :
    artifactsOf e text (p :: pieces) = p.artifact e (text p) :: artifactsOf e text pieces := rfl

theorem artifactsOf_append (pieces pieces' : List Piece) :
    artifactsOf e text (pieces ++ pieces') = artifactsOf e text pieces ++ artifactsOf e text pieces' :=
  List.map_append

/-- Running pieces over drafts is merging their artifacts. -/
theorem runPieces_mergeAll (hpress : press.IsBuiltin) (htext : ∀ p : Piece, p.Declares e (text p))
    (w : Workspace) (pieces : List Piece) :
    ∃ results : List PieceResult, runPieces .memory e press w pieces =
        ((Store.memory.mergeAll w (artifactsOf e text pieces)).1, .ok results) ∧
      (results.filterMap PieceResult.outcome?).map .ok =
        (Store.memory.mergeAll w (artifactsOf e text pieces)).2 ∧
      ∀ r ∈ results, r.fault? = none := by
  induction pieces generalizing press w with
  | nil => exact ⟨[], rfl, rfl, by simp⟩
  | cons p pieces ih =>
    obtain ⟨press', hrun, hpress'⟩ := runPiece_memory (w := w) hpress (htext p)
    obtain ⟨results, hruns, houtcomes, hok⟩ :=
      ih hpress' (w := w.afterMerge (p.artifact e (text p)))
    let outcome := (merge (OrderedMap.get? (p.path e) w.drafts) (p.artifact e (text p))).2
    refine ⟨⟨p, .ok outcome⟩ :: results, ?_, ?_, List.forall_mem_cons.2 ⟨rfl, hok⟩⟩
    · rw [runPieces, hrun]
      simp only [endOfRun?, hruns]
      rw [artifactsOf_cons, mergeAll_memory_cons]
    · rw [artifactsOf_cons, mergeAll_memory_cons]
      exact congrArg (_ :: ·) houtcomes

/-- A run of some layers over drafts is merging their artifacts. -/
theorem generate_mergeAll {roster : Roster} {r : Request} (he : r.readEntity w.tree = .ok e)
    (hdir : e.settings.templateDir = .null) {layers : List Layer}
    (hlayers : roster.select r.layers = .ok layers) {advice : List String}
    (hadvice : e.settings.warnings w.tree = .ok advice) (htext : ∀ p : Piece, p.Declares e (text p)) :
    let run := artifactsOf e text (layers.flatMap (Layer.pieces e))
    ∃ report : Report, generate roster .memory w r = ((Store.memory.mergeAll w run).1, .ok report) ∧
      report.outcomes.map .ok = (Store.memory.mergeAll w run).2 ∧ report.success = true := by
  obtain ⟨results, hrun, houtcomes, hok⟩ := runPieces_mergeAll Press.isBuiltin_create htext w
    (layers.flatMap (Layer.pieces e))
  let report : Report :=
    { entity := e, layers := layers, templates := .builtin, advice := advice, results := results }
  refine ⟨report, ?_, houtcomes, Report.success_iff.2 hok⟩
  rw [generate_eq he hdir hlayers, hadvice, runLayers, hrun]

/-- Runs of some layers each, one after another, over drafts. -/
theorem generateAll_mergeAll {roster : Roster} {w : Workspace} {requests : List Request}
    {chosen : List (List Layer)}
    (he : ∀ r ∈ requests, r.readEntity w.tree = .ok e) (hdir : e.settings.templateDir = .null)
    (hlayers : List.Forall₂ (fun r layers => roster.select r.layers = .ok layers) requests chosen)
    {advice : List String} (hadvice : e.settings.warnings w.tree = .ok advice)
    (htext : ∀ p : Piece, p.Declares e (text p)) :
    let run := artifactsOf e text (chosen.flatten.flatMap (Layer.pieces e))
    ∃ reports : List Report, generateAll roster .memory w requests =
        ((Store.memory.mergeAll w run).1, reports.map .ok) ∧
      (reports.flatMap Report.outcomes).map .ok = (Store.memory.mergeAll w run).2 ∧
      ∀ report ∈ reports, report.success = true := by
  induction hlayers generalizing w with
  | nil => exact ⟨[], rfl, rfl, by simp⟩
  | @cons r layers requests chosen hlayer hlayers ih =>
    obtain ⟨report, hrun, houtcomes, hok⟩ :=
      generate_mergeAll (he r List.mem_cons_self) hdir hlayer hadvice htext
    have htree := tree_mergeAll_memory w (artifactsOf e text (layers.flatMap (Layer.pieces e)))
    obtain ⟨reports, hruns, houtcomes', hoks⟩ :=
      ih (w := (Store.memory.mergeAll w (artifactsOf e text (layers.flatMap (Layer.pieces e)))).1)
        (fun r hr => htree ▸ he r (List.mem_cons_of_mem _ hr)) (htree ▸ hadvice)
    refine ⟨report :: reports, ?_, ?_, List.forall_mem_cons.2 ⟨hok, hoks⟩⟩
    · rw [generateAll_cons hrun, hruns, List.flatten_cons, List.flatMap_append, artifactsOf_append,
        mergeAll_append, List.map_cons]
    · rw [List.flatten_cons, List.flatMap_append, artifactsOf_append, mergeAll_append,
        List.flatMap_cons, List.map_append, houtcomes]
      exact congrArg (_ ++ ·) houtcomes'

theorem areSeparate_artifactsOf {pieces : List Piece}
    (htrace : ∀ p : Piece, (p.artifact e (text p)).IsTraceable)
    (hpaths : (pieces.map (Piece.path e)).Nodup) : AreSeparate (artifactsOf e text pieces) where
  traceable := List.forall_mem_map.2 fun p _ => htrace p
  eq_of_path := List.forall_mem_map.2 fun p hp => List.forall_mem_map.2 fun q hq hpath => by
    rw [List.inj_on_of_nodup_map hpaths hp hq hpath]

end Runs

/-- The text is a name of the layer, in any letter case. -/
def Layer.IsCalled (l : Layer) (name : String) : Prop := lower name = l.name ∨ lower name = l.byname

instance (l : Layer) (name : String) : Decidable (l.IsCalled name) :=
  inferInstanceAs (Decidable (lower name = l.name ∨ lower name = l.byname))

theorem resolve_of_isCalled {l : Layer} {name : String} (h : l.IsCalled name) :
    Roster.builtin.resolve name = .ok l.name := by
  rcases h with h | h
  · rw [Roster.resolve, h]
    cases l <;> rfl
  · rw [Roster.resolve, h]
    cases l <;> rfl

theorem select_of_isCalled {l : Layer} {name : String} (h : l.IsCalled name) :
    Roster.builtin.select [name] = .ok [l] := by
  rw [Roster.select, List.mapM_cons, List.mapM_nil, resolve_of_isCalled h]
  cases l <;> rfl

def Request.forLayer (r : Request) (name : String) : Request := { r with layers := [name] }

def Request.forAllLayers (r : Request) : Request := { r with layers := [] }

theorem mem_flatMap_pieces_of_cover {e : Entity} {layers : List Layer} (h : ∀ l, l ∈ layers)
    (p : Piece) : p ∈ layers.flatMap (Layer.pieces e) ↔ p ∈ Layer.all.flatMap (Layer.pieces e) := by
  have hall (l : Layer) : l ∈ Layer.all := by cases l <;> decide
  simp only [List.mem_flatMap, h, hall, true_and]

section Stepwise

variable {w : Workspace} {r : Request} {e : Entity} {names : List String}

/-- Runs of single layers leave everything as it is where the settings cannot be judged. -/
theorem generateAll_forLayer_error (he : r.readEntity w.tree = .ok e)
    (hdir : e.settings.templateDir = .null) (hnames : ∀ name ∈ names, ∃ l : Layer, l.IsCalled name)
    {f : AdviceFault} (hf : e.settings.warnings w.tree = .error f) :
    generateAll .builtin .memory w (names.map r.forLayer) =
      (w, names.map fun _ => .error (.advice f)) := by
  induction names with
  | nil => rfl
  | cons name names ih =>
    obtain ⟨l, hl⟩ := hnames name List.mem_cons_self
    have hone : generate .builtin .memory w (r.forLayer name) = (w, .error (.advice f)) := by
      rw [generate_eq (r := r.forLayer name) he hdir (select_of_isCalled hl), hf]
    have ih := ih fun other hother => hnames other (List.mem_cons_of_mem _ hother)
    rw [List.map_cons, generateAll_cons hone, ih, List.map_cons]

/-- The layers that names stand for, one after another. -/
theorem exists_chosen (r : Request) (hnames : ∀ name ∈ names, ∃ l : Layer, l.IsCalled name)
    (hcover : ∀ l : Layer, ∃ name ∈ names, l.IsCalled name) :
    ∃ chosen : List (List Layer), List.Forall₂ (fun r layers => Roster.builtin.select r.layers =
      .ok layers) (names.map r.forLayer) chosen ∧ ∀ l, l ∈ chosen.flatten := by
  have : Nonempty Layer := ⟨.domain⟩
  choose! layerOf hlayerOf using hnames
  refine ⟨names.map fun name => [layerOf name], ?_, fun l => ?_⟩
  · rw [List.forall₂_map_left_iff, List.forall₂_map_right_iff, List.forall₂_same]
    exact fun name hname => select_of_isCalled (hlayerOf name hname)
  · obtain ⟨name, hname, hl⟩ := hcover l
    have hsame : Except.ok [layerOf name] = (.ok [l] : Except RosterFault (List Layer)) :=
      (select_of_isCalled (hlayerOf name hname)).symm.trans (select_of_isCalled hl)
    simp only [Except.ok.injEq, List.cons.injEq, and_true] at hsame
    exact List.mem_flatten.2 ⟨[layerOf name], List.mem_map_of_mem hname, by simp [hsame]⟩

end Stepwise

/-- Without a template directory, and the pieces of the entity going to different files, a run of all
layers over drafts and runs of single layers that leave none out come to the same: the same drafts,
and for every file the same first outcome. Neither changes anything where the settings cannot be
judged. -/
theorem generateAll_forLayer {w : Workspace} {r : Request} {text : Option String}
    (hfields : r.fields = .descriptor text) {e : Entity} (he : r.readEntity w.tree = .ok e)
    (hdir : e.settings.templateDir = .null)
    (hpaths : ((Layer.all.flatMap (Layer.pieces e)).map (Piece.path e)).Nodup)
    {names : List String} (hnames : ∀ name ∈ names, ∃ l : Layer, l.IsCalled name)
    (hcover : ∀ l : Layer, ∃ name ∈ names, l.IsCalled name) :
    (∀ f, e.settings.warnings w.tree = .error f →
      generate .builtin .memory w r.forAllLayers = (w, .error (.advice f)) ∧
      generateAll .builtin .memory w (names.map r.forLayer) =
        (w, names.map fun _ => .error (.advice f))) ∧
    ∀ advice, e.settings.warnings w.tree = .ok advice →
      ∃ (whole stepwise : Workspace) (report : Report) (reports : List Report),
        generate .builtin .memory w r.forAllLayers = (whole, .ok report) ∧
        generateAll .builtin .memory w (names.map r.forLayer) = (stepwise, reports.map .ok) ∧
        stepwise.tree = whole.tree ∧
        (∀ path, OrderedMap.get? path stepwise.drafts = OrderedMap.get? path whole.drafts) ∧
        (∀ path, (reports.flatMap Report.outcomes).find? (·.path == path) =
          report.outcomes.find? (·.path == path)) ∧
        ∀ ran ∈ report :: reports, ran.success = true := by
  have hselect : Roster.builtin.select r.forAllLayers.layers = .ok Layer.all := rfl
  have hread (name : String) : (r.forLayer name).readEntity w.tree = .ok e := he
  refine ⟨fun f hf => ⟨?_, generateAll_forLayer_error he hdir hnames hf⟩, fun advice hadvice => ?_⟩
  · rw [generate_eq (r := r.forAllLayers) he hdir hselect, hf]
  · obtain ⟨found, hmodule⟩ := moduleAdvice_of_warnings hadvice
    choose text htext htrace using
      Piece.exists_traceable (isDescribed_of_readEntity hfields he) hmodule
    obtain ⟨chosen, hchosen, hcovered⟩ := exists_chosen r hnames hcover
    obtain ⟨report, hrun, houtcomes, hok⟩ :=
      generate_mergeAll (r := r.forAllLayers) he hdir hselect hadvice htext
    obtain ⟨reports, hruns, houtcomes', hoks⟩ := generateAll_mergeAll
      (List.forall_mem_map.2 fun name _ => hread name) hdir hchosen hadvice htext
    -- both merge the same artifacts, in another order
    have hsame (a : Artifact) : a ∈ artifactsOf e text (chosen.flatten.flatMap (Layer.pieces e)) ↔
        a ∈ artifactsOf e text (Layer.all.flatMap (Layer.pieces e)) := by
      simp only [artifactsOf, List.mem_map, mem_flatMap_pieces_of_cover hcovered]
    obtain ⟨hdrafts, hfirst⟩ := (areSeparate_artifactsOf htrace hpaths).mergeAll_congr hsame w
      houtcomes houtcomes'
    refine ⟨_, _, report, reports, hrun, hruns, ?_, hdrafts, hfirst, List.forall_mem_cons.2 ⟨hok, hoks⟩⟩
    rw [tree_mergeAll_memory, tree_mergeAll_memory]

/-- All layers of a product in an order of their own, the domain twice. -/
def productLayers : List String := ["http", "Repo", "messages", "domain", "ENTITY", "usecase"]

theorem generateAll_forLayer_product : ∃ (whole stepwise : Workspace) (report : Report)
    (reports : List Report),
    generate .builtin .memory spoiltDrafts productRequest.forAllLayers = (whole, .ok report) ∧
      generateAll .builtin .memory spoiltDrafts (productLayers.map productRequest.forLayer) =
        (stepwise, reports.map .ok) ∧
      ∀ path, OrderedMap.get? path stepwise.drafts = OrderedMap.get? path whole.drafts := by
  have hread : ∃ e, productRequest.readEntity {} = .ok e ∧
      decide ((Layer.all.flatMap (Layer.pieces e)).map (Piece.path e)).Nodup = true :=
    exists_of_toOption_any (by decide +kernel)
  obtain ⟨e, he, hpaths⟩ := hread
  have hsettings : e.settings = {} := settings_of_readEntity rfl he
  have hnames : ∀ name ∈ productLayers, ∃ l : Layer, l.IsCalled name := by
    simp only [productLayers, List.forall_mem_cons, List.not_mem_nil, false_implies, implies_true,
      and_true]
    exact ⟨⟨.handler, by decide⟩, ⟨.repository, by decide⟩, ⟨.messages, by decide⟩,
      ⟨.domain, by decide⟩, ⟨.domain, by decide⟩, ⟨.dto, by decide⟩⟩
  have hcover : ∀ l : Layer, ∃ name ∈ productLayers, l.IsCalled name
    | .domain => ⟨"domain", by decide⟩
    | .dto => ⟨"usecase", by decide⟩
    | .repository => ⟨"Repo", by decide⟩
    | .handler => ⟨"http", by decide⟩
    | .messages => ⟨"messages", by decide⟩
  obtain ⟨whole, stepwise, report, reports, hwhole, hstepwise, -, hdrafts, -⟩ :=
    (generateAll_forLayer (w := spoiltDrafts) rfl he (by rw [hsettings]) (of_decide_eq_true hpaths)
      hnames hcover).2 [] (by rw [hsettings]; rfl)
  exact ⟨whole, stepwise, report, reports, hwhole, hstepwise, hdrafts⟩

end GoScaffold
