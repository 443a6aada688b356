import GoScaffold.Proofs.Layer.HandlerBinding
import GoScaffold.Proofs.Layer.Repository
import GoScaffold.Proofs.Layer.Variable

/-!
# Names bound in the repository

The functions of a repository bind the variable of the entity next to names that are the same for every
entity, and so does the function of the handler that gets a record. A lookup binds the name of its field,
which gives way to the other names that it binds, but not to all that its body needs.
-/
namespace GoScaffold

open GoScaffold.Text GoScaffold.Naming GoScaffold.Template

theorem Source.allLinesAt_intersperse (depth : Int) (s : Source) (pieces : List Source) :
    allLinesAt depth ((s :: pieces).intersperse .blank) =
      linesAt depth s ++ pieces.flatMap fun t => "" :: linesAt depth t := by
  induction pieces generalizing s with
  | nil => simp [allLinesAt]
  | cons t pieces ih =>
    rw [List.intersperse_cons_cons, allLinesAt, allLinesAt, ih, List.flatMap_cons]
    rfl

theorem piecesAt_textOf {ls : List String} (h : ∀ l ∈ ls, '\n' ∉ l.toList) :
    piecesAt '\n' (textOf ls).toList = (ls ++ [""]).map String.toList := by
  rw [← textLines_textOf h, textLines, Text.splitAt, List.map_map]
  simp [Function.comp_def]

namespace Entity

variable {e : Entity}

/-- The function that a method of the repository becomes. -/
def methodFunction (m : Method) : GoFunction String := m.function (Source.allLinesAt 1 m.body)

theorem functionsAmong_methods {type : String} {methods : List Method}
    (h : ∀ m ∈ methods, m.IsReadable ∧ IsPlainMethod m) (ls : List (List Char)) :
    functionsAmong type.toList
        ((methods.flatMap fun m => "" :: Source.linesAt 0 (m.source ⟨"r", "*" ++ type⟩)).map
          String.toList ++ ls) =
      methods.map (fun m => (methodFunction m).map String.toList) ++
        functionsAmong type.toList ls := by
  induction methods with
  | nil => rfl
  | cons m methods ih =>
    rw [List.forall_mem_cons] at h
    have hblank : ∀ l ∈ [""].map String.toList, ¬ "func (".toList <+: l := by decide
    have hbody : ∀ l ∈ Source.allLinesAt 1 m.body, ['\t'] <+: l.toList := fun l hl =>
      (h.1.2.body l hl).2
    have hlines : (m :: methods).flatMap (fun m => "" :: Source.linesAt 0 (m.source ⟨"r", "*" ++ type⟩)) =
        [""] ++ (((methodStart type ++ (m.signature ++ " \x7b")) ::
          (Source.allLinesAt 1 m.body ++ ["\x7d"])) ++
            methods.flatMap fun m => "" :: Source.linesAt 0 (m.source ⟨"r", "*" ++ type⟩)) := by
      rw [List.flatMap_cons, linesAt_method, methodOpening_eq]
      simp
    rw [hlines, List.map_append, List.append_assoc, functionsAmong_of_forall hblank, List.map_append,
      List.append_assoc, h.1.1.functionsAmong type hbody, ih h.2]
    rfl

/-- The functions of the implementation are the methods of the repository, whatever the head. -/
theorem functionsOn_source (h : e.IsDescribed) :
    functionsOn e.repositoryType (textOf (Source.allLinesAt 0 e.repositorySource)) =
      e.repositoryMethods.map methodFunction := by
  have hmethods : ∀ m ∈ e.repositoryMethods, m.IsReadable ∧ IsPlainMethod m := fun m hm =>
    ⟨isReadable_repositoryMethods h m hm, isPlainMethod_of_mem h m hm⟩
  have habove : ∀ l ∈ (Source.linesAt 0 e.repositoryStruct ++
      "" :: Source.linesAt 0 e.repositoryConstructorSource).map String.toList,
      ¬ "func (".toList <+: l := by
    rw [List.forall_mem_map, List.forall_mem_append, List.forall_mem_cons]
    exact ⟨e.not_opening.1, by decide, e.not_opening.2⟩
  have hlines : Source.allLinesAt 0 e.repositorySource =
      (Source.linesAt 0 e.repositoryStruct ++ "" :: Source.linesAt 0 e.repositoryConstructorSource) ++
        e.repositoryMethods.flatMap fun m =>
          "" :: Source.linesAt 0 (m.source ⟨"r", "*" ++ e.repositoryType⟩) := by
    rw [repositorySource, List.cons_append, Source.allLinesAt_intersperse, List.cons_append,
      List.nil_append, List.flatMap_cons, List.flatMap_map, List.append_assoc]
    rfl
  rw [functionsOn, piecesAt_textOf (newline_not_mem_repositorySource h), hlines, List.map_append,
    List.map_append, List.append_assoc, functionsAmong_of_forall habove, functionsAmong_methods hmethods]
  simp [functionsAmong, openedBy?, receiver?, cutAt?, GoFunction.map, Function.comp_def]

theorem lacks_variable (h : e.IsDescribed) : Lacks ['\t', ' ', ':'] e.variableName :=
  IsWord.lacks (goIdentifier_of_isTypeName h.name).1 (by decide)

theorem lacks_pluralVariable (h : e.IsDescribed) : Lacks ['\t', ' ', ':'] e.pluralVariableName :=
  IsWord.lacks (goIdentifier_of_isIdentifier (isIdentifier_plural h.name)).1 (by decide)

theorem boundOn_return {rest : String} (h : rest.toList.head? ≠ some ':') :
    boundOn ("\t" ++ ("return " ++ rest)) = [] := by
  have hline : "\t" ++ ("return " ++ rest) = "\t" ++ ("return" ++ " " ++ rest) := by
    simp
  rw [hline]
  exact boundOn_eq_nil (by simp [Lacks]) (by decide) h

def boundNames (body : List Source) : List (List String) :=
  ((Source.allLinesAt 1 body).map boundOn).filter (!·.isEmpty)

/-- A declaration, a query and the way out of a body bind the declared name and the result. -/
theorem boundNames_fetch {name declaration : String} (hname : Lacks ['\t', ' ', ':'] name)
    (hdeclares : boundOn ("\t" ++ declaration) = [name]) (query : String) :
    boundNames [.line declaration, .line ("result := " ++ query), failureCheck,
      .line ("return " ++ name ++ ", nil")] = [[name], ["result"]] := by
  have hdeclaration : declaration ≠ "" := by
    rintro rfl
    exact absurd hdeclares (by simp [boundOn, boundBy, statement?, declaredBy, assigned?, piecesAt, cutAt?])
  have hresult : boundOn ("\t" ++ ("result := " ++ query)) = ["result"] := by
    have hline : "result := " ++ query = "result" ++ " := " ++ query := by simp
    rw [hline, boundOn_assignment (by decide)]
  have hcheck : ((Source.linesAt 1 failureCheck).map boundOn).filter (!·.isEmpty) = [] := by decide
  have hreturn : boundOn ("\t" ++ ("return " ++ name ++ ", nil")) = [] := by
    rw [String.append_assoc]
    refine boundOn_return fun hhead => ?_
    rw [String.toList_append, List.head?_append, Option.or_eq_some_iff] at hhead
    rcases hhead with hhead | ⟨-, hhead⟩
    · exact hname ':' (by simp) (List.mem_of_head? hhead)
    · exact absurd hhead (by decide)
  have hlines : Source.allLinesAt 1 [.line declaration, .line ("result := " ++ query), failureCheck,
      .line ("return " ++ name ++ ", nil")] = ["\t" ++ declaration, "\t" ++ ("result := " ++ query)] ++
        (Source.linesAt 1 failureCheck ++ ["\t" ++ ("return " ++ name ++ ", nil")]) := by
    simp only [Source.allLinesAt, Source.linesAt]
    rw [indentedLine_one hdeclaration, indentedLine_one (by simp), indentedLine_one (by simp)]
    rfl
  rw [boundNames, hlines]
  simp only [List.map_append, List.filter_append, hcheck, List.map_cons, List.map_nil, hdeclares,
    hresult, hreturn]
  rfl

theorem boundNames_fetchOne (h : e.IsDescribed) (query : String) :
    boundNames (e.fetchOne query) = [[e.variableName], ["result"]] :=
  boundNames_fetch (lacks_variable h)
    (boundOn_assignment (fun c hc => lacks_variable h c (List.mem_append_left [':'] hc)) _) query

theorem boundNames_fetchAll (h : e.IsDescribed) (query : String) :
    boundNames (e.fetchAll query) = [[e.pluralVariableName], ["result"]] := by
  have hdeclares := boundOn_var (fun c hc => lacks_pluralVariable h c (List.mem_cons_of_mem _ hc))
    ("[]" ++ e.domainType)
  refine boundNames_fetch (lacks_pluralVariable h) ((congrArg boundOn ?_).trans hdeclares) query
  simp [← String.toList_inj]

theorem boundNames_return {text : String} {c : Char} (htext : "return ".toList ++ [c] <+: text.toList)
    (hc : c ≠ ':') : boundNames [.line text] = [] := by
  obtain ⟨rest, hrest⟩ := htext
  have htext : text = "return " ++ String.ofList (c :: rest) := by
    rw [← String.toList_inj, ← hrest]
    simp
  have hline : Source.allLinesAt 1 [.line text] = ["\t" ++ text] := by
    rw [Source.allLinesAt, Source.linesAt, indentedLine_one (htext ▸ by simp)]
    rfl
  rw [boundNames, hline, List.map_singleton, htext, boundOn_return (by simpa using hc)]
  rfl

theorem boundNames_body (e : Entity) :
    boundNames e.saveMethod.body = [] ∧ boundNames e.updateMethod.body = [] ∧
      boundNames e.deleteMethod.body = [] ∧ ∀ m ∈ e.transactionMethods, boundNames m.body = [] := by
  simp only [transactionMethods, List.forall_mem_cons, List.not_mem_nil, false_implies, implies_true,
    and_true]
  refine ⟨boundNames_return (c := 'r') ?_ ?_, boundNames_return (c := 'r') ?_ ?_,
    boundNames_return (c := 'r') ?_ ?_, boundNames_return (c := 't') ?_ ?_,
    boundNames_return (c := 't') ?_ ?_, boundNames_return (c := 't') ?_ ?_⟩
  all_goals simp

/-- The one function of a name binds no name twice unless the record has one of the names that stand
beside it. -/
def BindsApart (fs : List (GoFunction String)) (record : String) (p : String × List String) : Prop :=
  ∃ f, fs.filter (·.name == p.1) = [f] ∧ (f.BindsOnce ↔ record ∉ p.2)

def fixedNames : List (String × List String) := [
  ("Save", ["r"]), ("FindByID", ["r", "id", "result"]), ("Update", ["r"]), ("Delete", []),
  ("FindAll", [])]

def transactionNames : List (String × List String) := [
  ("SaveWithTx", ["r", "tx"]), ("UpdateWithTx", ["r", "tx"]), ("DeleteWithTx", [])]

/-- The functions that every repository has, with the names that stand beside the record. -/
def repositoryNames (e : Entity) : List (String × List String) :=
  fixedNames ++ if e.settings.transactions.truthy then transactionNames else []

/-- The functions of every handler, with the names that stand beside the record. -/
def handlerNames (e : Entity) : List (String × List String) := [
  ("Create" ++ e.name, []), ("Get" ++ e.name, ["h", "w", "r", "id", "err"]), ("Update" ++ e.name, []),
  ("Delete" ++ e.name, []), ("List" ++ e.pluralName, [])]

/-- Where no two functions have one name, each is the only one of its name. -/
theorem filter_name_eq {fs : List (GoFunction String)} (hnodup : (fs.map GoFunction.name).Nodup)
    {f : GoFunction String} (hf : f ∈ fs) : fs.filter (·.name == f.name) = [f] := by
  induction fs with
  | nil => cases hf
  | cons g fs ih =>
    rw [List.map_cons, List.nodup_cons] at hnodup
    rcases List.mem_cons.1 hf with rfl | hf
    · have hothers : fs.filter (·.name == f.name) = [] := List.filter_eq_nil_iff.2 fun g hg he =>
        hnodup.1 (beq_iff_eq.1 he ▸ List.mem_map_of_mem hg)
      rw [List.filter_cons_of_pos (by simp), hothers]
    · have hother : g.name ≠ f.name := fun he => hnodup.1 (he ▸ List.mem_map_of_mem hf)
      rw [List.filter_cons_of_neg (by simpa using hother), ih hnodup.2 hf]

section Methods

variable (h : e.IsDescribed) (hcolumns : ∀ m ∈ e.given, m.column ∉ Descriptor.systemColumns)

include h hcolumns

theorem filter_method {m : Method} (hm : m ∈ e.repositoryMethods) :
    (e.repositoryMethods.map methodFunction).filter (·.name == m.name) = [methodFunction m] := by
  have hnodup : ((e.repositoryMethods.map methodFunction).map GoFunction.name).Nodup := by
    rw [List.map_map]
    exact nodup_repositoryMethods h hcolumns
  exact filter_name_eq hnodup (List.mem_map_of_mem hm)

theorem bindsApart_method {m : Method} (hm : m ∈ e.repositoryMethods) {body : List (List String)}
    (hbody : boundNames m.body = body) {names : List String}
    (hnew : AllNew (("r" :: m.parameters.map Parameter.name) :: body) [] ↔ e.variableName ∉ names) :
    BindsApart (e.repositoryMethods.map methodFunction) e.variableName (m.name, names) := by
  refine ⟨methodFunction m, filter_method h hcolumns hm, ?_⟩
  rw [← hnew, ← hbody]
  rfl

theorem bindsApart_fixed : ∀ p ∈ fixedNames,
    BindsApart (e.repositoryMethods.map methodFunction) e.variableName p := by
  have hr : e.pluralVariableName ≠ "r" := pluralVariable_ne h (by decide)
  have hresult : e.pluralVariableName ≠ "result" := pluralVariable_ne h (by decide)
  obtain ⟨hsave, hupdate, hdelete, -⟩ := boundNames_body e
  have hmem : ∀ m ∈ [e.saveMethod, e.findMethod, e.updateMethod, e.deleteMethod, e.findAllMethod],
      m ∈ e.repositoryMethods := by
    simp [repositoryMethods]
  simp only [fixedNames, List.forall_mem_cons, List.not_mem_nil, false_implies, implies_true,
    and_true] at hmem ⊢
  obtain ⟨hsaveMem, hfindMem, hupdateMem, hdeleteMem, hfindAllMem⟩ := hmem
  refine ⟨bindsApart_method h hcolumns hsaveMem hsave ?_,
    bindsApart_method h hcolumns hfindMem (boundNames_fetchOne h _) ?_,
    bindsApart_method h hcolumns hupdateMem hupdate ?_,
    bindsApart_method h hcolumns hdeleteMem hdelete ?_,
    bindsApart_method h hcolumns hfindAllMem (boundNames_fetchAll h _) ?_⟩
  all_goals
    simp [saveMethod, findMethod, updateMethod, deleteMethod, findAllMethod, recordParameter,
      idParameter, AllNew, areNew_nil, areNew_singleton, hr, hresult.symm, eq_comm, and_assoc]

theorem bindsApart_transactions (htruthy : e.settings.transactions.truthy = true) :
    ∀ p ∈ transactionNames,
      BindsApart (e.repositoryMethods.map methodFunction) e.variableName p := by
  obtain ⟨-, -, -, hbodies⟩ := boundNames_body e
  have htransaction : ∀ m ∈ e.transactionMethods, ∀ names,
      (("r" :: m.parameters.map Parameter.name).Nodup ↔ e.variableName ∉ names) →
      BindsApart (e.repositoryMethods.map methodFunction) e.variableName (m.name, names) := by
    intro m hm names hnames
    have hmem : m ∈ e.repositoryMethods := by simp [repositoryMethods, htruthy, hm]
    exact bindsApart_method h hcolumns hmem (hbodies m hm) (by simpa [AllNew, areNew_nil] using hnames)
  simp only [transactionMethods, transactionNames, List.forall_mem_cons, List.not_mem_nil,
    false_implies, implies_true, and_true] at htransaction ⊢
  obtain ⟨hsave, hupdate, hdelete⟩ := htransaction
  refine ⟨hsave _ ?_, hupdate _ ?_, hdelete _ ?_⟩
  all_goals simp [recordParameter, transactionParameter, idParameter, eq_comm]

/-- Each fixed function of the repository binds its names once, but for the names beside the record. -/
theorem bindsApart_repositoryNames : ∀ p ∈ e.repositoryNames,
    BindsApart (e.repositoryMethods.map methodFunction) e.variableName p := by
  rw [repositoryNames, List.forall_mem_append]
  refine ⟨bindsApart_fixed h hcolumns, ?_⟩
  split_ifs with htruthy
  · exact bindsApart_transactions h hcolumns htruthy
  · simp

end Methods

/-- Only the function that gets a record binds a name of its own in the handler. -/
theorem bindsApart_handlerNames {fs : List (GoFunction String)}
    (hfs : fs.map (fun f => (f.name, f.bound)) = e.handlerFunctions) :
    ∀ p ∈ e.handlerNames, BindsApart fs e.variableName p := by
  have hnames : fs.map GoFunction.name = e.handlerFunctions.map Prod.fst := by
    rw [← hfs, List.map_map]
    rfl
  have hnodup : (fs.map GoFunction.name).Nodup := by
    rw [hnames]
    simp [handlerFunctions, ← String.toList_inj]
  have hapart {name : String} {bound : List (List String)} (hmem : (name, bound) ∈ e.handlerFunctions)
      {names : List String} (hnew : AllNew bound [] ↔ e.variableName ∉ names) :
      BindsApart fs e.variableName (name, names) := by
    rw [← hfs] at hmem
    obtain ⟨f, hf, he⟩ := List.mem_map.1 hmem
    cases he
    exact ⟨f, filter_name_eq hnodup hf, hnew⟩
  have hget : AllNew [["h", "w", "r"], ["id", "err"], [e.variableName, "err"]] [] ↔
      e.variableName ∉ ["h", "w", "r", "id", "err"] := by
    have hid : AreNew ["id", "err"] ["h", "w", "r"] := by simp [AreNew]
    have hrecord : AreNew [e.variableName, "err"] ["h", "w", "r", "id", "err"] ↔ _ :=
      areNew_err (by simp)
    simp [AllNew, areNew_nil, hid, hrecord]
  simp only [handlerNames, List.forall_mem_cons, List.not_mem_nil, false_implies, implies_true, and_true]
  refine ⟨hapart (List.mem_of_getElem? (i := 0) rfl) ?_,
    hapart (List.mem_of_getElem? (i := 1) rfl) hget, hapart (List.mem_of_getElem? (i := 2) rfl) ?_,
    hapart (List.mem_of_getElem? (i := 3) rfl) ?_, hapart (List.mem_of_getElem? (i := 4) rfl) ?_⟩
  all_goals simp [AllNew, AreNew]

section Lookup

variable {a : Accessor} {m : Member}

/-- The lookup of a searchable field is the one function of its name. -/
theorem exists_lookup (h : e.IsDescribed)
    (hcolumns : ∀ m ∈ e.given, m.column ∉ Descriptor.systemColumns) (hm : m ∈ e.searchableMembers) :
    ∃ a f, a.field = m.name ∧
      (functionsOn e.repositoryType (textOf (Source.allLinesAt 0 e.repositorySource))).filter
        (·.name == "FindBy" ++ m.name) = [f] ∧
      f.bound = [["r", e.lookupParameter a], [e.foundVariable m], ["result"]] ∧
      f.body = Source.allLinesAt 1 (e.lookupBody a) := by
  obtain ⟨a, -, hmethod, hfield, -, hunique, hmem⟩ := exists_accessor h hm
  refine ⟨a, methodFunction (e.lookupMethod a), hfield, ?_, ?_, rfl⟩
  · rw [functionsOn_source h, ← hmethod]
    exact filter_method h hcolumns hmem
  · have hbody : boundNames (e.lookupBody a) = [[e.foundVariable m], ["result"]] := by
      rw [lookupBody, foundVariable, hunique]
      split_ifs
      · exact boundNames_fetchOne h _
      · exact boundNames_fetchAll h _
    exact congrArg (["r", e.lookupParameter a] :: ·) hbody

theorem mem_fetch {declaration type : String} {more : List Source}
    (htype : type.toList <:+: ("\t" ++ declaration).toList) (hdeclaration : declaration ≠ "")
    (hmore : failureCheck ∈ more) :
    (∃ l ∈ Source.allLinesAt 1 (.line declaration :: more), type.toList <:+: l.toList) ∧
      "\t\treturn nil, result.Error" ∈ Source.allLinesAt 1 (.line declaration :: more) := by
  have hcheck : "\t\treturn nil, result.Error" ∈ Source.linesAt 1 failureCheck := by decide
  rw [Source.allLinesAt, Source.linesAt, Source.allLinesAt_eq, indentedLine_one hdeclaration]
  exact ⟨⟨_, List.mem_append_left _ (List.mem_singleton_self _), htype⟩,
    List.mem_append_right _ (List.mem_flatMap.2 ⟨failureCheck, hmore, hcheck⟩)⟩

/-- A lookup writes the type of a record, from the package of the domain, and leaves with `nil` if its
query fails. -/
theorem mem_lookupBody (e : Entity) (a : Accessor) :
    (∃ l ∈ Source.allLinesAt 1 (e.lookupBody a), ("domain." ++ e.name).toList <:+: l.toList) ∧
      "\t\treturn nil, result.Error" ∈ Source.allLinesAt 1 (e.lookupBody a) := by
  have hone : ("domain." ++ e.name).toList <:+:
      ("\t" ++ (e.variableName ++ " := " ++ e.emptyRecord)).toList :=
    ⟨('\t' :: e.variableName.toList) ++ " := &".toList, "\x7b\x7d".toList,
      by simp [emptyRecord, domainType]⟩
  have hseveral : ("domain." ++ e.name).toList <:+:
      ("\t" ++ ("var " ++ e.pluralVariableName ++ " []" ++ e.domainType)).toList :=
    ⟨"\tvar ".toList ++ e.pluralVariableName.toList ++ " []".toList, [], by simp [domainType]⟩
  rw [lookupBody]
  split_ifs
  · exact mem_fetch hone (by simp) (by simp)
  · exact mem_fetch hseveral (by simp) (by simp)

end Lookup

section Descriptor

variable {catalog : Catalog} {text : Option String} {fields : List Field} {name : String}
  {settings : Settings}

theorem declares_repositorySource (e : Entity) : Piece.repositoryImplementation.Declares e
    (goHeader "repository" e.implementationImports ++
      textOf (Source.allLinesAt 0 e.repositorySource)) := by
  rw [goHeader_eq, ← textOf_append]
  exact declares_implementation e

/-- In each function that every repository or every handler has, the names that are bound together at
the top level are new, unless the variable of the entity is one of those that stand beside it. Nothing
keeps the name of an entity from being one of these: only a lookup gives way to them. -/
theorem functions_bindApart (hread : Descriptor.read catalog text = .ok fields)
    (h : ofFields name fields settings = .ok e) :
    (∃ code, Piece.repositoryImplementation.Declares e
        (goHeader "repository" e.implementationImports ++ code) ∧
      ∀ p ∈ e.repositoryNames, BindsApart (functionsOn e.repositoryType code) e.variableName p) ∧
    ∀ advice, Settings.moduleAdvice settings.moduleName = .ok advice →
      ∃ code, Piece.handler.Declares e
          (textOf (sectionedLines "http" standardImports e.handlerImports) ++ code) ∧
        ∀ p ∈ e.handlerNames, BindsApart (functionsOn (e.name ++ "Handler") code) e.variableName p := by
  have hdescribed := isDescribed_of_read hread h
  have hsettings : e.settings = settings := (ofFields_ok h).2.2.1
  refine ⟨⟨textOf (Source.allLinesAt 0 e.repositorySource), declares_repositorySource e, ?_⟩,
    fun advice hadvice => ?_⟩
  · rw [functionsOn_source hdescribed]
    exact bindsApart_repositoryNames hdescribed (column_of_read hread h)
  · rw [← hsettings] at hadvice
    obtain ⟨code, hcode, hfunctions⟩ := exists_handlerFunctions hdescribed hadvice
    exact ⟨code, hcode, bindsApart_handlerNames hfunctions⟩

/-- What finds a result in the repository binds `result` twice, while the handler that gets one binds
its names once. -/
theorem functions_bindApart_result : ∃ (fields : List Field) (e : Entity),
    Descriptor.read .builtin (some "name:string") = .ok fields ∧
      ofFields "Result" fields {} = .ok e ∧
      (∃ code f, Piece.repositoryImplementation.Declares e
          (goHeader "repository" e.implementationImports ++ code) ∧
        (functionsOn e.repositoryType code).filter (·.name == "FindByID") = [f] ∧ ¬ f.BindsOnce) ∧
      ∃ code f, Piece.handler.Declares e
          (textOf (sectionedLines "http" standardImports e.handlerImports) ++ code) ∧
        (functionsOn (e.name ++ "Handler") code).filter (·.name == "Get" ++ e.name) = [f] ∧
          f.BindsOnce := by
  obtain ⟨fields, hread, hfields⟩ := exists_of_toOption_any
    (r := Descriptor.read .builtin (some "name:string"))
    (p := fun fields => (ofFields "Result" fields {}).toOption.any
      fun e => e.variableName == "result") (by decide +kernel)
  obtain ⟨e, he, hvariable⟩ := exists_of_toOption_any hfields
  obtain ⟨⟨code, hcode, hnames⟩, hhandler⟩ := functions_bindApart hread he
  obtain ⟨advice, hadvice⟩ := Settings.moduleAdvice_text defaultModule
  obtain ⟨handler, hdeclares, hhandlerNames⟩ := hhandler advice hadvice
  obtain ⟨f, hf, hbinds⟩ := hnames ("FindByID", ["r", "id", "result"])
    (by simp [repositoryNames, fixedNames])
  obtain ⟨g, hg, hgets⟩ := hhandlerNames ("Get" ++ e.name, ["h", "w", "r", "id", "err"])
    (by simp [handlerNames])
  rw [beq_iff_eq.1 hvariable] at hbinds hgets
  exact ⟨fields, e, hread, he, ⟨code, f, hcode, hf, hbinds.not.2 (by decide)⟩,
    handler, g, hdeclares, hg, hgets.2 (by simp)⟩

/-- The parameter of a lookup is called neither like the receiver nor like what the body binds. -/
theorem lookup_bindsParameter_apart (hread : Descriptor.read catalog text = .ok fields)
    (h : ofFields name fields settings = .ok e) :
    ∃ code, Piece.repositoryImplementation.Declares e
        (goHeader "repository" e.implementationImports ++ code) ∧
      ∀ m ∈ e.searchableMembers, ∃ f parameter,
        (functionsOn e.repositoryType code).filter (·.name == "FindBy" ++ m.name) = [f] ∧
        f.bound = [["r", parameter], [e.foundVariable m], ["result"]] ∧
        parameter ∉ ["r", "result", e.foundVariable m] := by
  have hdescribed := isDescribed_of_read hread h
  refine ⟨textOf (Source.allLinesAt 0 e.repositorySource), declares_repositorySource e, fun m hm => ?_⟩
  obtain ⟨a, f, hfield, hf, hbound, -⟩ := exists_lookup hdescribed (column_of_read hread h) hm
  have hgiven : m ∈ e.given := hdescribed.userMembers ▸ List.mem_of_mem_filter hm
  exact ⟨f, e.lookupParameter a, hf, hbound,
    lookupParameter_not_mem hdescribed (hdescribed.fieldName m hgiven) hfield⟩

/-- Results that are looked up by a result. -/
theorem lookup_bindsParameter_result : ∃ (fields : List Field) (e : Entity),
    Descriptor.read .builtin (some "result:string") = .ok fields ∧
      ofFields "Result" fields {} = .ok e ∧
      ∃ code f parameter, Piece.repositoryImplementation.Declares e
          (goHeader "repository" e.implementationImports ++ code) ∧
        (functionsOn e.repositoryType code).filter (·.name == "FindByResult") = [f] ∧
        f.bound = [["r", parameter], ["results"], ["result"]] ∧
        parameter ∉ ["r", "result", "results"] := by
  obtain ⟨fields, hread, hfields⟩ := exists_of_toOption_any
    (r := Descriptor.read .builtin (some "result:string"))
    (p := fun fields => (ofFields "Result" fields {}).toOption.any fun e =>
      e.searchableMembers.any fun m => m.name == "Result" && e.foundVariable m == "results")
    (by decide +kernel)
  obtain ⟨e, he, hsearchable⟩ := exists_of_toOption_any hfields
  obtain ⟨m, hm, hchecked⟩ := List.any_eq_true.1 hsearchable
  simp only [Bool.and_eq_true, beq_iff_eq] at hchecked
  obtain ⟨code, hcode, hlookups⟩ := lookup_bindsParameter_apart hread he
  obtain ⟨f, parameter, hf, hbound, hapart⟩ := hlookups m hm
  rw [hchecked.1] at hf
  rw [hchecked.2] at hbound hapart
  exact ⟨fields, e, hread, he, code, f, parameter, hcode, hf, hbound, hapart⟩

/-- The parameter of a lookup hides the package or the value that its body needs just when the column
is called so and the variable of the entity is not. -/
theorem lookup_hides_iff (hread : Descriptor.read catalog text = .ok fields)
    (h : ofFields name fields settings = .ok e) :
    ∃ code, Piece.repositoryImplementation.Declares e
        (goHeader "repository" e.implementationImports ++ code) ∧
      ∀ m ∈ e.searchableMembers, ∃ f parameter,
        (functionsOn e.repositoryType code).filter (·.name == "FindBy" ++ m.name) = [f] ∧
        f.bound.head? = some ["r", parameter] ∧
        (∃ l ∈ f.body, ("domain." ++ e.name).toList <:+: l.toList) ∧
        "\t\treturn nil, result.Error" ∈ f.body ∧
        ∀ needed ∈ ["domain", "nil"],
          (parameter = needed ↔ m.column = needed ∧ e.variableName ≠ needed) := by
  have hdescribed := isDescribed_of_read hread h
  refine ⟨textOf (Source.allLinesAt 0 e.repositorySource), declares_repositorySource e, fun m hm => ?_⟩
  obtain ⟨a, f, hfield, hf, hbound, hbody⟩ := exists_lookup hdescribed (column_of_read hread h) hm
  have hgiven : m ∈ e.given := hdescribed.userMembers ▸ List.mem_of_mem_filter hm
  obtain ⟨htype, hleaves⟩ := mem_lookupBody e a
  refine ⟨f, e.lookupParameter a, hf, by rw [hbound]; rfl, hbody ▸ htype, hbody ▸ hleaves, ?_⟩
  have hname := hdescribed.fieldName m hgiven
  simp only [List.forall_mem_cons, List.not_mem_nil, false_implies, implies_true, and_true]
  constructor
  all_goals
    exact lookupParameter_eq_iff hdescribed hname hfield (by simp) (by decide) (by decide) (by decide)
      (by decide)

/-- Products with fields that are called like what the lookups need. -/
theorem lookup_hides_domain : ∃ (fields : List Field) (e : Entity),
    Descriptor.read .builtin (some "domain:string,nil:string") = .ok fields ∧
      ofFields "Product" fields {} = .ok e ∧
      ∃ code, Piece.repositoryImplementation.Declares e
          (goHeader "repository" e.implementationImports ++ code) ∧
        ∀ needed ∈ ["domain", "nil"], ∃ m ∈ e.searchableMembers, ∃ f,
          (functionsOn e.repositoryType code).filter (·.name == "FindBy" ++ m.name) = [f] ∧
          f.bound.head? = some ["r", needed] ∧ m.column = needed := by
  obtain ⟨fields, hread, hfields⟩ := exists_of_toOption_any
    (r := Descriptor.read .builtin (some "domain:string,nil:string"))
    (p := fun fields => (ofFields "Product" fields {}).toOption.any fun e =>
      e.variableName == "product" && (e.searchableMembers.map Member.column == ["domain", "nil"]))
    (by decide +kernel)
  obtain ⟨e, he, hchecked⟩ := exists_of_toOption_any hfields
  simp only [Bool.and_eq_true, beq_iff_eq] at hchecked
  obtain ⟨hvariable, hcolumns⟩ := hchecked
  obtain ⟨code, hcode, hlookups⟩ := lookup_hides_iff hread he
  refine ⟨fields, e, hread, he, code, hcode, fun needed hneeded => ?_⟩
  obtain ⟨m, hm, hcolumn⟩ := List.mem_map.1 (hcolumns ▸ hneeded)
  obtain ⟨f, parameter, hf, hbound, -, -, hhides⟩ := hlookups m hm
  have hother : e.variableName ≠ needed := by
    rintro rfl
    simp [hvariable] at hneeded
  exact ⟨m, hm, f, hf, (hhides needed hneeded).2 ⟨hcolumn, hother⟩ ▸ hbound, hcolumn⟩

end Descriptor

end Entity

end GoScaffold
