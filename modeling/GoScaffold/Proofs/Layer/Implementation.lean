import GoScaffold.Proofs.Layer.InterfaceCatalog

/-!
# The implementation of a repository

The lines of the file that implements the repository of an entity, and that its type has the methods
of the repository.
-/
namespace GoScaffold

open GoScaffold.Text GoScaffold.Naming GoScaffold.Template

namespace Source

theorem allLinesAt_eq (depth : Int) (pieces : List Source) :
    allLinesAt depth pieces = pieces.flatMap (linesAt depth) := by
  induction pieces with
  | nil => rfl
  | cons s pieces ih => rw [allLinesAt, ih, List.flatMap_cons]

/-- What is set apart by blank lines has its own lines and blank ones. -/
theorem mem_linesAt_intersperse {depth : Int} {pieces : List Source} {l : String}
    (h : l ∈ allLinesAt depth (pieces.intersperse .blank)) :
    l = "" ∨ ∃ s ∈ pieces, l ∈ linesAt depth s := by
  induction pieces with
  | nil => simp [allLinesAt] at h
  | cons s pieces ih =>
    cases pieces with
    | nil => exact Or.inr ⟨s, by simp, by simpa [allLinesAt] using h⟩
    | cons t pieces =>
      rw [List.intersperse_cons_cons, allLinesAt, allLinesAt, List.mem_append, List.mem_append] at h
      rcases h with h | h | h
      · exact Or.inr ⟨s, by simp, h⟩
      · exact Or.inl (by simpa [linesAt] using h)
      · exact (ih h).imp_right fun ⟨u, hu, hl⟩ => ⟨u, by simp [hu], hl⟩

/-- What comes before one of the pieces are lines of the pieces in front of it, and blank ones. -/
theorem exists_linesAt_intersperse (depth : Int) (above : List Source) (s : Source)
    (below : List Source) : ∃ before after,
      allLinesAt depth ((above ++ s :: below).intersperse .blank) =
        before ++ (linesAt depth s ++ after) ∧
      ∀ l ∈ before, l = "" ∨ ∃ t ∈ above, l ∈ linesAt depth t := by
  induction above with
  | nil =>
    cases below with
    | nil => exact ⟨[], [], by simp [allLinesAt], by simp⟩
    | cons t below =>
      exact ⟨[], allLinesAt depth (.blank :: (t :: below).intersperse .blank), rfl, by simp⟩
  | cons t above ih =>
    obtain ⟨before, after, hlines, hbefore⟩ := ih
    obtain ⟨u, rest, hrest⟩ : ∃ u rest, above ++ s :: below = u :: rest :=
      List.exists_cons_of_ne_nil (by simp)
    refine ⟨linesAt depth t ++ (linesAt depth .blank ++ before), after, ?_, ?_⟩
    · rw [hrest] at hlines
      rw [List.cons_append, hrest, List.intersperse_cons_cons, allLinesAt, allLinesAt, hlines]
      simp
    · simp only [List.forall_mem_append]
      refine ⟨fun l hl => Or.inr ⟨t, by simp, hl⟩, by simp [linesAt], fun l hl => ?_⟩
      exact (hbefore l hl).imp_right fun ⟨u, hu, hl⟩ => ⟨u, by simp [hu], hl⟩

theorem filterMap_intersperse {α : Type} {f : String → Option α} (hblank : f "" = none) (depth : Int)
    (pieces : List Source) : (allLinesAt depth (pieces.intersperse .blank)).filterMap f =
      (allLinesAt depth pieces).filterMap f := by
  induction pieces with
  | nil => rfl
  | cons s pieces ih =>
    cases pieces with
    | nil => rfl
    | cons t pieces =>
      have hline : (linesAt depth .blank).filterMap f = [] := by simp [linesAt, hblank]
      rw [List.intersperse_cons_cons, allLinesAt, allLinesAt, allLinesAt, List.filterMap_append,
        List.filterMap_append, List.filterMap_append, ih, hline, List.nil_append]

end Source

namespace Entity

variable {e : Entity}

def implementationLines (e : Entity) : List String :=
  headerLines "repository" e.implementationImports ++ Source.allLinesAt 0 e.repositorySource

theorem declares_implementation (e : Entity) :
    Piece.repositoryImplementation.Declares e (textOf e.implementationLines) := by
  refine Piece.declares_source (congrArg Content.source ?_)
  rw [implementationLines, textOf_append, ← goHeader_eq, ← Source.build_eq]

/-- Indented, and on one line. -/
def IsBodyLine (l : String) : Prop := '\n' ∉ l.toList ∧ ['\t'] <+: l.toList

theorem newline_not_mem_name (h : e.IsDescribed) : '\n' ∉ e.name.toList := h.name.word.not_mem (by decide)

theorem newline_not_mem_lookup (h : e.IsDescribed) {a : Accessor} (ha : a ∈ e.accessors) :
    '\n' ∉ a.method.toList ∧ '\n' ∉ a.column.toList ∧ '\n' ∉ a.goType.toList := by
  obtain ⟨m, hm, -, hfield, htype⟩ := exists_of_mem_accessors ha
  refine ⟨(isWord_method h ha).not_mem (by decide), ?_, htype ▸ (lacks_type m).1 '\n' (by decide)⟩
  rw [Accessor.column, hfield]
  exact not_mem_join_lowerWords (h.fieldName m hm).word (by decide) (by decide)

theorem newline_not_mem_parameter (e : Entity) (a : Accessor) :
    '\n' ∉ (e.lookupParameter a).toList := by
  have hident := newline_not_mem_goIdentifier a.field
  rw [lookupParameter]
  split
  · simp [hident]
  · exact hident

theorem body_fetchOne (h : e.IsDescribed) {query : String} (hquery : '\n' ∉ query.toList) :
    ∀ l ∈ Source.allLinesAt 1 (e.fetchOne query), IsBodyLine l := by
  have hvariable : '\n' ∉ e.variableName.toList := newline_not_mem_goIdentifier _
  have hname := newline_not_mem_name h
  simp [fetchOne, failureCheck, Source.braces, Source.allLinesAt, Source.linesAt, Source.indentedLine, IsBodyLine, times,
    concat, emptyRecord, domainType, hvariable, hname, hquery]

theorem body_fetchAll (h : e.IsDescribed) {query : String} (hquery : '\n' ∉ query.toList) :
    ∀ l ∈ Source.allLinesAt 1 (e.fetchAll query), IsBodyLine l := by
  have hvariable : '\n' ∉ e.pluralVariableName.toList := newline_not_mem_goIdentifier _
  have hname := newline_not_mem_name h
  simp [fetchAll, failureCheck, Source.braces, Source.allLinesAt, Source.linesAt, Source.indentedLine, IsBodyLine, times,
    concat, domainType, hvariable, hname, hquery]

/-- A method that can stand in a file: its name is a word and its lines stay what they are. -/
structure IsPlainMethod (m : Method) : Prop where
  name : '(' ∉ m.name.toList
  signature : '\n' ∉ m.signature.toList
  body : ∀ l ∈ Source.allLinesAt 1 m.body, IsBodyLine l

theorem newline_not_mem_signature {m : Method} (hname : '\n' ∉ m.name.toList)
    (hparameters : ∀ p ∈ m.parameters, '\n' ∉ p.text.toList) (hresults : '\n' ∉ m.results.toList) :
    '\n' ∉ m.signature.toList := by
  have hjoin : '\n' ∉ (join ", " (m.parameters.map Parameter.text)).toList := fun hmem => by
    rcases mem_join hmem with hmem | ⟨t, ht, hmem⟩
    · exact absurd hmem (by decide)
    · obtain ⟨p, hp, rfl⟩ := List.mem_map.1 ht
      exact hparameters p hp hmem
  simp [Method.signature, hname, hjoin, hresults]

theorem isPlainMethod_lookup (h : e.IsDescribed) {a : Accessor} (ha : a ∈ e.accessors) :
    IsPlainMethod (e.lookupMethod a) := by
  obtain ⟨hmethod, hcolumn, htype⟩ := newline_not_mem_lookup h ha
  have hparameter := newline_not_mem_parameter e a
  have hvariable : '\n' ∉ e.variableName.toList := newline_not_mem_goIdentifier _
  have hplural : '\n' ∉ e.pluralVariableName.toList := newline_not_mem_goIdentifier _
  refine ⟨(isWord_method h ha).not_mem (by decide), newline_not_mem_signature hmethod ?_ ?_, ?_⟩
  · simp [lookupMethod, Parameter.text, hparameter, htype]
  · exact lacks_results h a '\n' (by decide)
  · simp only [lookupMethod, lookupBody]
    split
    · exact body_fetchOne h (by simp [hcolumn, hparameter, hvariable])
    · exact body_fetchAll h (by simp [hcolumn, hparameter, hplural])

theorem isPlainMethod_line {name results text : String} {parameters : List Parameter}
    (hname : '(' ∉ name.toList ∧ '\n' ∉ name.toList)
    (hparameters : ∀ p ∈ parameters, '\n' ∉ p.text.toList) (hresults : '\n' ∉ results.toList)
    (htext : text ≠ "" ∧ '\n' ∉ text.toList) :
    IsPlainMethod { name, parameters, results, body := [.line text] } := by
  refine ⟨hname.1, newline_not_mem_signature hname.2 hparameters hresults, ?_⟩
  simp [Source.allLinesAt, Source.linesAt, Source.indentedLine, IsBodyLine, times, concat, htext]

theorem isPlainMethod_of_mem (h : e.IsDescribed) : ∀ m ∈ e.repositoryMethods, IsPlainMethod m := by
  have hname := newline_not_mem_name h
  have hvariable : '\n' ∉ e.variableName.toList := newline_not_mem_goIdentifier _
  have hplural : '\n' ∉ e.pluralVariableName.toList := newline_not_mem_goIdentifier _
  have hrecord : '\n' ∉ e.recordParameter.text.toList := by
    simp [recordParameter, Parameter.text, domainType, hname, hvariable]
  have hid : '\n' ∉ idParameter.text.toList := by decide
  have htransaction : '\n' ∉ transactionParameter.text.toList := by decide
  have hempty : '\n' ∉ e.emptyRecord.toList := by simp [emptyRecord, domainType, hname]
  have hfind : IsPlainMethod e.findMethod := by
    refine ⟨by simp [findMethod], newline_not_mem_signature (by simp [findMethod]) ?_ ?_,
      body_fetchOne h ?_⟩
    · simpa [findMethod] using hid
    · simp [findMethod, domainType, hname]
    · simp [hvariable]
  have hfindAll : IsPlainMethod e.findAllMethod := by
    refine ⟨by simp [findAllMethod], newline_not_mem_signature (by simp [findAllMethod]) ?_ ?_,
      body_fetchAll h ?_⟩
    · simp [findAllMethod]
    · simp [findAllMethod, domainType, hname]
    · simp [hplural]
  have htransactions : ∀ m ∈ e.transactionMethods, IsPlainMethod m := by
    simp only [transactionMethods, List.forall_mem_cons, List.not_mem_nil, false_implies,
      implies_true, and_true]
    refine ⟨?_, ?_, ?_⟩
    all_goals
      refine isPlainMethod_line (by decide) ?_ (by decide) ?_
      · simp [hid, hrecord, htransaction]
      · simp [hvariable, hempty]
  simp only [repositoryMethods, List.forall_mem_append, List.forall_mem_cons, List.forall_mem_map,
    List.not_mem_nil, false_implies, implies_true, and_true]
  refine ⟨⟨⟨⟨?_, hfind⟩, fun a ha => isPlainMethod_lookup h ha⟩, ?_, ?_, hfindAll⟩, ?_⟩
  · exact isPlainMethod_line (by decide) (by simpa using hrecord) (by decide) (by simp [hvariable])
  · exact isPlainMethod_line (by decide) (by simpa using hrecord) (by decide) (by simp [hvariable])
  · exact isPlainMethod_line (by decide) (by simpa using hid) (by decide) (by simp [hempty])
  · split
    · exact htransactions
    · simp

theorem defined_of_toList {type l x : String} (rest : List Char) (hx : '(' ∉ x.toList)
    (hl : l.toList = ("func (r *" ++ type ++ ") ").toList ++ (x.toList ++ '(' :: rest)) :
    defined? type l = some x := by
  have hline : l = ("func (r *" ++ type ++ ") ") ++ (x ++ (String.singleton '(' ++ .ofList rest)) := by
    rw [← String.toList_inj, hl]
    simp
  rw [defined?, hline, behindStart?_append, Option.map_some, upTo_append hx]

theorem defined_eq_none {type l : String} (h : ¬ "func (".toList <+: l.toList) :
    defined? type l = none := by
  have hstart : startsWith l ("func (r *" ++ type ++ ") ") = false := by
    rw [← Bool.not_eq_true, startsWith, List.isPrefixOf_iff_prefix]
    intro hp
    refine h (List.IsPrefix.trans ?_ hp)
    simp
  rw [defined?, behindStart?, hstart]
  rfl

def methodOpening (type : String) (m : Method) : String :=
  "func (r *" ++ type ++ ") " ++ m.signature ++ " \x7b"

theorem linesAt_method (type : String) (m : Method) :
    Source.linesAt 0 (m.source ⟨"r", "*" ++ type⟩) =
      methodOpening type m :: Source.allLinesAt 1 m.body ++ ["\x7d"] := by
  simp [Method.source, methodOpening, Parameter.text, Source.linesAt, Source.indentedLine,
    Source.funcOpening, times, concat, ← String.toList_inj]

theorem newline_not_mem_repositoryType (h : e.IsDescribed) : '\n' ∉ e.repositoryType.toList := by
  simp [repositoryType, newline_not_mem_goIdentifier, newline_not_mem_name h]

theorem linesAt_struct (e : Entity) : Source.linesAt 0 e.repositoryStruct =
    ["type " ++ e.repositoryType ++ " struct \x7b", "\tdb *gorm.DB", "\x7d"] := by
  simp [repositoryStruct, Source.braces, Source.linesAt, Source.allLinesAt, Source.indentedLine,
    times, concat]

theorem linesAt_constructor (e : Entity) : Source.linesAt 0 e.repositoryConstructorSource = [
    "func " ++ (e.repositoryConstructor ++ "(db *gorm.DB) " ++ e.name ++ "Repository") ++ " \x7b",
    "\t" ++ ("return &" ++ e.repositoryType ++ "\x7bdb: db\x7d"), "\x7d"] := by
  simp [repositoryConstructorSource, Source.linesAt, Source.allLinesAt, Source.indentedLine,
    Source.funcOpening, times, concat]

theorem not_opening (e : Entity) :
    (∀ l ∈ Source.linesAt 0 e.repositoryStruct, ¬ "func (".toList <+: l.toList) ∧
      ∀ l ∈ Source.linesAt 0 e.repositoryConstructorSource, ¬ "func (".toList <+: l.toList := by
  rw [linesAt_struct, linesAt_constructor]
  simp [repositoryConstructor]

theorem newline_not_mem_repositorySource (h : e.IsDescribed) :
    ∀ l ∈ Source.allLinesAt 0 e.repositorySource, '\n' ∉ l.toList := by
  have hname := newline_not_mem_name h
  have htype := newline_not_mem_repositoryType h
  have hconstructor : '\n' ∉ e.repositoryConstructor.toList := by
    simp [repositoryConstructor, newline_not_mem_pascal, hname]
  intro l hl
  rcases Source.mem_linesAt_intersperse hl with rfl | ⟨s, hs, hl⟩
  · simp
  · simp only [List.cons_append, List.nil_append, List.mem_cons, List.mem_map] at hs
    rcases hs with rfl | rfl | ⟨m, hm, rfl⟩
    · have hall : ∀ l ∈ Source.linesAt 0 e.repositoryStruct, '\n' ∉ l.toList := by
        rw [linesAt_struct]
        simp [htype]
      exact hall l hl
    · have hall : ∀ l ∈ Source.linesAt 0 e.repositoryConstructorSource, '\n' ∉ l.toList := by
        rw [linesAt_constructor]
        simp [hconstructor, hname, htype]
      exact hall l hl
    · have hplain := isPlainMethod_of_mem h m hm
      rw [repositoryReceiver, linesAt_method, List.mem_append, List.mem_cons] at hl
      rcases hl with (rfl | hl) | hl
      · simp [methodOpening, htype, hplain.signature]
      · exact (hplain.body l hl).1
      · exact List.mem_singleton.1 hl ▸ (by decide)

section Read

variable {α : Type} {f : String → Option α} {type : String}

theorem filterMap_method (hf : ∀ l, ¬ "func (".toList <+: l.toList → f l = none) {m : Method}
    (h : IsPlainMethod m) : (Source.linesAt 0 (m.source ⟨"r", "*" ++ type⟩)).filterMap f =
      (f (methodOpening type m)).toList := by
  have hbody : (Source.allLinesAt 1 m.body).filterMap f = [] := by
    refine List.filterMap_eq_nil_iff.2 fun l hl => hf l fun ⟨t, ht⟩ => ?_
    obtain ⟨u, hu⟩ := (h.body l hl).2
    simp [← ht] at hu
  have hclosing : ["\x7d"].filterMap f = [] :=
    List.filterMap_cons_none (hf "\x7d" (by decide))
  rw [linesAt_method, List.filterMap_append, hclosing, List.append_nil, List.filterMap_cons, hbody]
  cases f (methodOpening type m) <;> rfl

/-- A reader of openings finds the methods of the repository. -/
theorem filterMap_source (h : e.IsDescribed)
    (hf : ∀ l, ¬ "func (".toList <+: l.toList → f l = none) :
    (Source.allLinesAt 0 e.repositorySource).filterMap f =
      e.repositoryMethods.filterMap fun m => f (methodOpening e.repositoryType m) := by
  have hmethods : (e.repositoryMethods.map (Method.source e.repositoryReceiver)).flatMap (fun s =>
      (Source.linesAt 0 s).filterMap f) =
        e.repositoryMethods.filterMap fun m => f (methodOpening e.repositoryType m) := by
    rw [List.flatMap_map, List.filterMap_eq_flatMap_toList]
    exact List.flatMap_congr fun m hm => filterMap_method hf (isPlainMethod_of_mem h m hm)
  have hstruct : (Source.linesAt 0 e.repositoryStruct).filterMap f = [] :=
    List.filterMap_eq_nil_iff.2 fun l hl => hf l (e.not_opening.1 l hl)
  have hconstructor : (Source.linesAt 0 e.repositoryConstructorSource).filterMap f = [] :=
    List.filterMap_eq_nil_iff.2 fun l hl => hf l (e.not_opening.2 l hl)
  rw [repositorySource, Source.filterMap_intersperse (hf "" (by decide)), Source.allLinesAt_eq,
    List.filterMap_flatMap, List.flatMap_append, hmethods, List.flatMap_cons, List.flatMap_cons,
    hstruct, hconstructor]
  simp

end Read

theorem defined_opening {type : String} {m : Method} (h : '(' ∉ m.name.toList) :
    defined? type (methodOpening type m) = some m.name := by
  let rest := join ", " (m.parameters.map Parameter.text) ++ ") " ++ m.results ++ " \x7b"
  refine defined_of_toList rest.toList h ?_
  simp [methodOpening, Method.signature, rest]

/-- The type has the methods of the repository, whatever the lines of the head. -/
theorem definedMethods_source (h : e.IsDescribed) {head : List String}
    (hhead : ∀ l ∈ head, '\n' ∉ l.toList ∧ ¬ "func (".toList <+: l.toList) :
    definedMethods e.repositoryType (textOf (head ++ Source.allLinesAt 0 e.repositorySource)) =
      e.repositoryMethods.map Method.name := by
  have hlines : ∀ l ∈ head ++ Source.allLinesAt 0 e.repositorySource, '\n' ∉ l.toList :=
    List.forall_mem_append.2 ⟨fun l hl => (hhead l hl).1, newline_not_mem_repositorySource h⟩
  have hheader : head.filterMap (defined? e.repositoryType) = [] :=
    List.filterMap_eq_nil_iff.2 fun l hl => defined_eq_none (hhead l hl).2
  have hmethods : e.repositoryMethods.filterMap (fun m =>
      defined? e.repositoryType (methodOpening e.repositoryType m)) =
        e.repositoryMethods.map Method.name := by
    rw [← List.filterMap_eq_map']
    exact List.filterMap_congr fun m hm => defined_opening (isPlainMethod_of_mem h m hm).name
  have hend : [""].filterMap (defined? e.repositoryType) = [] :=
    List.filterMap_cons_none (defined_eq_none (by decide))
  rw [definedMethods, textLines_textOf hlines, List.filterMap_append, List.filterMap_append, hheader,
    filterMap_source h fun l hl => defined_eq_none hl, hmethods, hend, List.append_nil,
    List.nil_append]

/-- The implementation defines the methods of the repository. -/
theorem definedMethods_implementation (h : e.IsDescribed)
    (himports : ∀ i ∈ e.implementationImports, Lacks ['\n'] i) :
    definedMethods e.repositoryType (textOf e.implementationLines) =
      e.repositoryMethods.map Method.name := by
  refine definedMethods_source h fun l hl => ⟨?_, fun ⟨t, ht⟩ => ?_⟩
  · exact lacks_headerLines (by decide) (by decide) himports l hl '\n' (by simp)
  · simpa [← ht] using head_headerLines _ _ l hl

end Entity

end GoScaffold
