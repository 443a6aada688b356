import GoScaffold.Proofs.Layer.Repository
import GoScaffold.Proofs.Layer.Spelled

/-!
# References in the files of an entity and of a repository

The fields of an entity refer to the packages of their types, and its business rules to those of
their expressions. Its check refers to none, since a reference to a field is not to a package.
-/
namespace GoScaffold.Entity

open GoScaffold.Text GoScaffold.Naming GoScaffold.Template

variable {e : Entity}

theorem reads_fieldLine {m : Member} (hname : IsTypeName m.name)
    (htag : Lacks ['\x60', '\n'] m.field.tag) :
    Reads .start [fieldLine m] m.type.imports .start := by
  have hname := outlined_typeName hname
  have htag := Outlined.tag htag
  have ht := mem_builtin m
  simp only [fieldLine, Member.goType]
  refine reads_of_outlines ?_
  generalize m.field.nullable = nullable
  generalize m.type = t at ht
  revert nullable t
  decide

theorem reads_fieldLines (h : e.IsDescribed) (htagged : e.IsTagged) :
    Reads .start (e.members.map fieldLine) (e.members.flatMap fun m => m.type.imports) .start := by
  refine .map ?_
  have hsystem (m : Member) (hword : IsWord m.name) (hcapital : m.name.toList.head?.any Char.isUpper)
      (htag : Lacks ['\x60', '\n'] m.field.tag) : Reads .start [fieldLine m] m.type.imports .start := by
    refine reads_fieldLine ⟨hword, ?_⟩ htag
    cases hm : m.name.toList with
    | nil => simp [hm] at hcapital
    | cons c cs => exact ⟨c, cs, rfl, by simpa [hm] using hcapital⟩
  have huser (m : Member) (hm : m ∈ e.given) :
      Reads .start [fieldLine m] m.type.imports .start := by
    have hm' : m ∈ e.userMembers := h.userMembers ▸ hm
    refine reads_fieldLine (h.fieldName m hm) fun c hc => ?_
    simp only [List.mem_cons, List.not_mem_nil, or_false] at hc
    rcases hc with rfl | rfl
    · exact backquote_not_mem_tag h htagged hm'
    · exact lacks_tag h htagged hm' '\n' (by decide)
  have hmanaged : ∀ m ∈ managedMembers, IsWord m.name ∧ m.name.toList.head?.any Char.isUpper = true ∧
      Lacks ['\x60', '\n'] m.field.tag := by decide
  exact forall_members huser fun m hm =>
    hsystem m (hmanaged m hm).1 (hmanaged m hm).2.1 (hmanaged m hm).2.2

/-- A check is a field of the receiver with one of three texts behind it. -/
theorem exists_of_mem_checks {c : ValueCheck} (hc : c ∈ e.checks) :
    ∃ m ∈ e.userMembers, ∃ behind ∈ [" == \"\"", " < 0", ".IsZero()"],
      c.condition = e.reference m ++ behind ∧ c.error = e.fieldError m := by
  have hall : ∀ t ∈ FieldType.builtin, ∀ s ∈ (t.checkExpression "").toOption.join,
      s ∈ [" == \"\"", " < 0", ".IsZero()"] := by decide
  obtain ⟨m, hm, hc⟩ := List.mem_filterMap.1 hc
  obtain ⟨behind, -, -, hcheck⟩ := FieldType.checkExpression_builtin m.type (mem_builtin m)
  have hempty := hall m.type (mem_builtin m)
  rw [hcheck] at hc hempty
  cases behind with
  | none => cases hc
  | some behind =>
    cases hc
    exact ⟨m, hm, behind, by simpa using hempty _ rfl, rfl, rfl⟩

theorem reads_checkLines (h : e.IsDescribed) {c : ValueCheck} (hc : c ∈ e.checks) :
    Reads .start (checkLines c) [] .start := by
  obtain ⟨m, hm, behind, hbehind, hcondition, herror⟩ := exists_of_mem_checks hc
  have hname := outlined_typeName h.name
  have hreceiver := outlined_receiver h
  have hmember := outlined_typeName (h.fieldName m (h.userMembers ▸ hm))
  simp only [checkLines, hcondition, herror, reference, fieldError]
  clear hcondition
  refine reads_of_outlines ?_
  revert behind
  decide

theorem reads_validateLines (h : e.IsDescribed) : Reads .start e.validateLines [] .start := by
  have hname := outlined_typeName h.name
  have hreceiver := outlined_receiver h
  have hopening : Reads .start ["", e.methodLine "Validate() error"] [] .start := by
    simp only [methodLine]
    exact reads_of_outlines (by decide)
  have hchecks := Reads.flatMap_nil fun c hc => reads_checkLines h hc
  have hclosing : Reads .start ["\treturn nil", "\x7d"] [] .start :=
    reads_of_outlines (by decide)
  simpa [validateLines] using
    Reads.ite fun (_ : e.settings.validation.truthy = true) => (hopening.append hchecks).append hclosing

set_option maxRecDepth 4000 in
theorem reads_ruleLines (h : e.IsDescribed) {r : BusinessRule} (hr : r ∈ BusinessRule.all) :
    Reads .start (e.ruleLines r) r.package.toList .start := by
  have hname := outlined_typeName h.name
  have hreceiver := outlined_receiver h
  simp only [ruleLines, methodLine, ruleExpression, BusinessRule.expression]
  refine reads_of_outlines ?_
  revert r
  decide

set_option maxRecDepth 4000 in
theorem reads_softDeleteLines (h : e.IsDescribed) : Reads .start e.softDeleteLines
    (if e.settings.softDelete.truthy then ["time"] else []) .start := by
  have hname := outlined_typeName h.name
  have hreceiver := outlined_receiver h
  simp only [softDeleteLines, methodLine]
  exact Reads.ite fun _ => reads_of_outlines (by decide)

/-- Behind its head, the file of an entity refers to what the head imports. -/
theorem reads_entityLines (h : e.IsDescribed) (htagged : e.IsTagged) :
    ∃ body, e.entityLines = headerLines "domain" e.entityImports ++ body ∧
      Reads .start body e.entityImports .start := by
  have hname := outlined_typeName h.name
  have htype : Reads .start [typeLine e.name "struct"] [] .start := by
    simp only [typeLine]
    exact reads_of_outlines (by decide)
  have hclosing : Reads .start ["\x7d"] [] .start := reads_of_outlines (by decide)
  have hrules := Reads.flatMap fun r hr => reads_ruleLines h (mem_businessRules (e := e) hr)
  have hbody := ((((htype.append (reads_fieldLines h htagged)).append hclosing).append
    (reads_validateLines h)).append hrules).append (reads_softDeleteLines h)
  refine ⟨_, ?_, hbody.congr fun name => ?_⟩
  · simp [entityLines, headerLines]
  · have hdeleted : e.settings.softDelete.truthy = true →
        "time" ∈ e.members.flatMap fun m => m.type.imports := fun htruthy =>
      List.mem_flatMap.2 ⟨.deletedAt, by simp [members, htruthy], by decide⟩
    rw [entityImports, mem_sortedOnce, List.filterMap_eq_flatMap_toList]
    simp only [List.mem_append, List.not_mem_nil, false_or, or_false]
    split
    · next htruthy =>
      have htime := hdeleted htruthy
      simp only [List.mem_singleton]
      constructor
      · rintro (hmem | rfl)
        · exact hmem
        · exact Or.inl htime
      · exact Or.inl
    · simp

end GoScaffold.Entity

/-! ## References in the implementation of a repository

Every method refers to the domain, a lookup also to the package of its parameter, and what takes
part in transactions to that of the database, as the type itself does. Of the names that hold the name
of the database nothing is known but how they are read. -/

namespace GoScaffold

open GoScaffold.Text GoScaffold.Naming GoScaffold.Template

/-- Pieces that are set apart by blank lines refer to what each of them does. -/
theorem Source.reads_intersperse {m : Mode} (hblank : Reads m [""] [] m) {pieces : List Source}
    {names : List (List String)}
    (h : List.Forall₂ (fun s ns => Reads m (linesAt 0 s) ns m) pieces names) :
    Reads m (allLinesAt 0 (pieces.intersperse .blank)) names.flatten m := by
  induction h with
  | nil => exact .nil _
  | @cons s ns pieces names hs hpieces ih =>
    cases hpieces with
    | nil => simpa [allLinesAt] using hs
    | cons =>
      rw [List.intersperse_cons_cons, allLinesAt, allLinesAt, List.flatten_cons]
      exact hs.append (hblank.append ih)

namespace Entity

variable {e : Entity}

theorem outlined_lookupParameter (h : e.IsDescribed) {a : Accessor} (ha : a ∈ e.accessors) :
    Outlined (e.lookupParameter a) [.gap .word] := by
  obtain ⟨m, hm, -, hfield, -⟩ := exists_of_mem_accessors ha
  have hname : IsTypeName a.field := hfield ▸ h.fieldName m hm
  obtain ⟨hword, c, cs, hcs, hc, -⟩ := goIdentifier_of_isIdentifier (isIdentifier_of_isTypeName hname)
  rw [lookupParameter]
  split
  · exact .word (isWord_append.2 ⟨hword, by decide⟩) ⟨c, cs ++ "Value".toList, by simp [hcs], hc⟩
  · exact .word hword ⟨c, cs, hcs, hc⟩

def receiverLines (type : String) (m : Method) : List String :=
  Source.linesAt 0 (m.source ⟨"r", "*" ++ type⟩)

/-- A method that refers to something with one receiver refers to it with another, and to what the
type of that one refers to. -/
theorem reads_receiverLines {m : Method} {names : List String}
    (hreads : Reads .start (receiverLines "X" m) names .start) {type : String} (htype : EndsInCode type)
    (hline : '\n' ∉ type.toList) :
    Reads .start (receiverLines type m) (names ++ referencesIn type) .start := by
  have hopening (type : String) :
      methodOpening type m = "func (r *" ++ type ++ (") " ++ m.signature ++ " \x7b") := by
    simp only [methodOpening, String.append_assoc]
  rw [receiverLines, linesAt_method, hopening, List.cons_append] at hreads ⊢
  exact hreads.replace rfl rfl (by simp [endsWord, continuesName, startsName]) htype hline

def fixedMethods (e : Entity) : List Method :=
  [e.saveMethod, e.findMethod, e.updateMethod, e.deleteMethod, e.findAllMethod]

theorem receiverLines_fixedMethods (e : Entity) (type : String) :
    e.fixedMethods.map (receiverLines type) = [
      ["func (r *" ++ type ++ ") Save(" ++ e.variableName ++ " *domain." ++ e.name ++ ") error \x7b",
        "\treturn r.db.Create(" ++ e.variableName ++ ").Error", "\x7d"],
      ["func (r *" ++ type ++ ") FindByID(id uint) (*domain." ++ e.name ++ ", error) \x7b",
        "\t" ++ e.variableName ++ " := &domain." ++ e.name ++ "\x7b\x7d",
        "\tresult := r.db.First(" ++ e.variableName ++ ", id)",
        "\tif result.Error != nil \x7b", "\t\treturn nil, result.Error", "\t\x7d",
        "\treturn " ++ e.variableName ++ ", nil", "\x7d"],
      ["func (r *" ++ type ++ ") Update(" ++ e.variableName ++ " *domain." ++ e.name ++ ") error \x7b",
        "\treturn r.db.Save(" ++ e.variableName ++ ").Error", "\x7d"],
      ["func (r *" ++ type ++ ") Delete(id uint) error \x7b",
        "\treturn r.db.Delete(&domain." ++ e.name ++ "\x7b\x7d, id).Error", "\x7d"],
      ["func (r *" ++ type ++ ") FindAll() ([]domain." ++ e.name ++ ", error) \x7b",
        "\tvar " ++ e.pluralVariableName ++ " []domain." ++ e.name,
        "\tresult := r.db.Find(&" ++ e.pluralVariableName ++ ")",
        "\tif result.Error != nil \x7b", "\t\treturn nil, result.Error", "\t\x7d",
        "\treturn " ++ e.pluralVariableName ++ ", nil", "\x7d"]] := by
  simp [fixedMethods, receiverLines, linesAt_method, methodOpening, Method.signature, saveMethod,
    findMethod, updateMethod, deleteMethod, findAllMethod, fetchOne, fetchAll, failureCheck,
    Source.braces, recordParameter, idParameter, domainType, emptyRecord, join, Parameter.text,
    Source.allLinesAt, Source.linesAt, Source.indentedLine, times, concat, String.append_assoc]
  simp [← String.toList_inj]

section Methods

variable (h : e.IsDescribed)

include h

set_option maxRecDepth 4000 in
theorem reads_fixedMethods :
    ∀ m ∈ e.fixedMethods, Reads .start (receiverLines "X" m) ["domain"] .start := by
  have hname := outlined_typeName h.name
  have hvariable := outlined_variableName h
  have hplural := outlined_pluralVariableName h
  have hlines : ∀ ls ∈ e.fixedMethods.map (receiverLines "X"), Reads .start ls ["domain"] .start := by
    rw [receiverLines_fixedMethods]
    simp only [List.forall_mem_cons, List.not_mem_nil, false_implies, implies_true, and_true]
    refine ⟨?_, ?_, ?_, ?_, ?_⟩ <;> exact reads_of_outlines (by decide)
  rwa [List.forall_mem_map] at hlines

set_option maxRecDepth 4000 in
theorem reads_transactionMethods :
    ∀ m ∈ e.transactionMethods, Reads .start (receiverLines "X" m) ["domain", "gorm"] .start := by
  have hname := outlined_typeName h.name
  have hvariable := outlined_variableName h
  simp only [transactionMethods, List.forall_mem_cons, List.not_mem_nil, false_implies, implies_true,
    and_true]
  refine ⟨?_, ?_, ?_⟩
  all_goals
    rw [receiverLines, linesAt_method]
    simp [methodOpening, Method.signature, recordParameter, idParameter, transactionParameter,
      domainType, emptyRecord, join, Parameter.text, Source.allLinesAt,
      Source.linesAt, Source.indentedLine, times, concat]
    exact reads_of_outlines (by decide)

set_option maxRecDepth 4000 in
theorem reads_lookupMethod {m : Member} (hm : m ∈ e.given) {a : Accessor} (ha : a ∈ e.accessors)
    (hmethod : a.method = "FindBy" ++ m.name) (hfield : a.field = m.name)
    (htype : a.goType = m.type.goType) :
    Reads .start (receiverLines "X" (e.lookupMethod a)) ("domain" :: m.type.imports) .start := by
  have hname := outlined_typeName h.name
  have hmember := outlined_typeName (h.fieldName m hm)
  have hvariable := outlined_variableName h
  have hplural := outlined_pluralVariableName h
  have hparameter := outlined_lookupParameter h ha
  have hcolumn : Outlined a.column [.gap .phrase] := outlined_snake (hfield ▸ (h.fieldName m hm).word)
  have ht := mem_builtin m
  rw [receiverLines, linesAt_method]
  cases hunique : a.isUnique
  all_goals
    simp [methodOpening, Method.signature, lookupMethod, lookupBody, Accessor.results, hunique, hmethod,
      htype, fetchOne, fetchAll, failureCheck, Source.braces, domainType, emptyRecord, join,
      Parameter.text, Source.allLinesAt, Source.linesAt, Source.indentedLine, times, concat]
    refine reads_of_outlines ?_
    generalize m.type = t at ht
    revert t
    decide

theorem reads_lookupMethods : List.Forall₂ (fun m names => Reads .start (receiverLines "X" m) names .start)
    (e.accessors.map e.lookupMethod) (e.searchableMembers.map fun m => "domain" :: m.type.imports) := by
  have hgiven : ∀ m ∈ e.searchableMembers, m ∈ e.given := fun m hm =>
    h.userMembers ▸ List.mem_of_mem_filter hm
  rw [accessors_eq h, List.map_map, List.forall₂_map_left_iff, List.forall₂_map_right_iff,
    List.forall₂_same]
  exact fun m hm => reads_lookupMethod h (hgiven m hm)
    (accessors_eq h ▸ List.mem_map_of_mem hm) rfl rfl rfl

theorem exists_reads_transactionMethods :
    ∃ names, List.Forall₂ (fun m ns => Reads .start (receiverLines "X" m) ns .start)
      (if e.settings.transactions.truthy then e.transactionMethods else []) names ∧
      names.flatten ⊆ ["domain", "gorm"] := by
  split
  · refine ⟨e.transactionMethods.map fun _ => ["domain", "gorm"], ?_, by simp [transactionMethods]⟩
    rw [List.forall₂_map_right_iff, List.forall₂_same]
    exact reads_transactionMethods h
  · exact ⟨[], .nil, by simp⟩

/-- The methods in their order with what each of them refers to. -/
theorem exists_reads_repositoryMethods :
    ∃ names, List.Forall₂ (fun m ns => Reads .start (receiverLines "X" m) ns .start)
      e.repositoryMethods names ∧ "domain" ∈ names.flatten ∧
      ∀ name, name ≠ "domain" → name ≠ "gorm" →
        (name ∈ names.flatten ↔ name ∈ e.searchableMembers.flatMap fun m => m.type.imports) := by
  have hfixed := reads_fixedMethods h
  simp only [fixedMethods, List.forall_mem_cons] at hfixed
  obtain ⟨hsave, hfind, hupdate, hdelete, hfindAll, -⟩ := hfixed
  obtain ⟨names, htransactions, hnames⟩ := exists_reads_transactionMethods h
  have hfirst : List.Forall₂ (fun m ns => Reads .start (receiverLines "X" m) ns .start)
      [e.saveMethod, e.findMethod] [["domain"], ["domain"]] := .cons hsave (.cons hfind .nil)
  have hlast : List.Forall₂ (fun m ns => Reads .start (receiverLines "X" m) ns .start)
      [e.updateMethod, e.deleteMethod, e.findAllMethod] [["domain"], ["domain"], ["domain"]] :=
    .cons hupdate (.cons hdelete (.cons hfindAll .nil))
  have hlookups := reads_lookupMethods h
  refine ⟨_, List.rel_append (List.rel_append (List.rel_append hfirst hlookups) hlast) htransactions,
    by simp, fun name hdomain hgorm => ?_⟩
  have hother : name ∉ names.flatten := fun hmem => by
    have hcases := hnames hmem
    simp [hdomain, hgorm] at hcases
  rw [List.flatten_append, List.mem_append, or_iff_left hother]
  simp [hdomain]

/-- What the names of the type and its constructor refer to, read as code. -/
def databaseReferences (e : Entity) : List String :=
  referencesIn e.repositoryType ++ referencesIn e.repositoryConstructor

section Database

variable (htype : EndsInCode e.repositoryType) (hconstructor : EndsInCode e.repositoryConstructor)

include htype hconstructor

set_option maxRecDepth 4000 in
theorem reads_repositoryStruct :
    Reads .start (Source.linesAt 0 e.repositoryStruct) ("gorm" :: referencesIn e.repositoryType) .start ∧
      Reads .start (Source.linesAt 0 e.repositoryConstructorSource)
        ("gorm" :: (referencesIn e.repositoryConstructor ++ referencesIn e.repositoryType)) .start := by
  have hname := outlined_typeName h.name
  have htypeLine := newline_not_mem_repositoryType h
  have hconstructorLine : '\n' ∉ e.repositoryConstructor.toList := by
    simp [repositoryConstructor, newline_not_mem_pascal, newline_not_mem_name h]
  have hends : ∀ s ∈ [" struct \x7b", "\x7bdb: db\x7d"], s.toList.head?.any endsWord = true := by decide
  have hstruct : Reads .start ["type " ++ "X" ++ " struct \x7b", "\tdb *gorm.DB", "\x7d"] ["gorm"]
      .start := reads_of_outlines (by decide)
  have hopening : Reads .start
      ["func " ++ "X" ++ ("(db *gorm.DB) " ++ e.name ++ "Repository \x7b")] ["gorm"] .start :=
    reads_of_outlines (by decide)
  have hbody : Reads .start ["\treturn &" ++ "X" ++ "\x7bdb: db\x7d", "\x7d"] [] .start :=
    reads_of_outlines (by decide)
  have hfirst := hstruct.replace (by decide) (by decide) (hends _ (by simp)) htype htypeLine
  have hsecond := (hopening.replace (by decide) (by decide)
    (by simp [endsWord, continuesName, startsName]) hconstructor hconstructorLine).append
      (hbody.replace (by decide) (by decide) (hends _ (by simp)) htype htypeLine)
  have hlines : Source.linesAt 0 e.repositoryConstructorSource =
      ["func " ++ e.repositoryConstructor ++ ("(db *gorm.DB) " ++ e.name ++ "Repository \x7b")] ++
        ["\treturn &" ++ e.repositoryType ++ "\x7bdb: db\x7d", "\x7d"] := by
    simp [linesAt_constructor, ← String.toList_inj]
  rw [linesAt_struct, hlines]
  refine ⟨hfirst.congr fun _ => by rw [List.singleton_append], hsecond.congr fun _ => ?_⟩
  rw [List.singleton_append, List.nil_append, List.cons_append]

/-- Behind its head, the implementation refers to the domain, the database and what the types of
searchable fields need, and to what the name of the database brings. -/
theorem reads_repositorySource : Reads .start (Source.allLinesAt 0 e.repositorySource)
    ((e.searchableMembers.flatMap fun m => m.type.imports) ++ ["domain", "gorm"] ++
      e.databaseReferences) .start := by
  obtain ⟨hstruct, hmaker⟩ := reads_repositoryStruct h htype hconstructor
  obtain ⟨names, hmethods, hdomain, hnames⟩ := exists_reads_repositoryMethods h
  have hsources : List.Forall₂ (fun s ns => Reads .start (Source.linesAt 0 s) ns .start)
      (e.repositoryMethods.map (Method.source e.repositoryReceiver))
      (names.map (· ++ referencesIn e.repositoryType)) := by
    rw [List.forall₂_map_left_iff, List.forall₂_map_right_iff]
    exact hmethods.imp fun m ns hm => reads_receiverLines hm htype (newline_not_mem_repositoryType h)
  refine (Source.reads_intersperse (reads_of_outlines (by decide))
    (.cons hstruct (.cons hmaker hsources))).congr fun name => ?_
  by_cases hbrought : name ∈ e.databaseReferences
  · simp only [List.flatten_cons, List.mem_append, List.mem_cons, hbrought, or_true, iff_true]
    rcases List.mem_append.1 hbrought with hmem | hmem <;> simp [hmem]
  · have hflat : name ∈ (names.map (· ++ referencesIn e.repositoryType)).flatten ↔
        name ∈ names.flatten := by
      rw [databaseReferences, List.mem_append, not_or] at hbrought
      simp [List.mem_flatten, hbrought.1]
    rw [databaseReferences, List.mem_append, not_or] at hbrought
    simp only [List.flatten_cons, List.mem_append, List.mem_cons, hflat, databaseReferences, hbrought,
      or_false]
    by_cases hname : name = "domain" ∨ name = "gorm"
    · rcases hname with rfl | rfl <;> simp [hdomain]
    · rw [not_or] at hname
      simp [hnames name hname.1 hname.2, hname]

end Database

section Comment

variable (hdatabase : e.settings.database.text = "x/*y")

include hdatabase

omit h in
theorem repositoryType_comment : e.repositoryType = "x/*y" ++ e.name ++ "Repository" := by
  have hidentifier : goIdentifier "x/*y" = "x/*y" := by decide
  rw [repositoryType, hdatabase, hidentifier]

set_option maxRecDepth 4000 in
theorem reads_fixedMethods_comment : ∀ m ∈ e.fixedMethods,
    Reads (.block false) (receiverLines e.repositoryType m) [] (.block false) := by
  have hname := outlined_typeName h.name
  have hvariable := outlined_variableName h
  have hplural := outlined_pluralVariableName h
  have hlines : ∀ ls ∈ e.fixedMethods.map (receiverLines e.repositoryType),
      Reads (.block false) ls [] (.block false) := by
    rw [receiverLines_fixedMethods, repositoryType_comment hdatabase]
    simp only [List.forall_mem_cons, List.not_mem_nil, false_implies, implies_true, and_true]
    refine ⟨?_, ?_, ?_, ?_, ?_⟩ <;> exact reads_of_outlines (by decide)
  rwa [List.forall_mem_map] at hlines

set_option maxRecDepth 4000 in
/-- The name of a database can open a comment that nothing below it closes. -/
theorem reads_repositorySource_comment (hmethods : e.repositoryMethods = e.fixedMethods) :
    Reads .start (Source.allLinesAt 0 e.repositorySource) [] (.block false) := by
  have hname := outlined_typeName h.name
  have htype := repositoryType_comment hdatabase
  have hpascal : pascal "x/*y" = "X/*y" := by decide
  have hblank : Reads (.block false) [""] [] (.block false) := reads_of_outlines (by decide)
  have hstruct : Reads .start (Source.linesAt 0 e.repositoryStruct) [] (.block false) := by
    rw [linesAt_struct, htype]
    exact reads_of_outlines (by decide)
  have hmaker : Reads (.block false) (Source.linesAt 0 e.repositoryConstructorSource) []
      (.block false) := by
    rw [linesAt_constructor, repositoryConstructor, hdatabase, hpascal, htype]
    exact reads_of_outlines (by decide)
  have hsources : List.Forall₂ (fun s ns => Reads (.block false) (Source.linesAt 0 s) ns (.block false))
      (e.repositoryMethods.map (Method.source e.repositoryReceiver))
      (e.repositoryMethods.map fun _ => []) := by
    rw [List.forall₂_map_left_iff, List.forall₂_map_right_iff, List.forall₂_same, hmethods]
    exact reads_fixedMethods_comment h hdatabase
  have hbelow := Source.reads_intersperse hblank (.cons hmaker hsources)
  exact ((hstruct.append hblank).append hbelow).congr (by simp)

end Comment

end Methods

end Entity

end GoScaffold
