import GoScaffold.Proofs.GoSource.Signature
import GoScaffold.Proofs.GoSource.Struct
import GoScaffold.Proofs.Layer.Implementation
import GoScaffold.Proofs.Layer.Validation

/-!
# Lookups of a repository

The interface and the implementation of a repository as a caller reads them: both come to the same
methods. Each searchable field of the entity has one lookup, which asks for the column that the tag
of the field names.
-/
namespace GoScaffold

open GoScaffold.Text GoScaffold.Naming GoScaffold.Template

namespace Entity

/-- A lookup as the interface lists it, its parameter named after the field. -/
def listedLookup (e : Entity) (a : Accessor) : Method :=
  { e.lookupMethod a with parameters := [⟨goIdentifier a.field, a.goType⟩] }

def interfaceMethods (e : Entity) : List Method :=
  [e.saveMethod, e.findMethod] ++ e.accessors.map e.listedLookup ++
    [e.updateMethod, e.deleteMethod, e.findAllMethod] ++
    if e.settings.transactions.truthy then e.transactionMethods else []

theorem methodLines_eq (e : Entity) :
    e.methodLines = e.interfaceMethods.map fun m => "\t" ++ m.signature := by
  have hlookups : (e.accessors.map fun a =>
      "\t" ++ a.method ++ "(" ++ goIdentifier a.field ++ " " ++ a.goType ++ ") " ++
        a.results e.name) = (e.accessors.map e.listedLookup).map fun m => "\t" ++ m.signature := by
    rw [List.map_map]
    refine List.map_congr_left fun a _ => ?_
    simp [listedLookup, lookupMethod, Method.signature, Parameter.text, join, ← String.toList_inj]
  have htransactions : e.transactionLines =
      (if e.settings.transactions.truthy then e.transactionMethods else []).map fun m =>
        "\t" ++ m.signature := by
    rw [transactionLines]
    split
    · simp [transactionMethods, Method.signature, recordParameter, idParameter,
        transactionParameter, domainType, Parameter.text, join, ← String.toList_inj]
    · rfl
  rw [methodLines, interfaceMethods, List.map_append, List.map_append, List.map_append, hlookups,
    htransactions]
  refine congrArg (· ++ _) (congrArg₂ (· ++ ·) (congrArg (· ++ _) ?_) ?_)
  · simp [saveMethod, findMethod, Method.signature, recordParameter, idParameter, domainType,
      Parameter.text, join, ← String.toList_inj]
  · simp [updateMethod, deleteMethod, findAllMethod, Method.signature, recordParameter, idParameter,
      domainType, Parameter.text, join, ← String.toList_inj]

/-- The interface promises what the implementation does, but for the names of parameters. -/
theorem types_interfaceMethods (e : Entity) :
    e.interfaceMethods.map Method.type = e.repositoryMethods.map Method.type := by
  simp only [interfaceMethods, repositoryMethods, List.map_append, List.map_map]
  rfl

section Readable

variable {e : Entity}

theorem isReadable_parameter {name type : String} (hne : name ≠ "") (hname : IsWord name)
    (htype : Lacks [',', ')'] type) : Parameter.IsReadable ⟨name, type⟩ where
  name := ⟨hne, hname.not_mem (by decide)⟩
  ends := by
    simp only [Parameter.text, lacks_append]
    exact ⟨⟨hname.lacks (by decide), by decide⟩, htype⟩

theorem goIdentifier_ne_nil {s : String} (h : IsTypeName s) : goIdentifier s ≠ "" := fun he => by
  obtain ⟨-, c, cs, hcs, -⟩ := goIdentifier_of_isTypeName h
  simp [he] at hcs

theorem isReadable_recordParameter (h : e.IsDescribed) : e.recordParameter.IsReadable := by
  refine isReadable_parameter (goIdentifier_ne_nil h.name) (goIdentifier_of_isTypeName h.name).1 ?_
  simp +decide only [domainType, lacks_append, h.name.word.lacks, and_self]

theorem isReadable_idParameter : idParameter.IsReadable :=
  isReadable_parameter (by decide) (by decide) (by decide)

theorem isReadable_transactionParameter : transactionParameter.IsReadable :=
  isReadable_parameter (by decide) (by decide) (by decide)

/-- A lookup is readable whatever its parameter is called. -/
theorem isReadable_lookup (h : e.IsDescribed) {a : Accessor} (ha : a ∈ e.accessors) {name : String}
    (hne : name ≠ "") (hname : IsWord name) :
    Method.IsReadable { e.lookupMethod a with parameters := [⟨name, a.goType⟩] } := by
  obtain ⟨m, -, -, -, htype⟩ := exists_of_mem_accessors ha
  have hall : ∀ t ∈ FieldType.builtin, Lacks [',', ')'] t.goType := by decide
  refine ⟨(isWord_method h ha).not_mem (by decide), ?_⟩
  simpa using isReadable_parameter hne hname (htype ▸ hall m.type (mem_builtin m))

theorem isReadable_fixed (h : e.IsDescribed) :
    e.saveMethod.IsReadable ∧ e.findMethod.IsReadable ∧ e.updateMethod.IsReadable ∧
      e.deleteMethod.IsReadable ∧ e.findAllMethod.IsReadable ∧
      ∀ m ∈ e.transactionMethods, m.IsReadable := by
  have hrecord := isReadable_recordParameter h
  have hid := isReadable_idParameter
  have htransaction := isReadable_transactionParameter
  refine ⟨⟨?_, ?_⟩, ⟨?_, ?_⟩, ⟨?_, ?_⟩, ⟨?_, ?_⟩, ⟨?_, ?_⟩, ?_⟩
  all_goals
    simp [saveMethod, findMethod, updateMethod, deleteMethod, findAllMethod, transactionMethods,
      Method.isReadable_iff, hrecord, hid, htransaction]

/-- The methods of the repository are readable, whatever their lookups are. -/
theorem isReadable_methods (h : e.IsDescribed) {lookup : Accessor → Method}
    (hlookup : ∀ a ∈ e.accessors, (lookup a).IsReadable) :
    ∀ m ∈ [e.saveMethod, e.findMethod] ++ e.accessors.map lookup ++
      [e.updateMethod, e.deleteMethod, e.findAllMethod] ++
        (if e.settings.transactions.truthy then e.transactionMethods else []), m.IsReadable := by
  obtain ⟨hsave, hfind, hupdate, hdelete, hfindAll, htransactions⟩ := isReadable_fixed h
  simp only [List.forall_mem_append, List.forall_mem_cons, List.forall_mem_map, List.not_mem_nil,
    false_implies, implies_true, and_true]
  refine ⟨⟨⟨⟨hsave, hfind⟩, hlookup⟩, hupdate, hdelete, hfindAll⟩, ?_⟩
  split
  · exact htransactions
  · simp

theorem isReadable_interfaceMethods (h : e.IsDescribed) : ∀ m ∈ e.interfaceMethods, m.IsReadable :=
  isReadable_methods h fun a ha => by
    obtain ⟨m, hm, -, hfield, -⟩ := exists_of_mem_accessors ha
    have hname : IsTypeName a.field := hfield ▸ h.fieldName m hm
    exact isReadable_lookup h ha (goIdentifier_ne_nil hname) (goIdentifier_of_isTypeName hname).1

/-- The parameter of a lookup gives way to the names that the repository binds otherwise. -/
theorem lookupParameter_cases (e : Entity) (a : Accessor) :
    (e.lookupParameter a = goIdentifier a.field ∧
      goIdentifier a.field ∉ ["r", "result", e.variableName, e.pluralVariableName]) ∨
    (e.lookupParameter a = goIdentifier a.field ++ "Value" ∧
      goIdentifier a.field ∈ ["r", "result", e.variableName, e.pluralVariableName]) := by
  simp only [lookupParameter, List.contains_iff_mem]
  split_ifs with hmem
  · exact Or.inr ⟨rfl, hmem⟩
  · exact Or.inl ⟨rfl, hmem⟩

theorem isWord_lookupParameter (h : e.IsDescribed) {a : Accessor} (ha : a ∈ e.accessors) :
    e.lookupParameter a ≠ "" ∧ IsWord (e.lookupParameter a) := by
  obtain ⟨m, hm, -, hfield, -⟩ := exists_of_mem_accessors ha
  have hname : IsTypeName a.field := hfield ▸ h.fieldName m hm
  have hword : IsWord (goIdentifier a.field) := (goIdentifier_of_isTypeName hname).1
  rcases lookupParameter_cases e a with ⟨he, -⟩ | ⟨he, -⟩
  · exact he ▸ ⟨goIdentifier_ne_nil hname, hword⟩
  · rw [he]
    exact ⟨by simp, isWord_append.2 ⟨hword, by decide⟩⟩

theorem isReadable_repositoryMethods (h : e.IsDescribed) :
    ∀ m ∈ e.repositoryMethods, m.IsReadable :=
  isReadable_methods h fun _ ha =>
    isReadable_lookup h ha (isWord_lookupParameter h ha).1 (isWord_lookupParameter h ha).2

end Readable

section Read

variable {e : Entity}

/-- The share of an entity lists the methods of its repository. -/
theorem interfaceMethods?_interfaceLines (h : e.IsDescribed) :
    interfaceMethods? e.interfaceName (textOf e.interfaceLines) =
      some (e.repositoryMethods.map Method.type) := by
  have hblank : "" ≠ "type " ++ e.interfaceName ++ " interface \x7b" := fun he => by
    have hchars := congrArg String.toList he
    simp at hchars
  have hbefore : ∀ l ∈ [""], (l == "type " ++ e.interfaceName ++ " interface \x7b") = false :=
    List.forall_mem_singleton.2 (beq_eq_false_iff_ne.2 hblank)
  have hlines : e.interfaceLines ++ [""] = [""] ++ typeLine e.interfaceName "interface" ::
      (e.methodLines ++ "\x7d" :: [""]) := by
    simp [interfaceLines_eq]
  have hopens : (typeLine e.interfaceName "interface" ==
      "type " ++ e.interfaceName ++ " interface \x7b") = true := by
    simp [typeLine, ← String.toList_inj]
  have hbody : "\x7d" ∉ e.methodLines := fun hmem => absurd (e.tab_methodLines _ hmem) (by decide)
  rw [interfaceMethods?, textLines_textOf fun l hl => lacks_interfaceLines h l hl '\n' (by decide),
    hlines, bodyOf_eq hbefore hopens hbody, methodLines_eq, ← types_interfaceMethods]
  refine mapM_of_forall₂ ?_
  rw [List.forall₂_map_left_iff, List.forall₂_map_right_iff, List.forall₂_same]
  intro m hm
  rw [behindStart?_append]
  exact (isReadable_interfaceMethods h m hm).type_eq

theorem behindStart?_methodStart {type l : String} (h : ¬ "func (".toList <+: l.toList) :
    behindStart? (methodStart type) l = none := by
  have hstart : startsWith l (methodStart type) = false := by
    rw [← Bool.not_eq_true, startsWith, List.isPrefixOf_iff_prefix]
    refine fun hp => h (List.IsPrefix.trans ?_ hp)
    simp [methodStart]
  rw [behindStart?, hstart]
  rfl

theorem methodOpening_eq (type : String) (m : Method) :
    methodOpening type m = methodStart type ++ (m.signature ++ " \x7b") := by
  simp [methodOpening, methodStart, String.append_assoc]

/-- The implementation has the methods of the repository, whatever the lines of the head. -/
theorem implementedMethods?_source (h : e.IsDescribed) {head : List String}
    (hhead : ∀ l ∈ head, '\n' ∉ l.toList ∧ ¬ "func (".toList <+: l.toList) :
    implementedMethods? e.repositoryType (textOf (head ++ Source.allLinesAt 0 e.repositorySource)) =
      some (e.repositoryMethods.map Method.type) := by
  have hlines : ∀ l ∈ head ++ Source.allLinesAt 0 e.repositorySource, '\n' ∉ l.toList :=
    List.forall_mem_append.2 ⟨fun l hl => (hhead l hl).1, newline_not_mem_repositorySource h⟩
  have hheader : head.filterMap (behindStart? (methodStart e.repositoryType)) = [] :=
    List.filterMap_eq_nil_iff.2 fun l hl => behindStart?_methodStart (hhead l hl).2
  have hend : [""].filterMap (behindStart? (methodStart e.repositoryType)) = [] :=
    List.filterMap_cons_none (behindStart?_methodStart (by decide))
  have hmethods : e.repositoryMethods.filterMap (fun m => behindStart? (methodStart e.repositoryType)
      (methodOpening e.repositoryType m)) = e.repositoryMethods.map fun m => m.signature ++ " \x7b" := by
    rw [← List.filterMap_eq_map']
    refine List.filterMap_congr fun m _ => ?_
    rw [methodOpening_eq, behindStart?_append]
  rw [implementedMethods?, textLines_textOf hlines, List.filterMap_append, List.filterMap_append,
    hheader, filterMap_source h fun l hl => behindStart?_methodStart hl, hmethods, hend,
    List.append_nil, List.nil_append]
  refine mapM_of_forall₂ ?_
  rw [List.forall₂_map_left_iff, List.forall₂_map_right_iff, List.forall₂_same]
  intro m hm
  rw [beforeEnd?_append]
  exact (isReadable_repositoryMethods h m hm).type_eq

end Read

section Tags

variable {e : Entity}

theorem backquote_not_mem_tag (h : e.IsDescribed) (htagged : e.IsTagged) {m : Member}
    (hm : m ∈ e.userMembers) : '\x60' ∉ m.field.tag.toList := by
  have hall : ∀ t ∈ FieldType.builtin, Lacks ['\x60'] t.columnDefault ∧
      ∀ rule ∈ t.validationRule, Lacks ['\x60'] rule := by decide
  obtain ⟨hdefault, hrule⟩ := hall m.type (mem_builtin m)
  have hcolumn : Lacks ['\x60'] m.field.column :=
    lacks_join_lowerWords (h.word_member hm) (by decide) (by decide)
  rw [htagged m hm]
  exact Field.lacks_tagFor (by decide) hcolumn hdefault hrule '\x60' (by simp)

theorem backquote_not_mem_goType (m : Member) : '\x60' ∉ m.goType.toList := by
  have hall : ∀ t ∈ FieldType.builtin, '\x60' ∉ t.goType.toList := by decide
  rw [Member.goType]
  split <;> simp [hall m.type (mem_builtin m)]

theorem taggedField?_fieldLine (h : e.IsDescribed) (htagged : e.IsTagged) :
    ∀ m ∈ e.members, taggedField? (fieldLine m) = some (m.name, m.field.tag) := by
  have hline (m : Member) (hname : ' ' ∉ m.name.toList) (htag : '\x60' ∉ m.field.tag.toList) :
      taggedField? (fieldLine m) = some (m.name, m.field.tag) :=
    taggedField?_line hname (backquote_not_mem_goType m) htag
  have huser (m : Member) (hm : m ∈ e.given) :
      taggedField? (fieldLine m) = some (m.name, m.field.tag) := by
    have hm : m ∈ e.userMembers := h.userMembers ▸ hm
    exact hline m ((h.word_member hm).not_mem (by decide)) (backquote_not_mem_tag h htagged hm)
  have hmanaged : ∀ m ∈ managedMembers, ' ' ∉ m.name.toList ∧ '\x60' ∉ m.field.tag.toList := by decide
  exact forall_members huser fun m hm => hline m (hmanaged m hm).1 (hmanaged m hm).2

theorem fields_fieldLines (h : e.IsDescribed) (htagged : e.IsTagged) :
    (e.members.map fieldLine).filterMap taggedField? = e.members.map fun m => (m.name, m.field.tag) := by
  rw [List.filterMap_map, ← List.filterMap_eq_map']
  exact List.filterMap_congr fun m hm => taggedField?_fieldLine h htagged m hm

theorem fieldTag?_entityLines (h : e.IsDescribed) (htagged : e.IsTagged)
    (hcolumns : ∀ m ∈ e.given, m.column ∉ Descriptor.systemColumns) {m : Member}
    (hm : m ∈ e.given) :
    fieldTag? e.name m.name (textOf e.entityLines) = some m.field.tag := by
  let before := headerLines "domain" e.entityImports
  let rest := e.validateLines ++ e.businessRules.flatMap e.ruleLines ++ e.softDeleteLines ++ [""]
  have hlines : e.entityLines ++ [""] =
      before ++ typeLine e.name "struct" :: (e.members.map fieldLine ++ "\x7d" :: rest) := by
    simp [entityLines, headerLines, before, rest]
  have hopens : (typeLine e.name "struct" == "type " ++ e.name ++ " struct \x7b") = true := by
    simp [typeLine, ← String.toList_inj]
  have hbefore : ∀ l ∈ before, (l == "type " ++ e.name ++ " struct \x7b") = false := fun l hl => by
    refine beq_eq_false_iff_ne.2 fun he => ?_
    have hhead := head_headerLines _ _ l hl
    simp [he] at hhead
  have hbody : "\x7d" ∉ e.members.map fieldLine := fun hmem => by
    obtain ⟨n, -, hn⟩ := List.mem_map.1 hmem
    have hchars := congrArg String.toList hn
    simp [fieldLine] at hchars
  have hid : m.name ≠ "ID" := fun hname => hcolumns m hm (by
    rw [Member.column, Field.column]
    change snake m.name ∈ _
    rw [hname]
    decide)
  obtain ⟨above, below, hgiven⟩ := List.append_of_mem hm
  have hfirst : m.name ∉ OrderedMap.keys
      ((Member.identifier :: above).map fun n => (n.name, n.field.tag)) := by
    have hnodup := h.nodup
    rw [hgiven, List.map_append, List.map_cons] at hnodup
    simp only [OrderedMap.keys, List.map_map, List.map_cons, List.mem_cons, not_or]
    exact ⟨hid, fun hmem => (List.nodup_append.1 hnodup).2.2 m.name hmem m.name (by simp) rfl⟩
  rw [fieldTag?, textLines_textOf fun l hl => lacks_entityLines h htagged l hl '\n' (by decide),
    hlines, bodyOf_eq hbefore hopens hbody, fields_fieldLines h htagged, members, hgiven]
  simp only [List.cons_append, List.append_assoc, List.map_cons, List.map_append] at hfirst ⊢
  exact OrderedMap.get?_append_cons hfirst _ _

end Tags

section Queries

variable {e : Entity}

theorem space_not_mem_variable (h : e.IsDescribed) : ' ' ∉ e.variableName.toList :=
  IsWord.not_mem (goIdentifier_of_isTypeName h.name).1 (by decide)

theorem asked?_query {column : String} (hcolumn : ' ' ∉ column.toList) (rest : String) :
    asked? ("\tresult := r.db.Where(\"" ++ (column ++ (" " ++ rest))) = some column := by
  rw [asked?, behindStart?_append, Option.map_some]
  exact congrArg some (upTo_append hcolumn rest)

theorem asked?_eq_none {l : String} (h : ¬ "\tresult := r.db.Where(\"".toList <+: l.toList) :
    asked? l = none := by
  have hstart : startsWith l "\tresult := r.db.Where(\"" = false := by
    rw [← Bool.not_eq_true, startsWith, List.isPrefixOf_iff_prefix]
    exact h
  rw [asked?, behindStart?, hstart]
  rfl

/-- The line that makes a record asks for nothing, even if the record is called a result. -/
theorem asked?_record (h : e.IsDescribed) :
    asked? ("\t" ++ (e.variableName ++ " := " ++ e.emptyRecord)) = none := by
  refine asked?_eq_none fun ⟨rest, hrest⟩ => ?_
  have hword : cutAt? ' ' (e.variableName ++ " := " ++ e.emptyRecord).toList =
      some (e.variableName.toList, (":= " ++ e.emptyRecord).toList) :=
    cutAt?_eq_some_iff.2 ⟨by simp, space_not_mem_variable h⟩
  have hresult : cutAt? ' ' (e.variableName ++ " := " ++ e.emptyRecord).toList =
      some ("result".toList, ":= r.db.Where(\"".toList ++ rest) := by
    refine cutAt?_eq_some_iff.2 ⟨?_, by decide⟩
    simpa using hrest.symm
  rw [hword] at hresult
  simp [emptyRecord] at hresult

/-- A lookup asks for its column. -/
theorem findSome?_lookupBody (h : e.IsDescribed) {a : Accessor} (ha : a ∈ e.accessors) :
    (Source.allLinesAt 1 (e.lookupBody a)).findSome? asked? = some a.column := by
  obtain ⟨m, hm, -, hfield, -⟩ := exists_of_mem_accessors ha
  have hcolumn : ' ' ∉ a.column.toList := by
    rw [Accessor.column, hfield]
    exact not_mem_join_lowerWords (h.fieldName m hm).word (by decide) (by decide)
  have hquery (call v : String) : asked? ("\t" ++ ("result := " ++ ("r.db.Where(\"" ++ a.column ++
      " = ?\", " ++ e.lookupParameter a ++ ")" ++ call ++ v ++ ")"))) = some a.column := by
    have hasked := asked?_query hcolumn ("= ?\", " ++ e.lookupParameter a ++ ")" ++ call ++ v ++ ")")
    refine (congrArg asked? ?_).trans hasked
    simp [← String.toList_inj]
  have hseveral : asked? ("\t" ++ ("var " ++ e.pluralVariableName ++ " []" ++ e.domainType)) = none :=
    asked?_eq_none (by simp)
  rw [lookupBody]
  split
  · simp only [fetchOne, Source.allLinesAt, Source.linesAt, List.singleton_append]
    rw [indentedLine_one (by simp), indentedLine_one (by simp), List.findSome?_cons, asked?_record h,
      List.findSome?_cons, hquery]
  · simp only [fetchAll, Source.allLinesAt, Source.linesAt, List.singleton_append]
    rw [indentedLine_one (by simp), indentedLine_one (by simp), List.findSome?_cons, hseveral,
      List.findSome?_cons, hquery]

theorem startsWith_methodOpening {type name : String} {m : Method} (hname : '(' ∉ name.toList)
    (hm : '(' ∉ m.name.toList) :
    startsWith (methodOpening type m) (methodStart type ++ name ++ "(") = true ↔ m.name = name := by
  let rest := join ", " (m.parameters.map Parameter.text) ++ ") " ++ m.results ++ " \x7b"
  have hopening : (methodOpening type m).toList =
      (methodStart type).toList ++ (m.name.toList ++ '(' :: rest.toList) := by
    simp [methodOpening_eq, Method.signature, rest]
  have hstart : (methodStart type ++ name ++ "(").toList =
      (methodStart type).toList ++ (name.toList ++ ['(']) := by simp
  rw [startsWith, List.isPrefixOf_iff_prefix, hopening, hstart, List.prefix_append_right_inj]
  constructor
  · rintro ⟨t, ht⟩
    have hcut : cutAt? '(' (m.name.toList ++ '(' :: rest.toList) = some (m.name.toList, rest.toList) :=
      cutAt?_eq_some_iff.2 ⟨rfl, hm⟩
    have hother : cutAt? '(' (m.name.toList ++ '(' :: rest.toList) = some (name.toList, t) :=
      cutAt?_eq_some_iff.2 ⟨by simpa using ht.symm, hname⟩
    rw [hcut, Option.some.injEq, Prod.mk.injEq] at hother
    exact String.toList_inj.1 hother.1
  · rintro rfl
    exact ⟨rest.toList, by simp⟩

theorem startsWith_eq_false {type name l : String} (h : ¬ "func (".toList <+: l.toList) :
    startsWith l (methodStart type ++ name ++ "(") = false := by
  rw [← Bool.not_eq_true, startsWith, List.isPrefixOf_iff_prefix]
  refine fun hp => h (List.IsPrefix.trans ?_ hp)
  simp [methodStart]

theorem startsWith_linesAt_method {type name : String} {m : Method} (hplain : IsPlainMethod m)
    (hname : '(' ∉ name.toList) (hne : m.name ≠ name) :
    ∀ l ∈ Source.linesAt 0 (m.source ⟨"r", "*" ++ type⟩),
      startsWith l (methodStart type ++ name ++ "(") = false := by
  rw [linesAt_method]
  simp only [List.cons_append, List.forall_mem_cons, List.forall_mem_append, List.not_mem_nil,
    false_implies, implies_true, and_true]
  refine ⟨?_, fun l hl => startsWith_eq_false fun ⟨t, ht⟩ => ?_, startsWith_eq_false (by decide)⟩
  · rw [← Bool.not_eq_true, startsWith_methodOpening hname hplain.name]
    exact hne
  · obtain ⟨u, hu⟩ := (hplain.body l hl).2
    simp [← ht] at hu

/-- In the implementation each lookup asks for its column. -/
theorem askedColumn?_source (h : e.IsDescribed) (hnames : (e.repositoryMethods.map Method.name).Nodup)
    {a : Accessor} (ha : a ∈ e.accessors) :
    askedColumn? e.repositoryType a.method (textOf (Source.allLinesAt 0 e.repositorySource)) =
      some a.column := by
  have hlookup : e.lookupMethod a ∈ e.repositoryMethods := by
    simp only [repositoryMethods, List.mem_append, List.mem_map]
    exact Or.inl (Or.inl (Or.inr ⟨a, ha, rfl⟩))
  obtain ⟨above, below, hmethods⟩ := List.append_of_mem hlookup
  have hplain := isPlainMethod_of_mem h
  rw [hmethods] at hplain hnames
  simp only [List.forall_mem_append, List.forall_mem_cons] at hplain
  have hsource : e.repositorySource =
      ([e.repositoryStruct, e.repositoryConstructorSource] ++
        above.map (Method.source e.repositoryReceiver) ++ (e.lookupMethod a).source e.repositoryReceiver ::
          below.map (Method.source e.repositoryReceiver)).intersperse .blank := by
    rw [repositorySource, hmethods, List.map_append, List.map_cons, List.append_assoc]
  obtain ⟨before, after, hlines, hbefore⟩ := Source.exists_linesAt_intersperse 0
    ([e.repositoryStruct, e.repositoryConstructorSource] ++
      above.map (Method.source e.repositoryReceiver)) ((e.lookupMethod a).source e.repositoryReceiver)
    (below.map (Method.source e.repositoryReceiver))
  have hname : '(' ∉ a.method.toList := hplain.2.1.name
  have hother : ∀ m ∈ above, m.name ≠ a.method := fun m hm he => by
    rw [List.map_append, List.map_cons] at hnames
    exact (List.nodup_append.1 hnames).2.2 m.name (List.mem_map_of_mem hm) a.method (by simp [lookupMethod]) he
  have hfirst : ∀ l ∈ before,
      startsWith l (methodStart e.repositoryType ++ a.method ++ "(") = false := fun l hl => by
    rcases hbefore l hl with rfl | ⟨s, hs, hl⟩
    · exact startsWith_eq_false (by decide)
    · simp only [List.cons_append, List.nil_append, List.mem_cons, List.mem_map] at hs
      rcases hs with rfl | rfl | ⟨m, hm, rfl⟩
      · exact startsWith_eq_false (e.not_opening.1 l hl)
      · exact startsWith_eq_false (e.not_opening.2 l hl)
      · exact startsWith_linesAt_method (hplain.1 m hm) hname (hother m hm) l hl
  have hopens : startsWith (methodOpening e.repositoryType (e.lookupMethod a))
      (methodStart e.repositoryType ++ a.method ++ "(") = true :=
    (startsWith_methodOpening hname hname).2 rfl
  have hbody : "\x7d" ∉ Source.allLinesAt 1 (e.lookupBody a) := fun hmem =>
    absurd (hplain.2.1.body _ hmem).2 (by decide)
  have hnewline := newline_not_mem_repositorySource h
  rw [← hsource, repositoryReceiver, linesAt_method] at hlines
  rw [askedColumn?, textLines_textOf hnewline, hlines]
  simp only [List.cons_append, List.append_assoc, List.nil_append]
  refine (congrArg (List.findSome? asked?) (bodyOf_eq hfirst hopens hbody _)).trans ?_
  exact findSome?_lookupBody h ha

end Queries

end Entity

end GoScaffold
