import GoScaffold.Proofs.Layer.Built
import GoScaffold.Proofs.Layer.Members

/-!
# Members of inputs and outputs

The fields of the types that a use case takes and returns, and with the entity's own type the exact
conditions under which two members of an emitted type have one name.
-/
namespace GoScaffold

open GoScaffold.Text GoScaffold.Naming GoScaffold.Template

namespace Naming

theorem exists_plural {s : String} (h : s ≠ "") : ∃ front, plural s = front ++ "s" := by
  have hne : s.toList.isEmpty = false := by simpa using h
  simp only [plural, pluralChars, hne, Bool.false_eq_true, if_false]
  split_ifs
  · exact ⟨.ofList (s.toList.dropLast ++ ['i', 'e']), by simp [← String.toList_inj]⟩
  · exact ⟨s ++ "e", by simp [← String.toList_inj]⟩
  · exact ⟨s, by simp⟩

theorem filter_join (ts : List String) :
    (join "_" ts).toList.filter (· != '_') = (ts.flatMap String.toList).filter (· != '_') := by
  induction ts with
  | nil => rfl
  | cons t ts ih =>
    cases ts with
    | nil => simp [join]
    | cons u ts => simpa [join] using ih

/-- The letters and digits of a column are those of the name in lower case. -/
theorem letters_snake {s : String} (h : IsWord s) :
    (snake s).toList.filter (· != '_') = s.toList.map Char.toLower := by
  have hword : (lowerWords s).flatMap String.toList = (wordsOf s.toList).flatMap (·.map Char.toLower) := by
    rw [lowerWords, words, List.map_map, List.flatMap_map]
    exact List.flatMap_congr fun w hw => by simp [lower, lower_of_mem_words h hw]
  have hlow : ∀ c ∈ s.toList.map Char.toLower, (c != '_') = true := by
    simp only [List.forall_mem_map]
    intro c hc
    simpa using fun he : c.toLower = '_' => absurd (isAlphanum_toLower (h c hc)) (by rw [he]; decide)
  rw [snake, filter_join, hword, List.flatMap_def, ← List.map_flatten, flatten_wordsOf_of_isWord h,
    List.filter_eq_self.2 hlow]

theorem plural_ne {s t : String} (h : IsTypeName s) (ht : '_' ∉ t.toList)
    (hlast : t.toList.getLast? ≠ some 's') : plural s ≠ t ∧ snake (plural s) ≠ t := by
  have hne : s ≠ "" := by
    obtain ⟨c, cs, hcs, -⟩ := h.capital
    rintro rfl
    simp at hcs
  obtain ⟨front, hfront⟩ := exists_plural hne
  refine ⟨fun he => hlast (by simp [← he, hfront]), fun he => hlast ?_⟩
  have hkept : t.toList.filter (· != '_') = t.toList :=
    List.filter_eq_self.2 fun c hc => by simpa using fun he : c = '_' => ht (he ▸ hc)
  rw [← hkept, ← he, letters_snake h.word.plural, hfront]
  simp

end Naming

namespace Entity

variable {e : Entity}

def inputStruct (e : Entity) (name ending : String) (rule : Member → String) : GoStruct where
  name
  fields := e.userMembers.map fun m =>
    (m.name, "json:\"" ++ m.column ++ ending ++ e.ruleTag m (rule m))

def createInput (e : Entity) : GoStruct :=
  e.inputStruct ("Create" ++ e.name ++ "Input") "\"" Member.rule

def updateInput (e : Entity) : GoStruct :=
  e.inputStruct ("Update" ++ e.name ++ "Input") ",omitempty\"" fun m => FieldType.optionalRule m.rule

def createOutput (e : Entity) : GoStruct where
  name := "Create" ++ e.name ++ "Output"
  fields := [(e.name, "json:\"" ++ snake e.name ++ "\""), ("Message", "json:\"message\"")]

def listOutput (e : Entity) : GoStruct where
  name := "List" ++ e.name ++ "Output"
  fields := [(e.pluralName, "json:\"" ++ snake e.pluralName ++ "\""), ("Total", "json:\"total\""),
    ("Message", "json:\"message\"")]

def inputLine (e : Entity) (m : Member) (type ending rule : String) : String :=
  "\t" ++ m.name ++ " " ++ type ++ " " ++ e.fieldTag m ending rule

theorem lacks_ruleTag {cs : List Char} (hcs : ∀ s ∈ [" validate:\"", "\"", ""], Lacks cs s) {m : Member}
    {rule : String} (hrule : Lacks cs rule) : Lacks cs (e.ruleTag m rule) := by
  simp only [List.forall_mem_cons] at hcs
  rw [ruleTag]
  split
  · simp only [lacks_append, hcs, hrule, and_self]
  · exact hcs.2.2.1

/-- The characters that end a line or a tag. -/
def tagEnds : List Char := lineEnds ++ ['\x60']

theorem lacks_inputRules (m : Member) :
    Lacks tagEnds m.rule ∧ Lacks tagEnds (FieldType.optionalRule m.rule) := by
  have hall : ∀ t ∈ FieldType.builtin, Lacks tagEnds (t.validationRule.getD "") ∧
      Lacks tagEnds (FieldType.optionalRule (t.validationRule.getD "")) := by decide
  exact hall m.type (mem_builtin m)

section Line

variable {m : Member} {type ending rule : String}

theorem lacks_inputLine (h : e.IsDescribed) (hm : m ∈ e.userMembers) (htype : Lacks lineEnds type)
    (hending : Lacks lineEnds ending) (hrule : Lacks lineEnds rule) :
    Lacks lineEnds (e.inputLine m type ending rule) := by
  simp +decide only [inputLine, fieldTag, lacks_append, lacks_memberName h hm, htype,
    lacks_column h hm, hending, lacks_ruleTag (by decide) hrule, and_self]

theorem taggedField?_inputLine (h : e.IsDescribed) (hm : m ∈ e.userMembers)
    (htype : '\x60' ∉ type.toList) (hending : '\x60' ∉ ending.toList) (hrule : Lacks ['\x60'] rule) :
    taggedField? (e.inputLine m type ending rule) =
      some (m.name, "json:\"" ++ m.column ++ ending ++ e.ruleTag m rule) := by
  have hline : e.inputLine m type ending rule = "\t" ++ m.name ++ " " ++ type ++ " `" ++
      ("json:\"" ++ m.column ++ ending ++ e.ruleTag m rule) ++ "`" := by
    simp [inputLine, fieldTag, ← String.toList_inj]
  have hcolumn : '\x60' ∉ m.column.toList :=
    not_mem_join_lowerWords (h.word_member hm) (by decide) (by decide)
  have htag : '\x60' ∉ (e.ruleTag m rule).toList := lacks_ruleTag (by decide) hrule '\x60' (by simp)
  rw [hline]
  exact taggedField?_line ((h.word_member hm).not_mem (by decide)) htype
    (by simp [hcolumn, hending, htag])

end Line

def dtoStructs (e : Entity) : List (String × List String) := [
  (e.createInput.name, e.userMembers.map fun m => e.inputLine m m.goType "\"" m.rule),
  (e.createOutput.name, [
    "\t" ++ e.name ++ " domain." ++ e.name ++ " `json:\"" ++ snake e.name ++ "\"`",
    "\tMessage string `json:\"message\"`"]),
  (e.updateInput.name, e.userMembers.map fun m =>
    e.inputLine m ("*" ++ m.goType) ",omitempty\"" (FieldType.optionalRule m.rule)),
  (e.listOutput.name, [
    "\t" ++ e.pluralName ++ " []domain." ++ e.name ++ " `json:\"" ++ snake e.pluralName ++ "\"`",
    "\tTotal int `json:\"total\"`",
    "\tMessage string `json:\"message\"`"])]

theorem dtoLines_eq (e : Entity) : e.dtoLines = e.dtoStructs.flatMap structLines := by
  have hupdate (m : Member) : "\t" ++ m.name ++ " *" ++ m.goType =
      "\t" ++ m.name ++ " " ++ ("*" ++ m.goType) := by
    simp [← String.toList_inj]
  simp [dtoLines, dtoStructs, structLines, inputLine, hupdate, createInput, createOutput, updateInput,
    listOutput, inputStruct]

theorem lacks_lineEnds_of_tagEnds {s : String} (h : Lacks tagEnds s) : Lacks lineEnds s :=
  fun c hc => h c (List.mem_append_left _ hc)

theorem lacks_dtoLines (h : e.IsDescribed) : ∀ l ∈ e.dtoLines, Lacks lineEnds l := by
  have hname := lacks_name h
  have hplural : Lacks lineEnds e.pluralName := h.name.word.plural.lacks (by decide)
  have hcolumn : Lacks lineEnds (snake e.name) := lacks_join_lowerWords h.name.word (by decide) (by decide)
  have hcolumns : Lacks lineEnds (snake e.pluralName) :=
    lacks_join_lowerWords h.name.word.plural (by decide) (by decide)
  have hcreate : ∀ m ∈ e.userMembers, Lacks lineEnds (e.inputLine m m.goType "\"" m.rule) := fun m hm =>
    lacks_inputLine h hm (lacks_goType m) (by decide) (lacks_lineEnds_of_tagEnds (lacks_inputRules m).1)
  have hupdate : ∀ m ∈ e.userMembers, Lacks lineEnds
      (e.inputLine m ("*" ++ m.goType) ",omitempty\"" (FieldType.optionalRule m.rule)) := fun m hm =>
    lacks_inputLine h hm (lacks_append.2 ⟨by decide, lacks_goType m⟩) (by decide)
      (lacks_lineEnds_of_tagEnds (lacks_inputRules m).2)
  have hstructs : ∀ s ∈ e.dtoStructs, Lacks lineEnds s.1 ∧ ∀ l ∈ s.2, Lacks lineEnds l := by
    simp only [dtoStructs, createInput, createOutput, updateInput, listOutput, inputStruct,
      List.forall_mem_cons, List.forall_mem_map, List.not_mem_nil, false_implies, implies_true, and_true]
    refine ⟨⟨?_, hcreate⟩, ⟨?_, ?_, by decide⟩, ⟨?_, hupdate⟩, ?_, ?_, by decide, by decide⟩
    all_goals simp +decide only [lacks_append, hname, hplural, hcolumn, hcolumns, and_self]
  rw [dtoLines_eq, List.forall_mem_flatMap]
  intro s hs
  obtain ⟨htype, hbody⟩ := hstructs s hs
  simp only [structLines, List.forall_mem_cons, List.forall_mem_append]
  refine ⟨by decide, ?_, hbody, by decide, by simp⟩
  simp +decide only [typeLine, lacks_append, htype, and_self]

theorem taggedField?_outputLine (h : e.IsDescribed) {name package : String} (hname : IsWord name)
    {inner : List Char} (hpackage : package.toList = ' ' :: inner) (hinner : '\x60' ∉ inner) :
    taggedField? ("\t" ++ name ++ package ++ e.name ++ " `json:\"" ++ snake name ++ "\"`") =
      some (name, "json:\"" ++ snake name ++ "\"") := by
  have hline : "\t" ++ name ++ package ++ e.name ++ " `json:\"" ++ snake name ++ "\"`" =
      "\t" ++ name ++ " " ++ (.ofList inner ++ e.name) ++ " `" ++ ("json:\"" ++ snake name ++ "\"") ++
        "`" := by
    simp [← String.toList_inj, hpackage]
  have hsnake : '\x60' ∉ (snake name).toList := not_mem_join_lowerWords hname (by decide) (by decide)
  have htype : '\x60' ∉ e.name.toList := h.name.word.not_mem (by decide)
  rw [hline]
  exact taggedField?_line (hname.not_mem (by decide)) (by simp [hinner, htype]) (by simp [hsnake])

theorem fields_dtoStructs (h : e.IsDescribed) :
    e.dtoStructs.map (fun s => ({ name := s.1, fields := s.2.filterMap taggedField? } : GoStruct)) =
      [e.createInput, e.createOutput, e.updateInput, e.listOutput] := by
  have hcreate : (e.userMembers.map fun m => e.inputLine m m.goType "\"" m.rule).filterMap taggedField? =
      e.createInput.fields := by
    rw [List.filterMap_map, createInput, inputStruct, ← List.filterMap_eq_map']
    exact List.filterMap_congr fun m hm => taggedField?_inputLine h hm (backquote_not_mem_goType m)
      (by decide) fun c hc => (lacks_inputRules m).1 c (List.mem_append_right _ hc)
  have hupdate : (e.userMembers.map fun m => e.inputLine m ("*" ++ m.goType) ",omitempty\""
      (FieldType.optionalRule m.rule)).filterMap taggedField? = e.updateInput.fields := by
    rw [List.filterMap_map, updateInput, inputStruct, ← List.filterMap_eq_map']
    exact List.filterMap_congr fun m hm => taggedField?_inputLine h hm
      (by simp [backquote_not_mem_goType m]) (by decide)
      fun c hc => (lacks_inputRules m).2 c (List.mem_append_right _ hc)
  have hrecord : taggedField?
      ("\t" ++ e.name ++ " domain." ++ e.name ++ " `json:\"" ++ snake e.name ++ "\"`") =
        some (e.name, "json:\"" ++ snake e.name ++ "\"") :=
    taggedField?_outputLine h h.name.word rfl (by decide)
  have hrecords : taggedField?
      ("\t" ++ e.pluralName ++ " []domain." ++ e.name ++ " `json:\"" ++ snake e.pluralName ++ "\"`") =
        some (e.pluralName, "json:\"" ++ snake e.pluralName ++ "\"") :=
    taggedField?_outputLine h h.name.word.plural rfl (by decide)
  have hmessage : taggedField? "\tMessage string `json:\"message\"`" =
      some ("Message", "json:\"message\"") := rfl
  have htotal : taggedField? "\tTotal int `json:\"total\"`" = some ("Total", "json:\"total\"") := rfl
  simp only [dtoStructs, List.map_cons, List.map_nil, hcreate, hupdate, List.filterMap_cons, hrecord,
    hrecords, hmessage, htotal, List.filterMap_nil]
  rfl

theorem structsOf_dtoLines (h : e.IsDescribed) : structsOf (textOf e.dtoLines) =
    [e.createInput, e.createOutput, e.updateInput, e.listOutput] := by
  have hname (before after : String) (hbefore : IsWord before) (hafter : IsWord after) :
      ' ' ∉ (before ++ e.name ++ after).toList :=
    (isWord_append.2 ⟨isWord_append.2 ⟨hbefore, h.name.word⟩, hafter⟩).not_mem (by decide)
  have hstructs : ∀ s ∈ e.dtoStructs, ' ' ∉ s.1.toList ∧ ∀ l ∈ s.2, ['\t'] <+: l.toList := by
    simp only [dtoStructs, List.forall_mem_cons, List.forall_mem_map, List.not_mem_nil, false_implies,
      implies_true, and_true]
    exact ⟨⟨hname _ _ (by decide) (by decide), by simp [inputLine]⟩,
      ⟨hname _ _ (by decide) (by decide), by simp, by decide⟩,
      ⟨hname _ _ (by decide) (by decide), by simp [inputLine]⟩,
      hname _ _ (by decide) (by decide), by simp, by decide, by decide⟩
  rw [structsOf, textLines_textOf fun l hl => lacks_dtoLines h l hl '\n' (by decide), dtoLines_eq,
    structsAmong_flatMap hstructs, fields_dtoStructs h]
  rfl

theorem isDistinct_inputStruct (h : e.IsDescribed) (hcolumns : e.HasOwnColumns) (name : String)
    {ending : String} (options : List Char) (hending : ending.toList = options ++ ['"'])
    (hquote : '"' ∉ options) (hcomma : options = [] ∨ [','] <+: options) (rule : Member → String) :
    (e.inputStruct name ending rule).IsDistinct := by
  have hkey : ∀ m ∈ e.userMembers,
      jsonKey? ("json:\"" ++ m.column ++ ending ++ e.ruleTag m (rule m)) = some m.column := fun m hm => by
    have hcolumn : Lacks ['"', ','] m.column := lacks_jsonKey (h.word_member hm)
    exact jsonKey?_of_toList hcolumn hquote hcomma (e.ruleTag m (rule m)).toList (by simp [hending])
  have hkeys : (e.inputStruct name ending rule).keys = (e.userMembers.map Member.column).map some := by
    rw [GoStruct.keys, inputStruct, List.map_map, List.map_map]
    refine List.map_congr_left fun m hm => ?_
    simp only [Function.comp_apply, hkey m hm]
  have hnames : (e.inputStruct name ending rule).fieldNames = e.userMembers.map Member.name := by
    simp [GoStruct.fieldNames, inputStruct]
  refine ⟨?_, ?_⟩
  · rw [hnames, h.userMembers]
    exact h.nodup
  · rw [hkeys, h.userMembers]
    exact hcolumns.nodup.map (Option.some_injective _)

theorem jsonKey?_plain {s : String} (h : IsWord s) :
    jsonKey? ("json:\"" ++ snake s ++ "\"") = some (snake s) :=
  jsonKey?_of_toList (lacks_jsonKey h) List.not_mem_nil (Or.inl rfl) [] (by simp)

theorem isDistinct_listOutput (h : e.IsDescribed) : e.listOutput.IsDistinct := by
  have hname (t : String) (ht : '_' ∉ t.toList) (hlast : t.toList.getLast? ≠ some 's') :
      e.pluralName ≠ t ∧ snake e.pluralName ≠ t := plural_ne h.name ht hlast
  have hplural : jsonKey? ("json:\"" ++ snake e.pluralName ++ "\"") = some (snake e.pluralName) :=
    jsonKey?_plain h.name.word.plural
  have hmessage : jsonKey? "json:\"message\"" = some "message" := by decide
  have htotal : jsonKey? "json:\"total\"" = some "total" := by decide
  refine ⟨?_, ?_⟩
  · simp [GoStruct.fieldNames, listOutput, (hname "Total" (by decide) (by decide)).1,
      (hname "Message" (by decide) (by decide)).1]
  · simp [GoStruct.keys, listOutput, hplural, hmessage, htotal,
      (hname "total" (by decide) (by decide)).2, (hname "message" (by decide) (by decide)).2]

theorem isDistinct_createOutput_iff (h : e.IsDescribed) :
    e.createOutput.IsDistinct ↔ snake e.name ≠ "message" := by
  have hmessage : jsonKey? "json:\"message\"" = some "message" := by decide
  have hkeys : e.createOutput.keys = [some (snake e.name), some "message"] := by
    simp only [GoStruct.keys, createOutput, List.map_cons, List.map_nil, jsonKey?_plain h.name.word,
      hmessage]
  have hnames : e.createOutput.fieldNames = [e.name, "Message"] := rfl
  have hspelled : e.name = "Message" → snake e.name = "message" := fun he => by rw [he]; decide
  refine ⟨fun hdistinct hsnake => ?_, fun hsnake => ⟨?_, ?_⟩⟩
  · have hnodup := hdistinct.keys
    simp [hkeys, hsnake] at hnodup
  · simpa [hnames] using mt hspelled hsnake
  · simpa [hkeys] using hsnake

/-- When the members of the types that an entity declares have names of their own. The entity's own
type has different fields and different methods; one of its methods is called like a field just when
it is called like a user field. The inputs and outputs have different fields unless the entity is in
JSON what the message beside it is. -/
theorem distinct_members_iff {catalog : Catalog} {text : Option String} {fields : List Field}
    (hread : Descriptor.read catalog text = .ok fields) {name : String} {settings : Settings}
    (h : ofFields name fields settings = .ok e) :
    ∃ file dto, Piece.entity.Declares e file ∧ Piece.dto.Declares e dto ∧
      (structsOf file).map (·.name) = [e.name] ∧
      (structsOf dto).map (·.name) = ["Create" ++ e.name ++ "Input", "Create" ++ e.name ++ "Output",
        "Update" ++ e.name ++ "Input", "List" ++ e.name ++ "Output"] ∧
      (∀ s ∈ structsOf file, s.IsDistinct) ∧
      ((∀ s ∈ structsOf dto, s.IsDistinct) ↔ snake e.name ≠ "message") ∧
      methodsOn e.name file = e.methods ∧ e.methods.Nodup ∧
      ((∀ s ∈ structsOf file, ∀ x ∈ methodsOn e.name file, x ∉ s.fieldNames) ↔
        ∀ m ∈ e.userMembers, m.name ∉ e.methods) := by
  have hdescribed := isDescribed_of_read hread h
  have htagged := isTagged_of_ofFields h
  have hcolumns := hasOwnColumns_of_read hread h
  have hfile := structsOf_entityLines hdescribed htagged
  have hdto := structsOf_dtoLines hdescribed
  have hmethods := methodsOn_entityLines hdescribed htagged
  refine ⟨textOf e.entityLines, textOf e.dtoLines, Piece.declares_entity e,
    Piece.declares_lines hdescribed rfl, by rw [hfile]; rfl, by rw [hdto]; rfl, ?_, ?_, hmethods,
    nodup_methods hdescribed, ?_⟩
  · rw [hfile]
    exact List.forall_mem_singleton.2 (isDistinct_record hdescribed htagged hcolumns)
  · have hcreate : e.createInput.IsDistinct :=
      isDistinct_inputStruct hdescribed hcolumns _ [] rfl List.not_mem_nil (Or.inl rfl) _
    have hupdate : e.updateInput.IsDistinct :=
      isDistinct_inputStruct hdescribed hcolumns _ ",omitempty".toList rfl (by decide)
        (Or.inr (by decide)) _
    rw [hdto]
    simp only [List.forall_mem_cons, hcreate, hupdate, isDistinct_listOutput hdescribed,
      isDistinct_createOutput_iff hdescribed, List.not_mem_nil, false_implies, implies_true, and_true,
      true_and]
  · rw [hfile, hmethods, List.forall_mem_singleton]
    refine ⟨fun hall m hm hmem => ?_, fun hall x hx hmem => ?_⟩
    · exact hall m.name hmem ((mem_fieldNames_record hdescribed hmem).2 ⟨m, hm, rfl⟩)
    · obtain ⟨m, hm, rfl⟩ := (mem_fieldNames_record hdescribed hx).1 hmem
      exact hall m hm hx

/-- An entity that is called like the message, with a field that is called like the check. -/
theorem distinct_members_iff_message : ∃ (fields : List Field) (e : Entity) (file dto : String),
    Descriptor.read .builtin (some "body:string,validate:bool") = .ok fields ∧
      ofFields "message" fields { validation := .bool true } = .ok e ∧
      Piece.entity.Declares e file ∧ Piece.dto.Declares e dto ∧
      (¬ ∀ s ∈ structsOf dto, s.IsDistinct) ∧
      ¬ ∀ s ∈ structsOf file, ∀ x ∈ methodsOn e.name file, x ∉ s.fieldNames := by
  have hread : ∃ fields, Descriptor.read .builtin (some "body:string,validate:bool") = .ok fields ∧
      (ofFields "message" fields { validation := .bool true }).toOption.any (fun e =>
        e.name == "Message" && e.userMembers.any fun m => e.methods.contains m.name) = true :=
    exists_of_toOption_any (by decide +kernel)
  obtain ⟨fields, hread, hmessage⟩ := hread
  obtain ⟨e, he, hnames⟩ := exists_of_toOption_any hmessage
  simp only [Bool.and_eq_true, beq_iff_eq, List.any_eq_true, List.contains_iff_mem] at hnames
  obtain ⟨hname, m, hm, hmethod⟩ := hnames
  obtain ⟨file, dto, hfile, hdto, -, -, -, hstructs, -, -, hmethods⟩ := distinct_members_iff hread he
  refine ⟨fields, e, file, dto, hread, he, hfile, hdto, fun hall => ?_, fun hall => ?_⟩
  · exact hstructs.1 hall (by rw [hname]; decide)
  · exact hmethods.1 hall m hm hmethod

end Entity

end GoScaffold
