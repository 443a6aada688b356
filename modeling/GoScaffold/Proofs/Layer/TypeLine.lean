import GoScaffold.Proofs.Layer.Block
import GoScaffold.Proofs.Sequence

/-!
# Lines that declare no type

The lines of a type that an entity declares in a shared file have no capital behind a blank, apart
from those that name the types themselves.
-/
namespace GoScaffold

open GoScaffold.Text GoScaffold.Naming GoScaffold.Template

/-- A word, of whatever characters, that does not start with a capital. -/
def IsLowWord (s : String) : Prop := ' ' ∉ s.toList ∧ s.toList.head?.any (!·.isUpper) = true

instance (s : String) : Decidable (IsLowWord s) :=
  inferInstanceAs (Decidable (' ' ∉ s.toList ∧ s.toList.head?.any (!·.isUpper) = true))

theorem IsLowWord.capitalBehind {s : String} (h : IsLowWord s) (cs : List Char) :
    capitalBehind true (s.toList ++ cs) = capitalBehind false cs := by
  obtain ⟨hblank, hhead⟩ := h
  cases hs : s.toList with
  | nil => simp [hs] at hhead
  | cons c w =>
    simp only [hs, List.head?_cons, Option.any_some, Bool.not_eq_true', List.mem_cons,
      not_or] at hhead hblank
    have hc : (c == ' ') = false := by simpa using Ne.symm hblank.1
    rw [List.cons_append, Text.capitalBehind, hc, hhead, Bool.and_false, Bool.false_or,
      capitalBehind_append hblank.2]

theorem isLowWord_goIdentifier {s : String} (h : IsTypeName s) : IsLowWord (goIdentifier s) := by
  obtain ⟨hword, c, cs, hcs, hc⟩ := goIdentifier_of_isTypeName h
  refine ⟨fun hmem => by simpa using hword _ hmem, ?_⟩
  simp [hcs, hc]

theorem types_builtin : Catalog.builtin.types.map (·.2) = FieldType.builtin := by decide +kernel

theorem mem_builtin (m : Member) : m.type ∈ FieldType.builtin := by
  have hknown := m.known
  rw [Field.fieldType, Catalog.get] at hknown
  cases hl : Catalog.builtin.lookup m.field.type with
  | none => simp [hl] at hknown
  | some t =>
    rw [hl, Except.ok.injEq] at hknown
    obtain ⟨name, -, ht⟩ := Option.bind_eq_some_iff.1 hl
    rw [← hknown, ← types_builtin]
    exact List.mem_map_of_mem (OrderedMap.mem_of_get? ht)

theorem isLowWord_typeGoType (m : Member) :
    IsLowWord m.type.goType ∧ IsLowWord ("*" ++ m.type.goType) := by
  have hall : ∀ t ∈ FieldType.builtin, IsLowWord t.goType ∧ IsLowWord ("*" ++ t.goType) := by decide
  exact hall m.type (mem_builtin m)

theorem isLowWord_goType (m : Member) : IsLowWord m.goType := by
  have ht := isLowWord_typeGoType m
  rw [Member.goType]
  split
  · exact ht.2
  · exact ht.1

theorem rule_blank (m : Member) : ' ' ∉ m.rule.toList ∧ ' ' ∉ (FieldType.optionalRule m.rule).toList := by
  have hall : ∀ t ∈ FieldType.builtin, ' ' ∉ (t.validationRule.getD "").toList ∧
      ' ' ∉ (FieldType.optionalRule (t.validationRule.getD "")).toList := by decide
  exact hall m.type (mem_builtin m)

theorem lacks_imports (m : Member) : ∀ i ∈ m.type.imports, Lacks spacing i := by
  have hall : ∀ t ∈ FieldType.builtin, ∀ i ∈ t.imports, Lacks spacing i := by decide
  exact hall m.type (mem_builtin m)

/-- No capital stands behind a blank. -/
def IsQuiet (s : String) : Prop := capitalBehind false s.toList = false

instance (s : String) : Decidable (IsQuiet s) :=
  inferInstanceAs (Decidable (capitalBehind false s.toList = false))

section Quiet

variable {e : Entity}

theorem capitalBehind_word {s : String} (h : IsWord s) (cs : List Char) :
    capitalBehind false (s.toList ++ cs) = capitalBehind false cs :=
  capitalBehind_append (h.not_mem (by decide)) cs

theorem capitalBehind_fieldTag (h : e.IsDescribed) {m : Member} (hm : m ∈ e.userMembers)
    {s rule : String} (hs : ' ' ∉ s.toList) (hrule : ' ' ∉ rule.toList) :
    capitalBehind true (e.fieldTag m s rule).toList = false := by
  have hcolumn : ' ' ∉ m.column.toList :=
    not_mem_join_lowerWords (h.word_member hm) (by decide) (by decide)
  rw [Entity.fieldTag, Entity.ruleTag]
  split
  · simp [capitalBehind, capitalBehind_append hcolumn, capitalBehind_append hs,
      capitalBehind_append hrule]
  · simp [capitalBehind, capitalBehind_append hcolumn, capitalBehind_append hs]

theorem isQuiet_createLine (h : e.IsDescribed) {m : Member} (hm : m ∈ e.userMembers) :
    IsQuiet ("\t" ++ m.name ++ " " ++ m.goType ++ " " ++ e.fieldTag m "\"" m.rule) := by
  have htag := capitalBehind_fieldTag h hm (s := "\"") (by decide) (rule_blank m).1
  simp [IsQuiet, capitalBehind, capitalBehind_word (h.word_member hm),
    (isLowWord_goType m).capitalBehind, htag]

theorem isQuiet_updateLine (h : e.IsDescribed) {m : Member} (hm : m ∈ e.userMembers) :
    IsQuiet ("\t" ++ m.name ++ " *" ++ m.goType ++ " " ++
      e.fieldTag m ",omitempty\"" (FieldType.optionalRule m.rule)) := by
  have htag := capitalBehind_fieldTag h hm (s := ",omitempty\"") (by decide) (rule_blank m).2
  simp [IsQuiet, capitalBehind, capitalBehind_word (h.word_member hm),
    capitalBehind_append (isLowWord_goType m).1, htag]

theorem isQuiet_outputLine (h : e.IsDescribed) :
    IsQuiet ("\t" ++ e.name ++ " domain." ++ e.name ++ " `json:\"" ++ snake e.name ++ "\"`") := by
  have hsnake : ' ' ∉ (snake e.name).toList :=
    not_mem_join_lowerWords h.name.word (by decide) (by decide)
  simp [IsQuiet, capitalBehind, capitalBehind_word h.name.word, capitalBehind_append hsnake]

theorem isQuiet_listLine (h : e.IsDescribed) :
    IsQuiet ("\t" ++ e.pluralName ++ " []domain." ++ e.name ++ " `json:\"" ++
      snake e.pluralName ++ "\"`") := by
  have hplural : IsWord e.pluralName := h.name.word.plural
  have hsnake : ' ' ∉ (snake e.pluralName).toList :=
    not_mem_join_lowerWords hplural (by decide) (by decide)
  simp [IsQuiet, capitalBehind, capitalBehind_word h.name.word, capitalBehind_word hplural,
    capitalBehind_append hsnake]

theorem capitalBehind_results (h : e.IsDescribed) (a : Accessor) :
    capitalBehind true (a.results e.name).toList = false := by
  rw [Accessor.results]
  split
  · simp [capitalBehind, capitalBehind_word h.name.word]
  · simp [capitalBehind, capitalBehind_word h.name.word]

theorem isQuiet_accessorLine (h : e.IsDescribed) {a : Accessor} (ha : a ∈ e.accessors) :
    IsQuiet ("\t" ++ a.method ++ "(" ++ goIdentifier a.field ++ " " ++ a.goType ++ ") " ++
      a.results e.name) := by
  obtain ⟨m, hm, hsome⟩ := List.mem_filterMap.1 ha
  rw [Member.accessor?] at hsome
  split at hsome
  · have hname := h.fieldName m hm
    obtain rfl := (Option.some.inj hsome).symm
    simp [IsQuiet, capitalBehind, capitalBehind_word hname.word,
      capitalBehind_append (isLowWord_goIdentifier hname).1,
      (isLowWord_typeGoType m).1.capitalBehind, capitalBehind_results h]
  · cases hsome

theorem isQuiet_transactionLines (h : e.IsDescribed) : ∀ l ∈ e.transactionLines, IsQuiet l := by
  have hvariable := isLowWord_goIdentifier h.name
  rw [Entity.transactionLines]
  split
  · simp [IsQuiet, capitalBehind, capitalBehind_word h.name.word, Entity.variableName,
      hvariable.capitalBehind]
  · simp

theorem isQuiet_goHeader {package : String} {imports : List String}
    (hpackage : capitalBehind true package.toList = false)
    (himports : ∀ i ∈ imports, ' ' ∉ i.toList) : IsQuiet (goHeader package imports) := by
  have hentries : ∀ rest : List Char, capitalBehind false rest = false →
      capitalBehind false ((imports.map entryLine).flatten ++ rest) = false := by
    intro rest hrest
    induction imports with
    | nil => exact hrest
    | cons i imports ih =>
      have hi := himports i (by simp)
      have ih := ih fun j hj => himports j (by simp [hj])
      simp [entryLine, capitalBehind, capitalBehind_append hi, ih]
  have hhead (rest : List Char) : capitalBehind false (packageLine package ++ rest) =
      capitalBehind false rest := by
    simp [packageLine, packageWord, capitalBehind, capitalBehind_newline, hpackage]
  rw [IsQuiet, toList_goHeader, headLines, List.flatten_cons, hhead]
  split
  · decide
  · simp [blockOpening, blockClosing, capitalBehind, hentries]

theorem mem_sortedOnce {x : String} {xs : List String} : x ∈ sortedOnce xs ↔ x ∈ xs := by
  rw [sortedOnce, List.mem_mergeSort, List.mem_eraseDups]

theorem nodup_sortedOnce (xs : List String) : (sortedOnce xs).Nodup := by
  rw [sortedOnce, (List.mergeSort_perm _ _).nodup_iff]
  exact nodup_eraseDups xs

theorem lacks_importsOf (members : List Member) : ∀ i ∈ Entity.importsOf members, Lacks spacing i := by
  intro i hi
  rw [Entity.importsOf, mem_sortedOnce, List.mem_flatMap] at hi
  obtain ⟨m, -, hi⟩ := hi
  exact lacks_imports m i hi

theorem lacks_domainImport (hmodule : ∀ c ∈ e.settings.moduleName.text.toList, isBlank c = false) :
    Lacks spacing e.domainImport := by
  have hname : Lacks spacing e.settings.moduleName.text := fun c hc hmem => by
    have hblank : spacing.all isBlank = true := by decide
    exact absurd (hmodule c hmem) (by simp [List.all_eq_true.1 hblank c hc])
  exact lacks_append.2 ⟨hname, by decide⟩

/-- A declaration of a type is not found in a quiet line. -/
theorem occurrences_of_isQuiet {x kind l : String} (hx : IsTypeName x) (hl : IsQuiet l) :
    occurrences ("type " ++ x ++ " " ++ kind).toList l.toList = 0 := by
  obtain ⟨c, cs, hcs, hc⟩ := hx.capital
  have hneedle : ("type " ++ x ++ " " ++ kind).toList =
      ['t', 'y', 'p', 'e'] ++ ' ' :: c :: (cs ++ ' ' :: kind.toList) := by simp [hcs]
  rw [hneedle]
  exact occurrences_of_capitalBehind hc _ _ hl

theorem occurrences_declared {x y kind : String} (hx : IsTypeName x) (hy : IsWord y)
    (hkind : capitalBehind true (kind.toList ++ [' ', '\x7b']) = false) :
    occurrences ("type " ++ x ++ " " ++ kind).toList (Entity.typeLine y kind).toList =
      if y = x then 1 else 0 := by
  obtain ⟨c, cs, hcs, hc⟩ := hx.capital
  have hneedle : ("type " ++ x ++ " " ++ kind).toList =
      "type ".toList ++ ((c :: cs) ++ ' ' :: kind.toList) := by simp [hcs]
  have hline : (Entity.typeLine y kind).toList =
      "type ".toList ++ (y.toList ++ ' ' :: (kind.toList ++ [' ', '\x7b'])) := by
    simp [Entity.typeLine]
  rw [hneedle, hline, occurrences_typeLine hc (hcs ▸ hx.word.not_mem (by decide))
    (hy.not_mem (by decide)) hkind, ← hcs]
  simp only [String.toList_inj, @eq_comm _ y x]

/-- Lines that are quiet, up to those that declare types of some names. -/
inductive Declaring (kind : String) : List String → List String → Prop
  | nil : Declaring kind [] []
  | quiet {l : String} {ls names : List String} (hl : IsQuiet l) (h : Declaring kind ls names) :
    Declaring kind (l :: ls) names
  | type {name : String} {ls names : List String} (hname : IsWord name)
    (h : Declaring kind ls names) :
    Declaring kind (Entity.typeLine name kind :: ls) (name :: names)

namespace Declaring

variable {kind : String} {ls ls' names names' : List String}

theorem append (h : Declaring kind ls names) (h' : Declaring kind ls' names') :
    Declaring kind (ls ++ ls') (names ++ names') := by
  induction h with
  | nil => exact h'
  | quiet hl _ ih => exact .quiet hl ih
  | type hname _ ih => exact .type hname ih

theorem of_isQuiet (h : ∀ l ∈ ls, IsQuiet l) : Declaring kind ls [] := by
  induction ls with
  | nil => exact .nil
  | cons l ls ih => exact .quiet (h l (by simp)) (ih fun l hl => h l (by simp [hl]))

/-- A declaration is found as often as its type is declared. -/
theorem occurrences_eq (h : Declaring kind ls names) {x : String} (hx : IsTypeName x)
    (hkind : capitalBehind true (kind.toList ++ [' ', '\x7b']) = false) (hn : '\n' ∉ kind.toList) :
    occurrences ("type " ++ x ++ " " ++ kind).toList (textOf ls).toList = names.count x := by
  have hline : '\n' ∉ ("type " ++ x ++ " " ++ kind).toList := by
    simp [hn, hx.word.not_mem (c := '\n') (by decide)]
  rw [occurrences_textOf hline (by simp)]
  induction h with
  | nil => rfl
  | quiet hl _ ih => rw [List.map_cons, List.sum_cons, occurrences_of_isQuiet hx hl, ih, Nat.zero_add]
  | type hname _ ih =>
    rw [List.map_cons, List.sum_cons, occurrences_declared hx hname hkind, ih, List.count_cons,
      Nat.add_comm]
    simp only [beq_iff_eq]

end Declaring

end Quiet

namespace Entity.IsDescribed

variable {e : Entity}

theorem declaring_dto (h : e.IsDescribed) : Declaring "struct" e.dtoLines
    ["Create" ++ e.name ++ "Input", "Create" ++ e.name ++ "Output", "Update" ++ e.name ++ "Input",
      "List" ++ e.name ++ "Output"] := by
  have hword {s t : String} (hs : IsWord s) (ht : IsWord t) : IsWord (s ++ e.name ++ t) := by
    simp only [isWord_append, hs, ht, h.name.word, and_self]
  have hcreate : Declaring "struct" (e.userMembers.map fun m =>
      "\t" ++ m.name ++ " " ++ m.goType ++ " " ++ e.fieldTag m "\"" m.rule) [] :=
    .of_isQuiet (List.forall_mem_map.2 fun m hm => isQuiet_createLine h hm)
  have hupdate : Declaring "struct" (e.userMembers.map fun m =>
      "\t" ++ m.name ++ " *" ++ m.goType ++ " " ++
        e.fieldTag m ",omitempty\"" (FieldType.optionalRule m.rule)) [] :=
    .of_isQuiet (List.forall_mem_map.2 fun m hm => isQuiet_updateLine h hm)
  have hfirst : Declaring "struct" ["", typeLine ("Create" ++ e.name ++ "Input") "struct"]
      ["Create" ++ e.name ++ "Input"] :=
    .quiet (by decide) (.type (hword (by decide) (by decide)) .nil)
  have hmiddle : Declaring "struct" [
      "\x7d",
      "",
      typeLine ("Create" ++ e.name ++ "Output") "struct",
      "\t" ++ e.name ++ " domain." ++ e.name ++ " `json:\"" ++ snake e.name ++ "\"`",
      "\tMessage string `json:\"message\"`",
      "\x7d",
      "",
      typeLine ("Update" ++ e.name ++ "Input") "struct"]
      ["Create" ++ e.name ++ "Output", "Update" ++ e.name ++ "Input"] := by
    refine .quiet (by decide) (.quiet (by decide) (.type (hword (by decide) (by decide)) ?_))
    refine .quiet (isQuiet_outputLine h) (.quiet (by decide) ?_)
    exact .quiet (by decide) (.quiet (by decide) (.type (hword (by decide) (by decide)) .nil))
  have hlast : Declaring "struct" [
      "\x7d",
      "",
      typeLine ("List" ++ e.name ++ "Output") "struct",
      "\t" ++ e.pluralName ++ " []domain." ++ e.name ++ " `json:\"" ++ snake e.pluralName ++ "\"`",
      "\tTotal int `json:\"total\"`",
      "\tMessage string `json:\"message\"`",
      "\x7d"] ["List" ++ e.name ++ "Output"] := by
    refine .quiet (by decide) (.quiet (by decide) (.type (hword (by decide) (by decide)) ?_))
    refine .quiet (isQuiet_listLine h) (.quiet (by decide) ?_)
    exact .quiet (by decide) (.quiet (by decide) .nil)
  exact (((hfirst.append hcreate).append hmiddle).append hupdate).append hlast

theorem declaring_interface (h : e.IsDescribed) :
    Declaring "interface" e.interfaceLines [e.name ++ "Repository"] := by
  have hword : IsWord (e.name ++ "Repository") := by
    simp +decide only [isWord_append, h.name.word, and_self]
  have hvariable := isLowWord_goIdentifier h.name
  have haccessors : Declaring "interface" (e.accessors.map fun a =>
      "\t" ++ a.method ++ "(" ++ goIdentifier a.field ++ " " ++ a.goType ++ ") " ++
        a.results e.name) [] :=
    .of_isQuiet (List.forall_mem_map.2 fun a ha => isQuiet_accessorLine h ha)
  have hrecord (s : String) (hs : ' ' ∉ s.toList) :
      IsQuiet (s ++ e.variableName ++ " *domain." ++ e.name ++ ") error") := by
    simp [IsQuiet, capitalBehind, capitalBehind_append hs, variableName,
      capitalBehind_append hvariable.1, capitalBehind_word h.name.word]
  have hfirst : Declaring "interface" [
      "",
      typeLine (e.name ++ "Repository") "interface",
      "\tSave(" ++ e.variableName ++ " *domain." ++ e.name ++ ") error",
      "\tFindByID(id uint) (*domain." ++ e.name ++ ", error)"] [e.name ++ "Repository"] := by
    refine .quiet (by decide) (.type hword (.quiet (hrecord _ (by decide)) (.quiet ?_ .nil)))
    simp [IsQuiet, capitalBehind, capitalBehind_word h.name.word]
  have hmiddle : Declaring "interface" [
      "\tUpdate(" ++ e.variableName ++ " *domain." ++ e.name ++ ") error",
      "\tDelete(id uint) error",
      "\tFindAll() ([]domain." ++ e.name ++ ", error)"] [] := by
    refine .quiet (hrecord _ (by decide)) (.quiet (by decide) (.quiet ?_ .nil))
    simp [IsQuiet, capitalBehind, capitalBehind_word h.name.word]
  have hlast : Declaring "interface" ["\x7d"] [] := .quiet (by decide) .nil
  exact (((hfirst.append haccessors).append hmiddle).append
    (.of_isQuiet (isQuiet_transactionLines h))).append hlast

end Entity.IsDescribed

end GoScaffold
