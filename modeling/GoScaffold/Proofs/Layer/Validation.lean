import GoScaffold.Proofs.GoSource.Declared
import GoScaffold.Proofs.Layer.InterfaceCatalog

/-!
# The check of a record

The file of an entity consists of lines, and its check returns one error for each field whose type
has a check, in the order of the fields.
-/
namespace GoScaffold

open GoScaffold.Text GoScaffold.Naming GoScaffold.Template

namespace FieldType

variable {template ref : String}

theorem checkFor_of_fill {cs : List Char}
    (h : (checkFilling ref.toList).fill template.toList = .ok cs) :
    checkFor template ref = .ok (.ofList cs) := by
  rw [checkFor, h]
  rfl

theorem checkFor_append {behind : String}
    (h : ∀ cs : List Char, (checkFilling cs).fill template.toList = .ok (cs ++ behind.toList))
    (ref : String) : checkFor template ref = .ok (ref ++ behind) := by
  rw [checkFor_of_fill (h ref.toList), ← String.toList_append, String.ofList_toList]

theorem checkFor_emptyText (ref : String) : checkFor emptyTextCheck ref = .ok (ref ++ " == \"\"") :=
  checkFor_append (fun _ => rfl) ref

theorem checkFor_negative (ref : String) : checkFor negativeCheck ref = .ok (ref ++ " < 0") :=
  checkFor_append (fun _ => rfl) ref

theorem checkFor_zeroTime (ref : String) :
    checkFor "\x7bref\x7d.IsZero()" ref = .ok (ref ++ ".IsZero()") :=
  checkFor_append (fun _ => rfl) ref

/-- The condition of a built-in type is the reference with a text behind it. -/
theorem checkExpression_builtin : ∀ t ∈ builtin, ∃ behind : Option String,
    behind.isSome = t.check.isSome ∧ (∀ s ∈ behind, Lacks lineEnds s) ∧
      ∀ ref, t.checkExpression ref = .ok (behind.map (ref ++ ·)) := by
  have hnone (t : FieldType) (h : t.check = none) : ∃ behind : Option String,
      behind.isSome = t.check.isSome ∧ (∀ s ∈ behind, Lacks lineEnds s) ∧
        ∀ ref, t.checkExpression ref = .ok (behind.map (ref ++ ·)) :=
    ⟨none, by simp [h], by simp, fun ref => by simp [checkExpression, h]⟩
  have hsome (t : FieldType) (template behind : String) (h : t.check = some template)
      (hbehind : Lacks lineEnds behind) (hcheck : ∀ ref, checkFor template ref = .ok (ref ++ behind)) :
      ∃ behind : Option String,
        behind.isSome = t.check.isSome ∧ (∀ s ∈ behind, Lacks lineEnds s) ∧
          ∀ ref, t.checkExpression ref = .ok (behind.map (ref ++ ·)) :=
    ⟨some behind, by simp [h], by simpa using hbehind, fun ref => by
      simp [checkExpression, h, hcheck, Except.map]⟩
  have hnegative (t : FieldType) (h : t.check = some negativeCheck) :=
    hsome t negativeCheck " < 0" h (by decide) checkFor_negative
  simp only [builtin, List.forall_mem_cons, List.not_mem_nil, false_implies, implies_true, and_true]
  exact ⟨hsome _ _ _ rfl (by decide) checkFor_emptyText, hnegative _ rfl, hnegative _ rfl,
    hnone _ rfl, hnone _ rfl, hnegative _ rfl, hnegative _ rfl, hnone _ rfl,
    hsome _ _ _ rfl (by decide) checkFor_zeroTime, hnone _ rfl, hnone _ rfl⟩

end FieldType

theorem Field.lacks_tagFor {cs : List Char} {f : Field} {p : Plan} {validation : Bool}
    (hcs : ∀ s ∈ ["json:\"", "\" gorm:\"column:", ";", ";uniqueIndex", " validate:\"", "\"", ""],
      Lacks cs s)
    (hcolumn : Lacks cs f.column) (hdefault : Lacks cs p.columnDefault)
    (hrule : ∀ rule ∈ p.validationRule, Lacks cs rule) : Lacks cs (f.tagFor p validation) := by
  simp only [List.forall_mem_cons] at hcs
  have hindex : Lacks cs (if p.unique then ";uniqueIndex" else "") := by
    split <;> simp only [hcs]
  simp only [tagFor, lacks_append, hcs, hcolumn, hdefault, hindex, true_and]
  split
  · next rule heq =>
    split
    · simp only [lacks_append, hcs, hrule rule heq, and_self]
    · simp only [hcs]
  · simp only [hcs]

namespace Entity

def checkedMembers (e : Entity) : List Member := e.userMembers.filter (·.type.check.isSome)

theorem errors_checks (e : Entity) : e.checks.map (·.error) = e.checkedMembers.map e.fieldError := by
  rw [checks, checkedMembers]
  induction e.userMembers with
  | nil => rfl
  | cons m ms ih =>
    obtain ⟨behind, hsome, -, hcheck⟩ := FieldType.checkExpression_builtin m.type (mem_builtin m)
    cases behind with
    | none =>
      have hnone : m.type.check.isSome = false := by simpa using hsome.symm
      rw [List.filterMap_cons_none (by simp [hcheck]), ih, List.filter_cons_of_neg (by simp [hnone])]
    | some behind =>
      have hchecked : m.type.check.isSome = true := by simpa using hsome.symm
      rw [List.filter_cons, if_pos hchecked, List.map_cons, ← ih]
      simp [hcheck]

section Lines

variable {e : Entity}

theorem lacks_name (h : e.IsDescribed) : Lacks lineEnds e.name := h.name.word.lacks (by decide)

theorem exists_receiver (h : e.IsDescribed) : ∃ c, e.receiver.toList = [c] ∧ c.isAlpha = true := by
  obtain ⟨c, cs, hname, hc⟩ := h.name.capital
  have hascii : ∀ d ∈ [c], d.toNat < 128 := by
    simpa using toNat_lt_of_isAlphanum (h.name.word c (by simp [hname]))
  refine ⟨c.toLower, ?_, by simp [Char.isAlpha, hc]⟩
  rw [receiver, Naming.receiver, hname]
  simp only [String.toList_ofList]
  rw [lowerChars_of_ascii hascii]
  rfl

theorem lacks_receiver (h : e.IsDescribed) : Lacks lineEnds e.receiver := by
  obtain ⟨c, hreceiver, hc⟩ := exists_receiver h
  have hword : IsWord e.receiver := fun d hd => by
    rw [hreceiver, List.mem_singleton] at hd
    simp [hd, Char.isAlphanum, hc]
  exact hword.lacks (by decide)

theorem lacks_memberName (h : e.IsDescribed) {m : Member} (hm : m ∈ e.userMembers) :
    Lacks lineEnds m.name := (h.word_member hm).lacks (by decide)

theorem lacks_column (h : e.IsDescribed) {m : Member} (hm : m ∈ e.userMembers) :
    Lacks lineEnds m.column := lacks_join_lowerWords (h.word_member hm) (by decide) (by decide)

theorem lacks_tag (h : e.IsDescribed) (htagged : e.IsTagged) {m : Member} (hm : m ∈ e.userMembers) :
    Lacks lineEnds m.field.tag := by
  have hall : ∀ t ∈ FieldType.builtin, Lacks lineEnds t.columnDefault ∧
      ∀ rule ∈ t.validationRule, Lacks lineEnds rule := by decide
  obtain ⟨hdefault, hrule⟩ := hall m.type (mem_builtin m)
  rw [htagged m hm]
  exact Field.lacks_tagFor (by decide) (lacks_column h hm) hdefault hrule

theorem lacks_goType (m : Member) : Lacks lineEnds m.goType := by
  rw [Member.goType]
  split
  · exact lacks_append.2 ⟨by decide, (lacks_type m).1⟩
  · exact (lacks_type m).1

theorem lacks_fieldLine (h : e.IsDescribed) (htagged : e.IsTagged) :
    ∀ m ∈ e.members, Lacks lineEnds (fieldLine m) := by
  have hline (m : Member) (hname : Lacks lineEnds m.name) (htag : Lacks lineEnds m.field.tag) :
      Lacks lineEnds (fieldLine m) := by
    simp +decide only [fieldLine, lacks_append, hname, lacks_goType m, htag, and_self]
  have huser (m : Member) (hm : m ∈ e.given) : Lacks lineEnds (fieldLine m) := by
    have hm : m ∈ e.userMembers := h.userMembers ▸ hm
    exact hline m (lacks_memberName h hm) (lacks_tag h htagged hm)
  have hmanaged : ∀ m ∈ managedMembers, Lacks lineEnds m.name ∧ Lacks lineEnds m.field.tag := by decide
  exact forall_members huser fun m hm => hline m (hmanaged m hm).1 (hmanaged m hm).2

theorem lacks_check (h : e.IsDescribed) :
    ∀ c ∈ e.checks, Lacks lineEnds c.condition ∧ Lacks lineEnds c.error := by
  intro c hc
  obtain ⟨m, hm, hc⟩ := List.mem_filterMap.1 hc
  obtain ⟨behind, -, hbehind, hcheck⟩ := FieldType.checkExpression_builtin m.type (mem_builtin m)
  have hname := lacks_memberName h hm
  rw [hcheck] at hc
  cases behind with
  | none => simp at hc
  | some behind =>
    simp only [Option.map_some, Option.some.injEq] at hc
    have hbehind := hbehind behind rfl
    rw [← hc]
    simp +decide only [reference, fieldError, lacks_append, lacks_receiver h, lacks_name h, hname, hbehind,
      and_self]

theorem lacks_methodLine (h : e.IsDescribed) {signature : String}
    (hsignature : Lacks lineEnds signature) : Lacks lineEnds (e.methodLine signature) := by
  simp +decide only [methodLine, lacks_append, lacks_receiver h, lacks_name h, hsignature, and_self]

theorem mem_businessRules {r : BusinessRule} (hr : r ∈ e.businessRules) : r ∈ BusinessRule.all := by
  rw [businessRules] at hr
  split at hr
  · obtain ⟨m, -, hm⟩ := List.mem_filterMap.1 hr
    exact List.mem_of_find?_eq_some hm
  · simp at hr

theorem lacks_entityImports (e : Entity) : ∀ i ∈ e.entityImports, Lacks spacing i := by
  have hpackages : ∀ r ∈ BusinessRule.all, ∀ i ∈ r.package, Lacks spacing i := by decide
  intro i hi
  rw [entityImports, mem_sortedOnce, List.mem_append] at hi
  rcases hi with hi | hi
  · obtain ⟨m, -, hi⟩ := List.mem_flatMap.1 hi
    exact lacks_imports m i hi
  · obtain ⟨r, hr, hi⟩ := List.mem_filterMap.1 hi
    exact hpackages r (mem_businessRules hr) i hi

theorem lacks_ruleLines (h : e.IsDescribed) :
    ∀ r ∈ e.businessRules, ∀ l ∈ e.ruleLines r, Lacks lineEnds l := by
  have hrules : ∀ r ∈ BusinessRule.all, Lacks lineEnds r.method ∧ Lacks lineEnds r.before ∧
      Lacks lineEnds r.field ∧ Lacks lineEnds r.after := by decide
  intro r hr
  obtain ⟨hmethod, hbefore, hfield, hafter⟩ := hrules r (mem_businessRules hr)
  simp only [ruleLines, List.forall_mem_cons, List.not_mem_nil, false_implies, implies_true, and_true]
  refine ⟨by decide, lacks_methodLine h ?_, ?_, by decide⟩
  · exact lacks_append.2 ⟨hmethod, by decide⟩
  · simp +decide only [ruleExpression, BusinessRule.expression, lacks_append, lacks_receiver h, hbefore,
      hfield, hafter, and_self]

theorem lacks_checkLines (h : e.IsDescribed) : ∀ c ∈ e.checks, ∀ l ∈ checkLines c, Lacks lineEnds l := by
  intro c hc
  obtain ⟨hcondition, herror⟩ := lacks_check h c hc
  simp +decide only [checkLines, List.forall_mem_cons, lacks_append, hcondition, herror, and_self]

theorem lacks_softDeleteLines (h : e.IsDescribed) : ∀ l ∈ e.softDeleteLines, Lacks lineEnds l := by
  rw [softDeleteLines]
  split
  · simp only [List.forall_mem_cons, List.not_mem_nil, false_implies, implies_true, and_true]
    simp +decide only [lacks_append, lacks_receiver h, lacks_methodLine h, and_self]
  · simp

theorem lacks_entityLines (h : e.IsDescribed) (htagged : e.IsTagged) :
    ∀ l ∈ e.entityLines, Lacks lineEnds l := by
  have himports : ∀ l ∈ importLines e.entityImports, Lacks lineEnds l :=
    lacks_importLines (by decide) fun i hi c hc => lacks_entityImports e i hi c
      (List.mem_append_left [' '] hc)
  have hvalidate : ∀ l ∈ e.validateLines, Lacks lineEnds l := by
    rw [validateLines]
    split
    · simp only [List.cons_append, List.forall_mem_cons, List.forall_mem_append, List.forall_mem_flatMap,
        List.not_mem_nil, false_implies, implies_true, and_true]
      exact ⟨by decide, lacks_methodLine h (by decide), lacks_checkLines h, by decide, by decide⟩
    · simp
  have htype : Lacks lineEnds (typeLine e.name "struct") := by
    simp +decide only [typeLine, lacks_append, lacks_name h, and_self]
  simp only [entityLines, List.cons_append, List.forall_mem_cons, List.forall_mem_append,
    List.forall_mem_map, List.forall_mem_flatMap]
  exact ⟨by decide, ⟨⟨⟨⟨⟨himports, by decide, htype, by simp⟩, lacks_fieldLine h htagged⟩, by decide,
    by simp⟩, hvalidate⟩, lacks_ruleLines h⟩, lacks_softDeleteLines h⟩

end Lines

section Returned

variable {e : Entity}

theorem opensValidate_eq_false {l : String} (h : l.toList.head? ≠ some 'f') :
    opensValidate l = false := by
  have hstart : startsWith l "func (" = false := by
    rw [← Bool.not_eq_true, startsWith, List.isPrefixOf_iff_prefix]
    rintro ⟨t, ht⟩
    simp [← ht] at h
  rw [opensValidate, hstart, Bool.false_and]

theorem opensValidate_methodLine (e : Entity) :
    opensValidate (e.methodLine "Validate() error") = true := by
  have hline : (e.methodLine "Validate() error").toList = "func (".toList ++
      ((e.receiver ++ " *" ++ e.name).toList ++ ") Validate() error \x7b".toList) := by
    simp [methodLine]
  have hstart : startsWith (e.methodLine "Validate() error") "func (" = true := by
    rw [startsWith, List.isPrefixOf_iff_prefix, hline]
    exact List.prefix_append _ _
  have hend : endsWith (e.methodLine "Validate() error") ") Validate() error \x7b" = true := by
    rw [endsWith, List.isSuffixOf_iff_suffix, hline, ← List.append_assoc]
    exact List.suffix_append _ _
  rw [opensValidate, hstart, hend, Bool.and_self]

theorem returned_of_toList {l x : String} (tabs : Nat) (hx : x ≠ "nil")
    (hl : l.toList = List.replicate tabs '\t' ++ ("return ".toList ++ x.toList)) :
    returned? l = some x := by
  have hdrop : l.toList.dropWhile (· == '\t') = "return ".toList ++ x.toList := by
    rw [hl, List.dropWhile_append_of_pos (by simp)]
    rfl
  have hline : String.ofList (l.toList.dropWhile (· == '\t')) = "return " ++ x := by
    rw [hdrop, ← String.toList_inj]
    simp
  rw [returned?, hline, behindStart?_append, Option.filter_some, if_pos (by simpa using hx)]

theorem returned_checkLines {c : ValueCheck} (h : c.error ≠ "nil") :
    (checkLines c).filterMap returned? = [c.error] := by
  have hif : returned? ("\tif " ++ c.condition ++ " \x7b") = none := by
    simp [returned?, behindStart?, startsWith]
  have hreturn : returned? ("\t\treturn " ++ c.error) = some c.error :=
    returned_of_toList 2 h (by simp)
  have hclosing : returned? "\t\x7d" = none := rfl
  rw [checkLines, List.filterMap_cons_none hif, List.filterMap_cons_some hreturn,
    List.filterMap_cons_none hclosing, List.filterMap_nil]

/-- The check of a record returns the errors of the fields that it looks at. -/
theorem returnedErrors_entityLines (h : e.IsDescribed) (htagged : e.IsTagged)
    (hvalidation : e.settings.validation.truthy = true) :
    returnedErrors (textOf e.entityLines) = e.checkedMembers.map e.fieldError := by
  let before := headerLines "domain" e.entityImports ++ [typeLine e.name "struct"] ++
    e.members.map fieldLine ++ ["\x7d", ""]
  let body := e.checks.flatMap checkLines ++ ["\treturn nil"]
  let rest := e.businessRules.flatMap e.ruleLines ++ e.softDeleteLines ++ [""]
  have hlines : e.entityLines ++ [""] =
      before ++ e.methodLine "Validate() error" :: (body ++ "\x7d" :: rest) := by
    simp [entityLines, validateLines, hvalidation, headerLines, before, body, rest]
  have hbefore : ∀ l ∈ before, opensValidate l = false := by
    have hheader : ∀ l ∈ headerLines "domain" e.entityImports, l.toList.head? ≠ some 'f' := by
      intro l hl hhead
      simpa [hhead] using head_headerLines _ _ l hl
    refine fun l hl => opensValidate_eq_false ?_
    revert l
    simp only [before, List.forall_mem_append, List.forall_mem_cons, List.forall_mem_map]
    exact ⟨⟨⟨hheader, by simp [typeLine]⟩, by simp [fieldLine]⟩, by decide⟩
  have htab : ∀ l ∈ body, ['\t'] <+: l.toList := by
    simp only [body, checkLines, List.forall_mem_append, List.forall_mem_flatMap, List.forall_mem_cons]
    simp
  have hbody : "\x7d" ∉ body := fun hmem => absurd (htab _ hmem) (by decide)
  have herrors : ∀ c ∈ e.checks, c.error ≠ "nil" := by
    intro c hc he
    have hmem : c.error ∈ e.checkedMembers.map e.fieldError :=
      errors_checks e ▸ List.mem_map_of_mem hc
    obtain ⟨m, -, hm⟩ := List.mem_map.1 hmem
    have hchars := congrArg String.toList (hm.trans he)
    simp [fieldError] at hchars
  have hreturned : (e.checks.flatMap checkLines).filterMap returned? = e.checks.map (·.error) := by
    rw [List.filterMap_flatMap, List.map_eq_flatMap]
    exact List.flatMap_congr fun c hc => returned_checkLines (herrors c hc)
  rw [returnedErrors, textLines_textOf fun l hl => lacks_entityLines h htagged l hl '\n' (by decide),
    hlines, bodyOf_eq hbefore (opensValidate_methodLine e) hbody, List.filterMap_append, hreturned,
    errors_checks]
  exact List.append_nil _

end Returned

end Entity

end GoScaffold
