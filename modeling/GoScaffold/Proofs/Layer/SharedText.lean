import GoScaffold.Layer.Domain
import GoScaffold.Proofs.Entity.Described
import GoScaffold.Proofs.GoSource.Block
import GoScaffold.Proofs.GoSource.Imports
import GoScaffold.Proofs.Template.Shared
import GoScaffold.Proofs.Template.Statement

/-!
# What an entity declares in the shared files

The lines that an entity has in each shared file, and that these lines are what the source of its
errors and the built-in templates come to.
-/
namespace GoScaffold

open GoScaffold.Text GoScaffold.Naming GoScaffold.Template

namespace Member

def rule (m : Member) : String := m.type.validationRule.getD ""

def isRequired (m : Member) : Bool := startsWith m.rule "required"

end Member

/-- The lines of a block of declarations, each a name with its value, under a comment. -/
def blockLines (comment : String) (declarations : List (String × String)) : List String :=
  "" :: ("\t// " ++ comment) :: declarations.map fun d => "\t" ++ d.1 ++ " = " ++ d.2

/-- A text as a Go literal, and the error with that text. -/
def goLiteral (text : String) : String := "\"" ++ text ++ "\""

def newError (text : String) : String := "errors.New(" ++ goLiteral text ++ ")"

namespace Entity

def domainErrors (e : Entity) : List (String × String) :=
  (e.recordError, newError ("invalid " ++ e.label ++ " data")) :: e.userMembers.map fun m =>
    (e.fieldError m, newError (e.label ++ " " ++ Naming.label m.name ++ " is invalid"))

def errorsLines (e : Entity) : List String := blockLines (e.name ++ " errors") e.domainErrors

def constants (e : Entity) : List (String × String) := [
  (e.name ++ "TableName", goLiteral e.table),
  (e.name ++ "Endpoint", goLiteral ("/" ++ e.route)),
  (e.name ++ "CachePrefix", goLiteral (snake e.name ++ ":")),
  ("Default" ++ e.name ++ "PerPage", "20"),
  ("Max" ++ e.name ++ "PerPage", "100")] ++
  e.userMembers.map fun m => (e.name ++ m.name ++ "Column", goLiteral m.column)

def constantsLines (e : Entity) : List String := blockLines (e.name ++ " constants") e.constants

def successMessages (e : Entity) : List (String × String) := [
  (e.name ++ "CreatedSuccessfully", goLiteral (e.label ++ " created successfully")),
  (e.name ++ "UpdatedSuccessfully", goLiteral (e.label ++ " updated successfully")),
  (e.name ++ "DeletedSuccessfully", goLiteral (e.label ++ " deleted successfully")),
  (e.name ++ "FoundSuccessfully", goLiteral (e.label ++ " found successfully")),
  (e.pluralName ++ "ListedSuccessfully", goLiteral (e.pluralLabel ++ " listed successfully"))]

def responseMessagesLines (e : Entity) : List String :=
  blockLines (e.name ++ " success messages") e.successMessages

def errorMessages (e : Entity) : List (String × String) := [
  ("Err" ++ e.name ++ "NotFound", goLiteral (e.label ++ " not found")),
  ("Err" ++ e.name ++ "AlreadyExists", goLiteral (e.label ++ " already exists")),
  ("ErrInvalid" ++ e.name ++ "Data", goLiteral ("invalid " ++ e.label ++ " data"))] ++
  ((e.userMembers.filter Member.isRequired).map fun m =>
    ("Err" ++ e.name ++ m.name ++ "Required",
      goLiteral (e.label ++ " " ++ replace "_" " " m.column ++ " is required"))) ++ [
  ("Err" ++ e.name ++ "UpdateFailed", goLiteral ("failed to update " ++ e.label)),
  ("Err" ++ e.name ++ "DeleteFailed", goLiteral ("failed to delete " ++ e.label))]

def errorMessagesLines (e : Entity) : List String :=
  blockLines (e.name ++ " errors") e.errorMessages

def ruleTag (e : Entity) (m : Member) (rule : String) : String :=
  if e.settings.validation.truthy && m.rule != "" then " validate:\"" ++ rule ++ "\"" else ""

def fieldTag (e : Entity) (m : Member) (ending rule : String) : String :=
  "`json:\"" ++ m.column ++ ending ++ e.ruleTag m rule ++ "`"

def typeLine (name kind : String) : String := "type " ++ name ++ " " ++ kind ++ " \x7b"

def dtoLines (e : Entity) : List String := [
  "",
  typeLine ("Create" ++ e.name ++ "Input") "struct"] ++
  (e.userMembers.map fun m =>
    "\t" ++ m.name ++ " " ++ m.goType ++ " " ++ e.fieldTag m "\"" m.rule) ++ [
  "\x7d",
  "",
  typeLine ("Create" ++ e.name ++ "Output") "struct",
  "\t" ++ e.name ++ " domain." ++ e.name ++ " `json:\"" ++ snake e.name ++ "\"`",
  "\tMessage string `json:\"message\"`",
  "\x7d",
  "",
  typeLine ("Update" ++ e.name ++ "Input") "struct"] ++
  (e.userMembers.map fun m =>
    "\t" ++ m.name ++ " *" ++ m.goType ++ " " ++
      e.fieldTag m ",omitempty\"" (FieldType.optionalRule m.rule)) ++ [
  "\x7d",
  "",
  typeLine ("List" ++ e.name ++ "Output") "struct",
  "\t" ++ e.pluralName ++ " []domain." ++ e.name ++ " `json:\"" ++ snake e.pluralName ++ "\"`",
  "\tTotal int `json:\"total\"`",
  "\tMessage string `json:\"message\"`",
  "\x7d"]

/-- The methods that take part in a transaction, where there are any. -/
def transactionLines (e : Entity) : List String :=
  if e.settings.transactions.truthy then [
    "\tSaveWithTx(tx *gorm.DB, " ++ e.variableName ++ " *domain." ++ e.name ++ ") error",
    "\tUpdateWithTx(tx *gorm.DB, " ++ e.variableName ++ " *domain." ++ e.name ++ ") error",
    "\tDeleteWithTx(tx *gorm.DB, id uint) error"] else []

def interfaceLines (e : Entity) : List String := [
  "",
  typeLine (e.name ++ "Repository") "interface",
  "\tSave(" ++ e.variableName ++ " *domain." ++ e.name ++ ") error",
  "\tFindByID(id uint) (*domain." ++ e.name ++ ", error)"] ++
  (e.accessors.map fun a =>
    "\t" ++ a.method ++ "(" ++ goIdentifier a.field ++ " " ++ a.goType ++ ") " ++
      a.results e.name) ++ [
  "\tUpdate(" ++ e.variableName ++ " *domain." ++ e.name ++ ") error",
  "\tDelete(id uint) error",
  "\tFindAll() ([]domain." ++ e.name ++ ", error)"] ++
  e.transactionLines ++ [
  "\x7d"]

theorem indentedLine_one {text : String} (h : text ≠ "") :
    Source.indentedLine 1 text = "\t" ++ text := by
  simp [Source.indentedLine, h, times, concat]

theorem linesAt_errorLine (name text : String) : Source.linesAt 1 (errorLine name text) =
    ["\t" ++ name ++ " = " ++ newError text] := by
  rw [errorLine, Source.linesAt, indentedLine_one (by simp)]
  simp [newError, goLiteral, ← String.toList_inj]

theorem linesAt_comment (text : String) :
    Source.linesAt 1 (.comment text) = ["\t// " ++ text] := by
  rw [Source.linesAt, indentedLine_one (by simp)]
  simp [← String.toList_inj]

theorem build_errorsSource (e : Entity) :
    Source.build e.errorsSource 1 = textOf e.errorsLines := by
  have hfields (ms : List Member) :
      Source.allLinesAt 1 (ms.map fun m =>
        errorLine (e.fieldError m) (e.label ++ " " ++ Naming.label m.name ++ " is invalid")) =
      ms.map fun m => "\t" ++ e.fieldError m ++ " = " ++
        newError (e.label ++ " " ++ Naming.label m.name ++ " is invalid") := by
    induction ms with
    | nil => rfl
    | cons m ms ih => rw [List.map_cons, Source.allLinesAt, ih, linesAt_errorLine]; rfl
  rw [Source.build_eq]
  refine congrArg textOf ?_
  rw [errorsSource, List.cons_append, Source.allLinesAt, List.cons_append, Source.allLinesAt,
    List.cons_append, Source.allLinesAt, List.nil_append, hfields, linesAt_errorLine,
    linesAt_comment]
  simp [errorsLines, blockLines, domainErrors, Source.linesAt]

section Scope

variable (e : Entity)

theorem scope_entity : e.scope.value "entity" "entity" = .str e.name := rfl

theorem scope_variable : e.scope.value "entity_var" "entity_var" = .str e.variableName := rfl

theorem scope_plural : e.scope.value "entity_plural" "entity_plural" = .str e.pluralName := rfl

theorem scope_label : e.scope.value "entity_label" "entity_label" = .str e.label := rfl

theorem scope_pluralLabel :
    e.scope.value "entity_plural_label" "entity_plural_label" = .str e.pluralLabel := rfl

theorem scope_table : e.scope.value "table_name" "table_name" = .str e.table := rfl

theorem scope_route : e.scope.value "route" "route" = .str e.route := rfl

theorem scope_userFields : e.scope.value "user_fields" "user_fields" =
    .list (e.userMembers.map fun m => .field m.field) := rfl

theorem scope_plans : e.scope.value "plans" "plans" =
    .record (e.plans.map fun p => (p.1, .plan p.2)) := rfl

theorem scope_searchMethods : e.scope.value "search_methods" "search_methods" =
    .list (e.accessors.map .accessor) := rfl

theorem scope_validation :
    e.scope.value "validation" "validation" = .ofJson e.settings.validation := rfl

theorem scope_transactions :
    e.scope.value "transactions" "transactions" = .ofJson e.settings.transactions := rfl

end Scope

theorem field_name (f : Field) : (Value.field f).member "name" = .ok (.str f.name) := rfl

theorem field_column (f : Field) : (Value.field f).member "column" = .ok (.str f.column) := rfl

theorem field_jsonName (f : Field) : (Value.field f).member "json_name" = .ok (.str f.column) := rfl

theorem toList_textOf (ls : List String) :
    (textOf ls).toList = (ls.map fun l => l.toList ++ ['\n']).flatten := by
  simp [textOf, toList_concat, Function.comp_def]

theorem infix_textOf_of_mem {ls : List String} {l : String} (hl : l ∈ ls) :
    l.toList <:+: (textOf ls).toList := by
  rw [toList_textOf]
  exact (List.prefix_append _ _).isInfix.trans
    (List.infix_of_mem_flatten (List.mem_map_of_mem (f := fun l => l.toList ++ ['\n']) hl))

theorem textFor_eq {scope : Scope} (hself : scope.any (·.1 == "self") = false) (nodes : Nodes) :
    nodes.textFor scope = (nodes.render scope).map (·.1) := by
  rw [Nodes.textFor, hself]
  rfl

theorem render_printed (scope : Scope) (name : String) (rest : Nodes) :
    (Nodes.cons (printed name) rest).render scope =
      (scope.value name name).text.bind fun s => (rest.render scope).map (behind s) :=
  render_print scope (.name name name) rest

theorem scope_self (e : Entity) : e.scope.any (·.1 == "self") = false := rfl

theorem render_columnConstants (e : Entity) : columnConstants.render e.scope =
    .ok (concat (e.userMembers.map fun m => "\t" ++ (e.name ++ (m.name ++ ("Column = \"" ++
      (m.column ++ "\"\n"))))), e.scope) := by
  refine loop_ok (e.scope_userFields ▸ eval_name _ _ _) fun m _ position => ?_
  simp only [Nodes.ofList, render_text, render_print, render_printed, render_nil, fieldMember,
    eval_name, eval_member, value_cons, value_cons_of_ne, ne_eq, String.reduceEq, not_false_eq_true,
    scope_entity, field_name, field_column, bind_ok, map_ok, text_str, behind]
  rfl

theorem text_constants (e : Entity) :
    constantsNodes.textFor e.scope = .ok (textOf e.constantsLines) := by
  rw [textFor_eq e.scope_self]
  simp only [constantsNodes, Nodes.ofList, render_text, render_print, render_printed,
    render_cons e.render_columnConstants, render_nil, eval_name, eval_snake, scope_entity,
    scope_table, scope_route, bind_ok, map_ok, text_str, behind]
  refine congrArg Except.ok ?_
  rw [← String.toList_inj]
  simp [constantsLines, blockLines, constants, goLiteral, toList_textOf, toList_concat,
    Function.comp_def]

theorem text_responseMessages (e : Entity) :
    responseMessagesNodes.textFor e.scope = .ok (textOf e.responseMessagesLines) := by
  rw [textFor_eq e.scope_self]
  simp only [responseMessagesNodes, Nodes.ofList, render_text, render_printed, render_nil,
    scope_entity, scope_label, scope_plural, scope_pluralLabel, bind_ok, map_ok, text_str, behind]
  refine congrArg Except.ok ?_
  rw [← String.toList_inj]
  simp [responseMessagesLines, blockLines, successMessages, goLiteral, toList_textOf]

theorem lookup_plan {members : List Member} (hd : (members.map Member.name).Nodup) {m : Member}
    (hm : m ∈ members) :
    Value.lookup (.str m.name) (members.map fun n => (.str n.name, .plan n.plan)) =
      some (.plan m.plan) := by
  induction members with
  | nil => simp at hm
  | cons n members ih =>
    rw [List.map_cons, List.nodup_cons] at hd
    rcases List.mem_cons.1 hm with rfl | hm
    · simp [Value.lookup, Value.same]
    · have hne : (n.name == m.name) = false := by
        simpa using fun he : n.name = m.name => hd.1 (he ▸ List.mem_map_of_mem hm)
      rw [List.map_cons, Value.lookup, List.find?_cons_of_neg (by simp [Value.same, hne])]
      exact ih hd.2 hm

theorem IsDescribed.item_plans {e : Entity} (h : e.IsDescribed) {m : Member} (hm : m ∈ e.given) :
    (Value.record (e.plans.map fun p => (p.1, .plan p.2))).item (.str m.name) =
      .ok (.plan m.plan) := by
  have hl := lookup_plan h.nodup hm
  have hrecord : Value.record (e.plans.map fun p => (p.1, .plan p.2)) =
      .dict (e.given.map fun n => (.str n.name, .plan n.plan)) := by
    simp [Value.record, h.plans]
  rw [hrecord]
  simp [Value.item, Value.defined, Value.entry?, Value.entryUnder?, Value.hashable, hl, bind,
    Except.bind, pure, Except.pure]

theorem IsDescribed.eval_fieldRule {e : Entity} (h : e.IsDescribed) {m : Member}
    (hm : m ∈ e.given) (loop : Value) :
    fieldRule.eval (("field", .field m.field) :: ("loop", loop) :: e.scope) =
      .ok (.optional m.type.validationRule) := by
  have hname : m.field.name = m.name := rfl
  simp only [fieldRule, fieldMember, eval_member, eval_item, eval_name, value_cons,
    value_cons_of_ne, ne_eq, String.reduceEq, not_false_eq_true, scope_plans, bind_ok, field_name,
    hname, h.item_plans hm]
  rfl

theorem truth_rule (m : Member) :
    (Value.optional m.type.validationRule).truth = .ok (m.rule != "") := by
  cases hr : m.type.validationRule with
  | none => simp [Member.rule, hr, Value.optional, Value.truth, Value.plainTruth]
  | some r => simp [Member.rule, hr, Value.optional, Value.truth, Value.plainTruth]

theorem optional_rule {m : Member} (h : (m.rule != "") = true) :
    Value.optional m.type.validationRule = .str m.rule := by
  cases hr : m.type.validationRule with
  | none => simp [Member.rule, hr] at h
  | some r => simp [Member.rule, hr, Value.optional]

theorem rule_ne_of_isRequired {m : Member} (h : m.isRequired = true) : (m.rule != "") = true := by
  by_cases hr : m.rule = ""
  · simp [Member.isRequired, hr, startsWith] at h
  · simpa using hr

theorem eval_both {scope : Scope} {l r : Expr} {v : Value} {b c : Bool}
    (hl : l.eval scope = .ok v) (hb : v.truth = .ok b)
    (hr : b = true → ∃ w, r.eval scope = .ok w ∧ w.truth = .ok c) :
    ∃ u, (Expr.both l r).eval scope = .ok u ∧ u.truth = .ok (b && c) := by
  rw [Expr.eval, hl]
  cases b with
  | false => exact ⟨v, by simp [bind, Except.bind, hb, pure, Except.pure], hb⟩
  | true =>
    obtain ⟨w, hw, hc⟩ := hr rfl
    exact ⟨w, by simp [bind, Except.bind, hb, hw], hc⟩

theorem IsDescribed.eval_isRequired {e : Entity} (h : e.IsDescribed) {m : Member}
    (hm : m ∈ e.given) (loop : Value) : ∃ v,
    requiredRule.eval (("field", .field m.field) :: ("loop", loop) :: e.scope) = .ok v ∧
      v.truth = .ok m.isRequired := by
  have hrule := h.eval_fieldRule hm loop
  obtain ⟨v, hv, ht⟩ := eval_both (c := m.isRequired) hrule (truth_rule m) fun hr =>
    ⟨_, eval_startsWith _ _ "required" (hrule.trans (congrArg _ (optional_rule hr))), rfl⟩
  refine ⟨v, hv, ht.trans (congrArg _ ?_)⟩
  cases hreq : m.isRequired with
  | false => simp
  | true => simp [rule_ne_of_isRequired hreq]

/-- Whether the field that a loop stands at has a validation tag. -/
theorem IsDescribed.eval_isTagged {e : Entity} (h : e.IsDescribed) {m : Member}
    (hm : m ∈ e.given) (loop : Value) : ∃ v,
    (Expr.both (.name "validation" "validation") fieldRule).eval
        (("field", .field m.field) :: ("loop", loop) :: e.scope) = .ok v ∧
      v.truth = .ok (e.settings.validation.truthy && m.rule != "") := by
  refine eval_both (eval_name _ _ _) ?_ fun _ => ⟨_, h.eval_fieldRule hm loop, truth_rule m⟩
  rw [value_cons_of_ne (by decide), value_cons_of_ne (by decide), scope_validation, truth_ofJson]

theorem render_validateTag_ok {e : Entity} (h : e.IsDescribed) {m : Member} (hm : m ∈ e.given)
    (loop : Value) {rule : Expr} {s : String}
    (hrule : (m.rule != "") = true →
      rule.eval (("field", .field m.field) :: ("loop", loop) :: e.scope) = .ok (.str s)) :
    (validateTag rule).render (("field", .field m.field) :: ("loop", loop) :: e.scope) =
      .ok (e.ruleTag m s, ("field", .field m.field) :: ("loop", loop) :: e.scope) := by
  obtain ⟨v, hv, ht⟩ := h.eval_isTagged hm loop
  refine when_ok hv ht fun hb => ?_
  rw [Bool.and_eq_true] at hb
  simp only [Nodes.ofList, render_text, render_print, hrule hb.2, bind_ok, text_str, render_nil,
    map_ok, behind, String.append_empty, String.append_assoc]

theorem concat_filter {α : Type} (p : α → Bool) (f : α → String) (xs : List α) :
    concat (xs.map fun x => if p x then f x else "") = concat ((xs.filter p).map f) := by
  induction xs with
  | nil => rfl
  | cons x xs ih =>
    by_cases h : p x = true
    · simp [h, concat, ih]
    · simp [h, concat, ih]

theorem IsDescribed.render_requiredMessages {e : Entity} (h : e.IsDescribed) :
    requiredMessages.render e.scope =
      .ok (concat (e.userMembers.map fun m =>
        if m.isRequired then "\tErr" ++ (e.name ++ (m.name ++ ("Required = \"" ++ (e.label ++ (" " ++
          (replace "_" " " m.column ++ " is required\"\n")))))) else ""), e.scope) := by
  refine loop_ok (e.scope_userFields ▸ eval_name _ _ _) fun m hm position => ?_
  rw [h.userMembers] at hm
  obtain ⟨v, hv, ht⟩ := h.eval_isRequired hm
    (.loop position (e.userMembers.map fun m => .field m.field) none)
  rw [Nodes.ofList, render_cons (when_ok hv ht fun _ => ?_), Nodes.ofList, render_nil, map_ok,
    behind, String.append_empty]
  simp only [Nodes.ofList, render_text, render_print, render_printed, render_nil, fieldMember,
    eval_name, eval_member, eval_replace, eval_snake, value_cons, value_cons_of_ne, ne_eq,
    String.reduceEq, not_false_eq_true, scope_entity, scope_label, field_name, bind_ok, map_ok,
    text_str, behind]
  rfl

theorem IsDescribed.text_errorMessages {e : Entity} (h : e.IsDescribed) :
    errorMessagesNodes.textFor e.scope = .ok (textOf e.errorMessagesLines) := by
  rw [textFor_eq e.scope_self]
  simp only [errorMessagesNodes, Nodes.ofList, render_text, render_printed,
    render_cons h.render_requiredMessages, render_nil, scope_entity, scope_label, bind_ok, map_ok,
    text_str, behind]
  refine congrArg Except.ok ?_
  rw [concat_filter, ← String.toList_inj]
  simp [errorMessagesLines, blockLines, errorMessages, goLiteral, toList_textOf, toList_concat,
    Function.comp_def]

theorem field_goType (m : Member) : (Value.field m.field).member "go_type" = .ok (.str m.goType) := by
  have hg : m.field.goType = .ok m.goType := by rw [Field.goType, m.known]; rfl
  simp [Value.member, Value.defined, Value.ownMember?, Value.kindMember?, Value.fieldMember?,
    Value.ofTyped, hg, bind, Except.bind, pure, Except.pure]

theorem ruleOf_str {r : String} (h : (r != "") = true) :
    Helper.ruleOf (.str r) = .ok (.str (FieldType.optionalRule r)) := by
  simp [Helper.ruleOf, Value.truth, Value.plainTruth, h, bind, Except.bind, pure, Except.pure]

theorem IsDescribed.render_inputFields {e : Entity} (h : e.IsDescribed) (line : Nat)
    (star ending : String) (rule : Expr) (s : Member → String)
    (hrule : ∀ m ∈ e.given, ∀ loop, (m.rule != "") = true →
      rule.eval (("field", .field m.field) :: ("loop", loop) :: e.scope) = .ok (.str (s m))) :
    (inputFields line star ending rule).render e.scope =
      .ok (concat (e.userMembers.map fun m => "\t" ++ (m.name ++ (star ++ (m.goType ++
        (" `json:\"" ++ (m.column ++ (ending ++
          (e.ruleTag m (s m) ++ "`\n")))))))), e.scope) := by
  refine loop_ok (e.scope_userFields ▸ eval_name _ _ _) fun m hm position => ?_
  rw [h.userMembers] at hm
  have htag := render_validateTag_ok h hm
    (.loop position (e.userMembers.map fun m => .field m.field) none) (hrule m hm _)
  simp only [Nodes.ofList, render_text, render_print, render_cons htag, render_nil, fieldMember,
    eval_name, eval_member, value_cons, field_name, field_goType, field_jsonName, bind_ok, map_ok,
    text_str, behind]
  rfl

theorem IsDescribed.text_dto {e : Entity} (h : e.IsDescribed) :
    dtoNodes.textFor e.scope = .ok (textOf e.dtoLines) := by
  have hcreate := h.render_inputFields 3 " " "\"" fieldRule Member.rule
    fun m hm loop hr => (h.eval_fieldRule hm loop).trans (congrArg _ (optional_rule hr))
  have hupdate := h.render_inputFields 14 " *" ",omitempty\""
    (.filter fieldRule "optional_rule" .nil 15) (fun m => FieldType.optionalRule m.rule) fun m hm loop hr => by
      rw [eval_optionalRule, h.eval_fieldRule hm loop, bind_ok, optional_rule hr, ruleOf_str hr]
  rw [textFor_eq e.scope_self]
  simp only [dtoNodes, Nodes.ofList, render_text, render_print, render_printed,
    render_cons hcreate, render_cons hupdate, render_nil, eval_name, eval_snake, scope_entity,
    scope_plural, bind_ok, map_ok, text_str, behind]
  refine congrArg Except.ok ?_
  rw [← String.toList_inj]
  simp [dtoLines, typeLine, fieldTag, toList_textOf, toList_concat, Function.comp_def]

theorem accessor_method (a : Accessor) :
    (Value.accessor a).member "method_name" = .ok (.str a.method) := rfl

theorem accessor_field (a : Accessor) :
    (Value.accessor a).member "field_name" = .ok (.str a.field) := rfl

theorem accessor_goType (a : Accessor) :
    (Value.accessor a).member "field_type" = .ok (.str a.goType) := rfl

theorem eval_methodMember (scope : Scope) (a : Accessor) (name : String) :
    (methodMember name).eval (("method", .accessor a) :: scope) = (Value.accessor a).member name :=
  rfl

theorem eval_results (e : Entity) (a : Accessor) (loop : Value) :
    (Expr.call (methodMember "return_type") (.ofList [(.positional, .name "entity" "entity")])).eval
      (("method", .accessor a) :: ("loop", loop) :: e.scope) = .ok (.str (a.results e.name)) := by
  rfl

theorem render_accessorMethods (e : Entity) : accessorMethods.render e.scope =
    .ok (concat (e.accessors.map fun a => "\t" ++ (a.method ++ ("(" ++ (goIdentifier a.field ++
      (" " ++ (a.goType ++ (") " ++ (a.results e.name ++ "\n")))))))), e.scope) := by
  refine loop_ok (e.scope_searchMethods ▸ eval_name _ _ _) fun a _ position => ?_
  simp only [Nodes.ofList, render_text, render_print, render_nil, eval_results, eval_methodMember,
    eval_param, accessor_method, accessor_field, accessor_goType, bind_ok, map_ok, text_str, behind]
  rfl

theorem render_transactionNode (e : Entity) : transactionNode.render e.scope =
    .ok (textOf e.transactionLines, e.scope) := by
  have hlines : textOf e.transactionLines =
      if e.settings.transactions.truthy then
        "\tSaveWithTx(tx *gorm.DB, " ++ (e.variableName ++ (" *domain." ++ (e.name ++
          (") error\n\tUpdateWithTx(tx *gorm.DB, " ++ (e.variableName ++ (" *domain." ++ (e.name ++
            ") error\n\tDeleteWithTx(tx *gorm.DB, id uint) error\n"))))))) else "" := by
    rw [transactionLines]
    split
    · rw [← String.toList_inj]
      simp [toList_textOf]
    · rfl
  rw [hlines]
  refine when_ok (eval_name _ _ _) (e.scope_transactions ▸ truth_ofJson _) fun _ => ?_
  simp only [Nodes.ofList, render_text, render_printed, render_nil, scope_entity, scope_variable,
    bind_ok, map_ok, text_str, behind]
  rfl

theorem text_repository (e : Entity) :
    repositoryNodes.textFor e.scope = .ok (textOf e.interfaceLines) := by
  rw [textFor_eq e.scope_self]
  simp only [repositoryNodes, Nodes.ofList, render_text, render_printed,
    render_cons e.render_accessorMethods, render_cons e.render_transactionNode, render_nil,
    scope_entity, scope_variable, bind_ok, map_ok, text_str, behind]
  refine congrArg Except.ok ?_
  rw [← String.toList_inj]
  simp [interfaceLines, typeLine, toList_textOf, toList_concat, Function.comp_def]

end Entity

end GoScaffold
