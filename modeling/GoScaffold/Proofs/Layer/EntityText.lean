import GoScaffold.Proofs.Layer.SharedText
import GoScaffold.Proofs.Template.Shared

/-!
# The file of an entity

The lines of the entity's own file in the domain, and that the built-in template comes to them.
-/
namespace GoScaffold.Entity

open GoScaffold.Text GoScaffold.Naming GoScaffold.Template

def fieldLine (m : Member) : String := "\t" ++ m.name ++ " " ++ m.goType ++ " `" ++ m.field.tag ++ "`"

def methodLine (e : Entity) (signature : String) : String :=
  "func (" ++ e.receiver ++ " *" ++ e.name ++ ") " ++ signature ++ " \x7b"

def checkLines (c : ValueCheck) : List String :=
  ["\tif " ++ c.condition ++ " \x7b", "\t\treturn " ++ c.error, "\t\x7d"]

def validateLines (e : Entity) : List String :=
  if e.settings.validation.truthy then
    "" :: e.methodLine "Validate() error" :: e.checks.flatMap checkLines ++ ["\treturn nil", "\x7d"]
  else []

def ruleLines (e : Entity) (r : BusinessRule) : List String :=
  ["", e.methodLine (r.method ++ "() bool"), "\treturn " ++ e.ruleExpression r, "\x7d"]

def softDeleteLines (e : Entity) : List String :=
  if e.settings.softDelete.truthy then [
    "", e.methodLine "SoftDelete()", "\tnow := time.Now()",
    "\t" ++ e.receiver ++ ".DeletedAt = &now", "\x7d",
    "", e.methodLine "IsDeleted() bool", "\treturn " ++ e.receiver ++ ".DeletedAt != nil", "\x7d"]
  else []

def entityLines (e : Entity) : List String :=
  "package domain" :: importLines e.entityImports ++ ["", typeLine e.name "struct"] ++
    e.members.map fieldLine ++ ["\x7d"] ++ e.validateLines ++ e.businessRules.flatMap e.ruleLines ++
    e.softDeleteLines

section Names

variable (e : Entity)

theorem entityScope_entity : e.entityScope.value "entity" "entity" = .str e.name := rfl

theorem entityScope_receiver : e.entityScope.value "receiver" "receiver" = .str e.receiver := rfl

theorem entityScope_imports : e.entityScope.value "imports" "imports" =
    .list (e.entityImports.map .str) := rfl

theorem entityScope_fields : e.entityScope.value "fields" "fields" =
    .list (e.members.map fun m => .field m.field) := by
  change Value.list (e.fields.map .field) = _
  rw [Entity.fields, List.map_map]
  rfl

theorem entityScope_checks : e.entityScope.value "checks" "checks" =
    .list (e.checks.map checkValue) := rfl

theorem entityScope_rules : e.entityScope.value "business_rules" "business_rules" =
    .list (e.businessRules.map e.ruleValue) := rfl

theorem entityScope_validation :
    e.entityScope.value "validation" "validation" = .ofJson e.settings.validation := rfl

theorem entityScope_softDelete :
    e.entityScope.value "soft_delete" "soft_delete" = .ofJson e.settings.softDelete := rfl

theorem entityScope_self : e.entityScope.any (·.1 == "self") = false := rfl

end Names

theorem field_tag (f : Field) : (Value.field f).member "tag" = .ok (.str f.tag) := rfl

theorem check_condition (c : ValueCheck) :
    (checkValue c).member "condition" = .ok (.str c.condition) := rfl

theorem check_error (c : ValueCheck) : (checkValue c).member "error" = .ok (.str c.error) := rfl

theorem rule_name (e : Entity) (r : BusinessRule) :
    (e.ruleValue r).member "name" = .ok (.str r.method) := rfl

theorem rule_expression (e : Entity) (r : BusinessRule) :
    (e.ruleValue r).member "expression" = .ok (.str (e.ruleExpression r)) := rfl

theorem truth_list (vs : List Value) : (Value.list vs).truth = .ok (!vs.isEmpty) := rfl

variable (e : Entity)

theorem render_importNode : importNode.render e.entityScope =
    .ok (textOf (importLines e.entityImports), e.entityScope) := by
  have hlines : textOf (importLines e.entityImports) =
      if !(e.entityImports.map Value.str).isEmpty then
        "\nimport (\n" ++ (concat (e.entityImports.map fun i => "\t\"" ++ (i ++ "\"\n")) ++ ")\n")
      else "" := by
    rw [importLines, List.isEmpty_map]
    cases h : e.entityImports.isEmpty with
    | true => rfl
    | false =>
      rw [← String.toList_inj]
      simp [toList_textOf, toList_concat, Function.comp_def]
  have hloop : importEntries.render e.entityScope =
      .ok (concat (e.entityImports.map fun i => "\t\"" ++ (i ++ "\"\n")), e.entityScope) := by
    refine loop_ok (e.entityScope_imports ▸ eval_name _ _ _) fun i _ position => ?_
    simp only [Nodes.ofList, render_text, render_printed, render_nil, value_cons, bind_ok, map_ok,
      text_str, behind]
    rfl
  rw [hlines]
  refine when_ok (eval_name _ _ _) (e.entityScope_imports ▸ truth_list _) fun _ => ?_
  simp only [Nodes.ofList, render_text, render_cons hloop, render_nil, map_ok, behind]
  rfl

theorem render_structFields : structFields.render e.entityScope =
    .ok (textOf (e.members.map fieldLine), e.entityScope) := by
  have hlines : textOf (e.members.map fieldLine) = concat (e.members.map fun m =>
      "\t" ++ (m.name ++ (" " ++ (m.goType ++ (" `" ++ (m.field.tag ++ "`\n")))))) := by
    rw [← String.toList_inj]
    simp [fieldLine, toList_textOf, toList_concat, Function.comp_def]
  rw [hlines]
  refine loop_ok (e.entityScope_fields ▸ eval_name _ _ _) fun m _ position => ?_
  simp only [Nodes.ofList, render_text, render_print, render_nil, fieldMember, eval_name,
    eval_member, value_cons, field_name, field_goType, field_tag, bind_ok, map_ok, text_str, behind]
  rfl

theorem render_checkNode : checkNode.render e.entityScope =
    .ok (textOf (e.checks.flatMap checkLines), e.entityScope) := by
  have hlines : textOf (e.checks.flatMap checkLines) = concat (e.checks.map fun c =>
      "\tif " ++ (c.condition ++ (" \x7b\n\t\treturn " ++ (c.error ++ "\n\t\x7d\n")))) := by
    rw [← String.toList_inj]
    simp [checkLines, toList_textOf, toList_concat, Function.comp_def, List.flatMap_def,
      List.map_flatten, List.flatten_flatten]
  rw [hlines]
  refine loop_ok (e.entityScope_checks ▸ eval_name _ _ _) fun c _ position => ?_
  simp only [Nodes.ofList, render_text, render_print, render_nil, checkMember, eval_name,
    eval_member, value_cons, check_condition, check_error, bind_ok, map_ok, text_str, behind]
  rfl

theorem render_validateNode : validateNode.render e.entityScope =
    .ok (textOf e.validateLines, e.entityScope) := by
  have hlines : textOf e.validateLines =
      if e.settings.validation.truthy then
        "\nfunc (" ++ (e.receiver ++ (" *" ++ (e.name ++ (") Validate() error \x7b\n" ++
          (textOf (e.checks.flatMap checkLines) ++ "\treturn nil\n\x7d\n"))))) else "" := by
    rw [validateLines]
    split
    · rw [← String.toList_inj]
      simp [methodLine, toList_textOf]
    · rfl
  rw [hlines]
  refine when_ok (eval_name _ _ _) (e.entityScope_validation ▸ truth_ofJson _) fun _ => ?_
  simp only [Nodes.ofList, render_text, render_printed, render_cons e.render_checkNode, render_nil,
    entityScope_entity, entityScope_receiver, bind_ok, map_ok, text_str, behind]
  rfl

theorem render_ruleNode : ruleNode.render e.entityScope =
    .ok (textOf (e.businessRules.flatMap e.ruleLines), e.entityScope) := by
  have hlines : textOf (e.businessRules.flatMap e.ruleLines) =
      concat (e.businessRules.map fun r => "\nfunc (" ++ (e.receiver ++ (" *" ++ (e.name ++ (") " ++
        (r.method ++ ("() bool \x7b\n\treturn " ++ (e.ruleExpression r ++ "\n\x7d\n")))))))) := by
    rw [← String.toList_inj]
    simp [ruleLines, methodLine, toList_textOf, toList_concat, Function.comp_def, List.flatMap_def,
      List.map_flatten, List.flatten_flatten]
  rw [hlines]
  refine loop_ok (e.entityScope_rules ▸ eval_name _ _ _) fun r _ position => ?_
  simp only [Nodes.ofList, render_text, render_print, render_printed, render_nil, ruleMember,
    eval_name, eval_member, value_cons, value_cons_of_ne, ne_eq, String.reduceEq, not_false_eq_true,
    entityScope_entity, entityScope_receiver, rule_name, rule_expression, bind_ok, map_ok, text_str,
    behind]
  rfl

theorem render_softDeleteNode : softDeleteNode.render e.entityScope =
    .ok (textOf e.softDeleteLines, e.entityScope) := by
  have hlines : textOf e.softDeleteLines =
      if e.settings.softDelete.truthy then
        "\nfunc (" ++ (e.receiver ++ (" *" ++ (e.name ++
          (") SoftDelete() \x7b\n\tnow := time.Now()\n\t" ++ (e.receiver ++
            (".DeletedAt = &now\n\x7d\n\nfunc (" ++ (e.receiver ++ (" *" ++ (e.name ++
              (") IsDeleted() bool \x7b\n\treturn " ++ (e.receiver ++
                ".DeletedAt != nil\n\x7d\n"))))))))))) else "" := by
    rw [softDeleteLines]
    split
    · rw [← String.toList_inj]
      simp [methodLine, toList_textOf]
    · rfl
  rw [hlines]
  refine when_ok (eval_name _ _ _) (e.entityScope_softDelete ▸ truth_ofJson _) fun _ => ?_
  simp only [Nodes.ofList, render_text, render_printed, render_nil, entityScope_entity,
    entityScope_receiver, bind_ok, map_ok, text_str, behind]
  rfl

theorem text_entity : entityNodes.textFor e.entityScope = .ok (textOf e.entityLines) := by
  rw [textFor_eq e.entityScope_self]
  simp only [entityNodes, Nodes.ofList, render_text, render_printed, render_cons e.render_importNode,
    render_cons e.render_structFields, render_cons e.render_validateNode,
    render_cons e.render_ruleNode, render_cons e.render_softDeleteNode, render_nil,
    entityScope_entity, bind_ok, map_ok, text_str, behind]
  refine congrArg Except.ok ?_
  rw [← String.toList_inj]
  simp [entityLines, typeLine, toList_textOf]

end GoScaffold.Entity
