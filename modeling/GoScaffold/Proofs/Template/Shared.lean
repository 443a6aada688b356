import GoScaffold.Proofs.Template.Statement
import GoScaffold.Proofs.Text.Characters
import GoScaffold.Template.Shelf

/-!
# The templates of shared files

What the built-in templates of the shared files say once they have been read. The handler and the
entity's own file are not shared, and only what cannot go wrong in them is of interest.
-/
namespace GoScaffold.Template

open GoScaffold.Text

def printed (name : String) : Node := .print (.name name name)

def fieldMember (name : String) : Expr := .member (.name "field" "field") name

def methodMember (name : String) : Expr := .member (.name "method" "method") name

def fieldRule : Expr :=
  .member (.item (.name "plans" "plans") (fieldMember "name")) "validation_rule"

/-- A loop over the user fields. -/
def eachField (line : Nat) (body : List Node) : Node :=
  .loop (.name "field" "field" line) (.name "user_fields" "user_fields") none (.ofList body) .nil

def validateTag (rule : Expr) : Node :=
  .branch (.both (.name "validation" "validation") fieldRule)
    (.ofList [.text " validate:\"", .print rule, .text "\""]) .nil

/-- The fields of an input, the columns, types and rules as the expressions say. -/
def inputFields (line : Nat) (star ending : String) (rule : Expr) : Node :=
  eachField line [
    .text "\t", .print (fieldMember "name"), .text star, .print (fieldMember "go_type"),
    .text " `json:\"", .print (fieldMember "json_name"), .text ending, validateTag rule,
    .text "`\n"]

def dtoNodes : Nodes := .ofList [
  .text "\ntype Create", printed "entity", .text "Input struct \x7b\n",
  inputFields 3 " " "\"" fieldRule,
  .text "\x7d\n\ntype Create", printed "entity", .text "Output struct \x7b\n\t", printed "entity",
  .text " domain.", printed "entity", .text " `json:\"",
  .print (.filter (.name "entity" "entity") "snake" .nil 9),
  .text "\"`\n\tMessage string `json:\"message\"`\n\x7d\n\ntype Update", printed "entity",
  .text "Input struct \x7b\n",
  inputFields 14 " *" ",omitempty\"" (.filter fieldRule "optional_rule" .nil 15),
  .text "\x7d\n\ntype List", printed "entity", .text "Output struct \x7b\n\t",
  printed "entity_plural", .text " []domain.", printed "entity", .text " `json:\"",
  .print (.filter (.name "entity_plural" "entity_plural") "snake" .nil 20),
  .text "\"`\n\tTotal int `json:\"total\"`\n\tMessage string `json:\"message\"`\n\x7d\n"]

def accessorMethods : Node :=
  .loop (.name "method" "method" 5) (.name "search_methods" "search_methods") none (.ofList [
    .text "\t", .print (methodMember "method_name"), .text "(",
    .print (.filter (methodMember "field_name") "param" .nil 6), .text " ",
    .print (methodMember "field_type"), .text ") ",
    .print (.call (methodMember "return_type") (.ofList [(.positional, .name "entity" "entity")])),
    .text "\n"]) .nil

def transactionNode : Node :=
  .branch (.name "transactions" "transactions") (.ofList [
    .text "\tSaveWithTx(tx *gorm.DB, ", printed "entity_var", .text " *domain.", printed "entity",
    .text ") error\n\tUpdateWithTx(tx *gorm.DB, ", printed "entity_var", .text " *domain.",
    printed "entity", .text ") error\n\tDeleteWithTx(tx *gorm.DB, id uint) error\n"]) .nil

def repositoryNodes : Nodes := .ofList [
  .text "\ntype ", printed "entity", .text "Repository interface \x7b\n\tSave(",
  printed "entity_var", .text " *domain.", printed "entity",
  .text ") error\n\tFindByID(id uint) (*domain.", printed "entity", .text ", error)\n",
  accessorMethods,
  .text "\tUpdate(", printed "entity_var", .text " *domain.", printed "entity",
  .text ") error\n\tDelete(id uint) error\n\tFindAll() ([]domain.", printed "entity",
  .text ", error)\n", transactionNode, .text "\x7d\n"]

def requiredRule : Expr :=
  .both fieldRule (.call (.member fieldRule "startswith")
    (.ofList [(.positional, .literal (.str "required"))]))

def requiredMessages : Node :=
  eachField 6 [.branch requiredRule (.ofList [
    .text "\tErr", printed "entity", .print (fieldMember "name"), .text "Required = \"",
    printed "entity_label", .text " ",
    .print (.filter (.filter (fieldMember "name") "snake" .nil 8) "replace"
      (.ofList [(.positional, .literal (.str "_")), (.positional, .literal (.str " "))]) 8),
    .text " is required\"\n"]) .nil]

def errorMessagesNodes : Nodes := .ofList [
  .text "\n\t// ", printed "entity", .text " errors\n\tErr", printed "entity",
  .text "NotFound = \"", printed "entity_label", .text " not found\"\n\tErr", printed "entity",
  .text "AlreadyExists = \"", printed "entity_label", .text " already exists\"\n\tErrInvalid",
  printed "entity", .text "Data = \"invalid ", printed "entity_label", .text " data\"\n",
  requiredMessages,
  .text "\tErr", printed "entity", .text "UpdateFailed = \"failed to update ",
  printed "entity_label", .text "\"\n\tErr", printed "entity",
  .text "DeleteFailed = \"failed to delete ", printed "entity_label", .text "\"\n"]

def responseMessagesNodes : Nodes := .ofList [
  .text "\n\t// ", printed "entity", .text " success messages\n\t", printed "entity",
  .text "CreatedSuccessfully = \"", printed "entity_label",
  .text " created successfully\"\n\t", printed "entity", .text "UpdatedSuccessfully = \"",
  printed "entity_label", .text " updated successfully\"\n\t", printed "entity",
  .text "DeletedSuccessfully = \"", printed "entity_label",
  .text " deleted successfully\"\n\t", printed "entity", .text "FoundSuccessfully = \"",
  printed "entity_label", .text " found successfully\"\n\t", printed "entity_plural",
  .text "ListedSuccessfully = \"", printed "entity_plural_label",
  .text " listed successfully\"\n"]

def columnConstants : Node :=
  eachField 8 [
    .text "\t", printed "entity", .print (fieldMember "name"), .text "Column = \"",
    .print (fieldMember "column"), .text "\"\n"]

def constantsNodes : Nodes := .ofList [
  .text "\n\t// ", printed "entity", .text " constants\n\t", printed "entity",
  .text "TableName = \"", printed "table_name", .text "\"\n\t", printed "entity",
  .text "Endpoint = \"/", printed "route", .text "\"\n\t", printed "entity",
  .text "CachePrefix = \"", .print (.filter (.name "entity" "entity") "snake" .nil 5),
  .text ":\"\n\tDefault", printed "entity", .text "PerPage = 20\n\tMax", printed "entity",
  .text "PerPage = 100\n", columnConstants]

/-- Reads the statements of a template whose characters are given one by one. -/
def readChars (name : Option String) (cs : List Char) : Except CompileFault Nodes :=
  let cs := normalizeNewlines cs
  let s := scanFrom (cs.length + 1) (.text true) 1 0 cs
  match s.lexemes, s.stop with
  | [], some f => .error f
  | lexemes, stop =>
    let size := lexemes.length + 1
    (·.1) <$> (Nodes.read size size []).run { ahead := lexemes, stop, template := name }

theorem read_eq_readChars (name : Option String) (template : String) :
    read name template = readChars name template.toList := rfl

def compileChars (name : Option String) (cs : List Char) : Compiled Nodes := do
  let nodes ← readChars name cs
  let nodes ← (nodes.scoped name).ready false
  match nodes.misshapen? with
  | some f => throw (.failed f)
  | none => return nodes

theorem compile_eq (name : Option String) (template : String) :
    compile name template = compileChars name template.toList := by
  rw [compile, read_eq_readChars]
  rfl

def lineCharacters : List String → List Char
  | [] => []
  | l :: ls => characters l ++ '\n' :: lineCharacters ls

theorem compile_textOf (name : Option String) (ls : List String) :
    compile name (textOf ls) = compileChars name (lineCharacters ls) := by
  have hls : (textOf ls).toList = lineCharacters ls := by
    induction ls with
    | nil => rfl
    | cons l ls ih =>
      rw [lineCharacters, ← ih, characters_eq]
      simp [textOf, concat]
  rw [compile_eq, hls]

theorem eq_ok_of_toOption {ε α : Type} {r : Except ε α} {a : α} (h : r.toOption = some a) :
    r = .ok a := by
  cases r with
  | error f => cases h
  | ok b => exact congrArg Except.ok (Option.some.inj h)

-- A template is read line by line: the kernel is slow at the characters of a long text.
set_option maxRecDepth 100000 in
/-- The statements of each shared template. -/
theorem compile_shared :
    compile (some "constants/constants") constantsTemplate = .ok constantsNodes ∧
    compile (some "messages/responses") responseMessagesTemplate = .ok responseMessagesNodes ∧
    compile (some "messages/errors") errorMessagesTemplate = .ok errorMessagesNodes ∧
    compile (some "repository/interface") repositoryTemplate = .ok repositoryNodes ∧
    compile (some "usecase/dto") dtoTemplate = .ok dtoNodes := by
  refine ⟨eq_ok_of_toOption ?constants, eq_ok_of_toOption ?responses, eq_ok_of_toOption ?errors,
    eq_ok_of_toOption ?repository, eq_ok_of_toOption ?dto⟩
  case constants =>
    rw [constantsTemplate, compile_textOf]
    decide +kernel
  case responses =>
    rw [responseMessagesTemplate, compile_textOf]
    decide +kernel
  case errors =>
    rw [errorMessagesTemplate, compile_textOf]
    decide +kernel
  case repository =>
    rw [repositoryTemplate, compile_textOf]
    decide +kernel
  case dto =>
    rw [dtoTemplate, compile_textOf]
    decide +kernel

end GoScaffold.Template

/-! ## The templates of an entity's own files

What the built-in template of the entity's own file says once it has been read, and what the one of
the handler asks of the names it uses: under names that fit it cannot fail. -/

namespace GoScaffold.Template

open GoScaffold.Text

def checkMember (name : String) : Expr := .member (.name "check" "check") name

def ruleMember (name : String) : Expr := .member (.name "rule" "rule") name

def importEntries : Node :=
  .loop (.name "imp" "imp" 5) (.name "imports" "imports") none
    (.ofList [.text "\t\"", printed "imp", .text "\"\n"]) .nil

/-- The imports, where there are any. -/
def importNode : Node :=
  .branch (.name "imports" "imports")
    (.ofList [.text "\nimport (\n", importEntries, .text ")\n"]) .nil

def structFields : Node :=
  .loop (.name "field" "field" 12) (.name "fields" "fields") none (.ofList [
    .text "\t", .print (fieldMember "name"), .text " ", .print (fieldMember "go_type"),
    .text " `", .print (fieldMember "tag"), .text "`\n"]) .nil

/-- The checks of the field values, each with the error that it returns. -/
def checkNode : Node :=
  .loop (.name "check" "check" 19) (.name "checks" "checks") none (.ofList [
    .text "\tif ", .print (checkMember "condition"), .text " \x7b\n\t\treturn ",
    .print (checkMember "error"), .text "\n\t\x7d\n"]) .nil

def validateNode : Node :=
  .branch (.name "validation" "validation") (.ofList [
    .text "\nfunc (", printed "receiver", .text " *", printed "entity",
    .text ") Validate() error \x7b\n", checkNode, .text "\treturn nil\n\x7d\n"]) .nil

def ruleNode : Node :=
  .loop (.name "rule" "rule" 27) (.name "business_rules" "business_rules") none (.ofList [
    .text "\nfunc (", printed "receiver", .text " *", printed "entity", .text ") ",
    .print (ruleMember "name"), .text "() bool \x7b\n\treturn ",
    .print (ruleMember "expression"), .text "\n\x7d\n"]) .nil

def softDeleteNode : Node :=
  .branch (.name "soft_delete" "soft_delete") (.ofList [
    .text "\nfunc (", printed "receiver", .text " *", printed "entity",
    .text ") SoftDelete() \x7b\n\tnow := time.Now()\n\t", printed "receiver",
    .text ".DeletedAt = &now\n\x7d\n\nfunc (", printed "receiver", .text " *", printed "entity",
    .text ") IsDeleted() bool \x7b\n\treturn ", printed "receiver",
    .text ".DeletedAt != nil\n\x7d\n"]) .nil

def entityNodes : Nodes := .ofList [
  .text "package domain\n", importNode, .text "\ntype ", printed "entity", .text " struct \x7b\n",
  structFields, .text "\x7d\n", validateNode, ruleNode, softDeleteNode]

def handlerNames : List String := ["entity", "entity_var", "entity_plural", "route", "module"]

theorem exists_of_toOption_any {ε α : Type} {r : Except ε α} {p : α → Bool}
    (h : r.toOption.any p = true) : ∃ a, r = .ok a ∧ p a = true := by
  cases r with
  | error f => simp [Except.toOption] at h
  | ok a => exact ⟨a, rfl, h⟩

set_option maxRecDepth 100000 in
theorem compile_entity : compile (some "domain/entity") entityTemplate = .ok entityNodes := by
  refine eq_ok_of_toOption ?_
  rw [entityTemplate, compile_textOf]
  decide +kernel

set_option maxRecDepth 100000 in
theorem compile_handler : ∃ nodes,
    compile (some "handler/http/handler") handlerTemplate = .ok nodes ∧
      nodes.areSafe handlerNames = true := by
  refine exists_of_toOption_any ?_
  rw [handlerTemplate, compile_textOf]
  decide +kernel

end GoScaffold.Template
