import GoScaffold.Text.Split

/-!
# Built-in templates

The templates used where a project brings none of its own. The template of a shared file holds only
the declarations of one entity; what surrounds them is added when the file is written.
-/
namespace GoScaffold.Template

open GoScaffold.Text

/-- An expression to be printed. -/
def shown (e : String) : String := "\x7b\x7b " ++ e ++ " \x7d\x7d"

def tag (statement : String) : String := "\x7b% " ++ statement ++ " %\x7d"

/-- Each line with its newline. -/
def textOf (lines : List String) : String := concat (lines.map (· ++ "\n"))

/-- The entity with its validation, business rules and soft deletion. -/
def entityTemplate : String := textOf [
  "package domain",
  tag "if imports",
  "",
  "import (",
  tag "for imp in imports",
  "\t\"" ++ shown "imp" ++ "\"",
  tag "endfor",
  ")",
  tag "endif",
  "",
  "type " ++ shown "entity" ++ " struct \x7b",
  tag "for field in fields",
  "\t" ++ shown "field.name" ++ " " ++ shown "field.go_type" ++ " `" ++ shown "field.tag" ++ "`",
  tag "endfor",
  "\x7d",
  tag "if validation",
  "",
  "func (" ++ shown "receiver" ++ " *" ++ shown "entity" ++ ") Validate() error \x7b",
  tag "for check in checks",
  "\tif " ++ shown "check.condition" ++ " \x7b",
  "\t\treturn " ++ shown "check.error",
  "\t\x7d",
  tag "endfor",
  "\treturn nil",
  "\x7d",
  tag "endif",
  tag "for rule in business_rules",
  "",
  "func (" ++ shown "receiver" ++ " *" ++ shown "entity" ++ ") " ++ shown "rule.name" ++
    "() bool \x7b",
  "\treturn " ++ shown "rule.expression",
  "\x7d",
  tag "endfor",
  tag "if soft_delete",
  "",
  "func (" ++ shown "receiver" ++ " *" ++ shown "entity" ++ ") SoftDelete() \x7b",
  "\tnow := time.Now()",
  "\t" ++ shown "receiver" ++ ".DeletedAt = &now",
  "\x7d",
  "",
  "func (" ++ shown "receiver" ++ " *" ++ shown "entity" ++ ") IsDeleted() bool \x7b",
  "\treturn " ++ shown "receiver" ++ ".DeletedAt != nil",
  "\x7d",
  tag "endif"]

/-- The inputs and outputs of the use cases. -/
def dtoTemplate : String := textOf [
  "",
  "type Create" ++ shown "entity" ++ "Input struct \x7b",
  tag "for field in user_fields",
  "\t" ++ shown "field.name" ++ " " ++ shown "field.go_type" ++ " `json:\"" ++
    shown "field.json_name" ++ "\"" ++
    tag "if validation and plans[field.name].validation_rule" ++ " validate:\"" ++
    shown "plans[field.name].validation_rule" ++ "\"" ++ tag "endif" ++ "`",
  tag "endfor",
  "\x7d",
  "",
  "type Create" ++ shown "entity" ++ "Output struct \x7b",
  "\t" ++ shown "entity" ++ " domain." ++ shown "entity" ++ " `json:\"" ++
    shown "entity | snake" ++ "\"`",
  "\tMessage string `json:\"message\"`",
  "\x7d",
  "",
  "type Update" ++ shown "entity" ++ "Input struct \x7b",
  tag "for field in user_fields",
  "\t" ++ shown "field.name" ++ " *" ++ shown "field.go_type" ++ " `json:\"" ++
    shown "field.json_name" ++ ",omitempty\"" ++
    tag "if validation and plans[field.name].validation_rule" ++ " validate:\"" ++
    shown "plans[field.name].validation_rule | optional_rule" ++ "\"" ++ tag "endif" ++ "`",
  tag "endfor",
  "\x7d",
  "",
  "type List" ++ shown "entity" ++ "Output struct \x7b",
  "\t" ++ shown "entity_plural" ++ " []domain." ++ shown "entity" ++ " `json:\"" ++
    shown "entity_plural | snake" ++ "\"`",
  "\tTotal int `json:\"total\"`",
  "\tMessage string `json:\"message\"`",
  "\x7d"]

/-- The methods by which the entity is stored and looked up. -/
def repositoryTemplate : String := textOf [
  "",
  "type " ++ shown "entity" ++ "Repository interface \x7b",
  "\tSave(" ++ shown "entity_var" ++ " *domain." ++ shown "entity" ++ ") error",
  "\tFindByID(id uint) (*domain." ++ shown "entity" ++ ", error)",
  tag "for method in search_methods",
  "\t" ++ shown "method.method_name" ++ "(" ++ shown "method.field_name | param" ++ " " ++
    shown "method.field_type" ++ ") " ++ shown "method.return_type(entity)",
  tag "endfor",
  "\tUpdate(" ++ shown "entity_var" ++ " *domain." ++ shown "entity" ++ ") error",
  "\tDelete(id uint) error",
  "\tFindAll() ([]domain." ++ shown "entity" ++ ", error)",
  tag "if transactions",
  "\tSaveWithTx(tx *gorm.DB, " ++ shown "entity_var" ++ " *domain." ++ shown "entity" ++ ") error",
  "\tUpdateWithTx(tx *gorm.DB, " ++ shown "entity_var" ++ " *domain." ++ shown "entity" ++
    ") error",
  "\tDeleteWithTx(tx *gorm.DB, id uint) error",
  tag "endif",
  "\x7d"]

def handlerTemplate : String := textOf [
  "package http",
  "",
  "import (",
  "\t\"encoding/json\"",
  "\t\"net/http\"",
  "\t\"strconv\"",
  "",
  "\t\"github.com/gorilla/mux\"",
  "\t\"" ++ shown "module" ++ "/internal/domain\"",
  "\t\"" ++ shown "module" ++ "/internal/usecase\"",
  ")",
  "",
  "// " ++ shown "entity" ++ "Service is the use case port the handler depends on.",
  "type " ++ shown "entity" ++ "Service interface \x7b",
  "\tCreate" ++ shown "entity" ++ "(input usecase.Create" ++ shown "entity" ++
    "Input) (*usecase.Create" ++ shown "entity" ++ "Output, error)",
  "\tGet" ++ shown "entity" ++ "(id uint) (*domain." ++ shown "entity" ++ ", error)",
  "\tUpdate" ++ shown "entity" ++ "(id uint, input usecase.Update" ++ shown "entity" ++
    "Input) error",
  "\tDelete" ++ shown "entity" ++ "(id uint) error",
  "\tList" ++ shown "entity_plural" ++ "() (*usecase.List" ++ shown "entity" ++ "Output, error)",
  "\x7d",
  "",
  "type " ++ shown "entity" ++ "Handler struct \x7b",
  "\tservice " ++ shown "entity" ++ "Service",
  "\x7d",
  "",
  "func New" ++ shown "entity" ++ "Handler(service " ++ shown "entity" ++ "Service) *" ++
    shown "entity" ++ "Handler \x7b",
  "\treturn &" ++ shown "entity" ++ "Handler\x7bservice: service\x7d",
  "\x7d",
  "",
  "func Register" ++ shown "entity" ++ "Routes(r *mux.Router, h *" ++ shown "entity" ++
    "Handler) \x7b",
  "\tr.HandleFunc(\"/" ++ shown "route" ++ "\", h.Create" ++ shown "entity" ++
    ").Methods(http.MethodPost)",
  "\tr.HandleFunc(\"/" ++ shown "route" ++ "\", h.List" ++ shown "entity_plural" ++
    ").Methods(http.MethodGet)",
  "\tr.HandleFunc(\"/" ++ shown "route" ++ "/\x7bid\x7d\", h.Get" ++ shown "entity" ++
    ").Methods(http.MethodGet)",
  "\tr.HandleFunc(\"/" ++ shown "route" ++ "/\x7bid\x7d\", h.Update" ++ shown "entity" ++
    ").Methods(http.MethodPut)",
  "\tr.HandleFunc(\"/" ++ shown "route" ++ "/\x7bid\x7d\", h.Delete" ++ shown "entity" ++
    ").Methods(http.MethodDelete)",
  "\x7d",
  "",
  "func (h *" ++ shown "entity" ++ "Handler) Create" ++ shown "entity" ++
    "(w http.ResponseWriter, r *http.Request) \x7b",
  "\tvar input usecase.Create" ++ shown "entity" ++ "Input",
  "\tif err := json.NewDecoder(r.Body).Decode(&input); err != nil \x7b",
  "\t\thttp.Error(w, \"Invalid request body\", http.StatusBadRequest)",
  "\t\treturn",
  "\t\x7d",
  "",
  "\toutput, err := h.service.Create" ++ shown "entity" ++ "(input)",
  "\tif err != nil \x7b",
  "\t\thttp.Error(w, err.Error(), http.StatusInternalServerError)",
  "\t\treturn",
  "\t\x7d",
  "",
  "\twrite" ++ shown "entity" ++ "JSON(w, http.StatusCreated, output)",
  "\x7d",
  "",
  "func (h *" ++ shown "entity" ++ "Handler) Get" ++ shown "entity" ++
    "(w http.ResponseWriter, r *http.Request) \x7b",
  "\tid, err := parse" ++ shown "entity" ++ "ID(r)",
  "\tif err != nil \x7b",
  "\t\thttp.Error(w, \"Invalid " ++ shown "entity | lower" ++ " ID\", http.StatusBadRequest)",
  "\t\treturn",
  "\t\x7d",
  "",
  "\t" ++ shown "entity_var" ++ ", err := h.service.Get" ++ shown "entity" ++ "(id)",
  "\tif err != nil \x7b",
  "\t\thttp.Error(w, err.Error(), http.StatusNotFound)",
  "\t\treturn",
  "\t\x7d",
  "",
  "\twrite" ++ shown "entity" ++ "JSON(w, http.StatusOK, " ++ shown "entity_var" ++ ")",
  "\x7d",
  "",
  "func (h *" ++ shown "entity" ++ "Handler) Update" ++ shown "entity" ++
    "(w http.ResponseWriter, r *http.Request) \x7b",
  "\tid, err := parse" ++ shown "entity" ++ "ID(r)",
  "\tif err != nil \x7b",
  "\t\thttp.Error(w, \"Invalid " ++ shown "entity | lower" ++ " ID\", http.StatusBadRequest)",
  "\t\treturn",
  "\t\x7d",
  "",
  "\tvar input usecase.Update" ++ shown "entity" ++ "Input",
  "\tif err := json.NewDecoder(r.Body).Decode(&input); err != nil \x7b",
  "\t\thttp.Error(w, \"Invalid request body\", http.StatusBadRequest)",
  "\t\treturn",
  "\t\x7d",
  "",
  "\tif err := h.service.Update" ++ shown "entity" ++ "(id, input); err != nil \x7b",
  "\t\thttp.Error(w, err.Error(), http.StatusInternalServerError)",
  "\t\treturn",
  "\t\x7d",
  "",
  "\tw.WriteHeader(http.StatusNoContent)",
  "\x7d",
  "",
  "func (h *" ++ shown "entity" ++ "Handler) Delete" ++ shown "entity" ++
    "(w http.ResponseWriter, r *http.Request) \x7b",
  "\tid, err := parse" ++ shown "entity" ++ "ID(r)",
  "\tif err != nil \x7b",
  "\t\thttp.Error(w, \"Invalid " ++ shown "entity | lower" ++ " ID\", http.StatusBadRequest)",
  "\t\treturn",
  "\t\x7d",
  "",
  "\tif err := h.service.Delete" ++ shown "entity" ++ "(id); err != nil \x7b",
  "\t\thttp.Error(w, err.Error(), http.StatusInternalServerError)",
  "\t\treturn",
  "\t\x7d",
  "",
  "\tw.WriteHeader(http.StatusNoContent)",
  "\x7d",
  "",
  "func (h *" ++ shown "entity" ++ "Handler) List" ++ shown "entity_plural" ++
    "(w http.ResponseWriter, r *http.Request) \x7b",
  "\toutput, err := h.service.List" ++ shown "entity_plural" ++ "()",
  "\tif err != nil \x7b",
  "\t\thttp.Error(w, err.Error(), http.StatusInternalServerError)",
  "\t\treturn",
  "\t\x7d",
  "",
  "\twrite" ++ shown "entity" ++ "JSON(w, http.StatusOK, output)",
  "\x7d",
  "",
  "func parse" ++ shown "entity" ++ "ID(r *http.Request) (uint, error) \x7b",
  "\tid, err := strconv.ParseUint(mux.Vars(r)[\"id\"], 10, 64)",
  "\tif err != nil \x7b",
  "\t\treturn 0, err",
  "\t\x7d",
  "\treturn uint(id), nil",
  "\x7d",
  "",
  "func write" ++ shown "entity" ++
    "JSON(w http.ResponseWriter, status int, payload interface\x7b\x7d) \x7b",
  "\tw.Header().Set(\"Content-Type\", \"application/json\")",
  "\tw.WriteHeader(status)",
  "\tjson.NewEncoder(w).Encode(payload)",
  "\x7d"]

def errorMessagesTemplate : String := textOf [
  "",
  "\t// " ++ shown "entity" ++ " errors",
  "\tErr" ++ shown "entity" ++ "NotFound = \"" ++ shown "entity_label" ++ " not found\"",
  "\tErr" ++ shown "entity" ++ "AlreadyExists = \"" ++ shown "entity_label" ++ " already exists\"",
  "\tErrInvalid" ++ shown "entity" ++ "Data = \"invalid " ++ shown "entity_label" ++ " data\"",
  tag "for field in user_fields",
  tag ("if plans[field.name].validation_rule and " ++
    "plans[field.name].validation_rule.startswith(\"required\")"),
  "\tErr" ++ shown "entity" ++ shown "field.name" ++ "Required = \"" ++ shown "entity_label" ++
    " " ++ shown "field.name | snake | replace(\"_\", \" \")" ++ " is required\"",
  tag "endif",
  tag "endfor",
  "\tErr" ++ shown "entity" ++ "UpdateFailed = \"failed to update " ++ shown "entity_label" ++
    "\"",
  "\tErr" ++ shown "entity" ++ "DeleteFailed = \"failed to delete " ++ shown "entity_label" ++
    "\""]

def responseMessagesTemplate : String := textOf [
  "",
  "\t// " ++ shown "entity" ++ " success messages",
  "\t" ++ shown "entity" ++ "CreatedSuccessfully = \"" ++ shown "entity_label" ++
    " created successfully\"",
  "\t" ++ shown "entity" ++ "UpdatedSuccessfully = \"" ++ shown "entity_label" ++
    " updated successfully\"",
  "\t" ++ shown "entity" ++ "DeletedSuccessfully = \"" ++ shown "entity_label" ++
    " deleted successfully\"",
  "\t" ++ shown "entity" ++ "FoundSuccessfully = \"" ++ shown "entity_label" ++
    " found successfully\"",
  "\t" ++ shown "entity_plural" ++ "ListedSuccessfully = \"" ++ shown "entity_plural_label" ++
    " listed successfully\""]

def constantsTemplate : String := textOf [
  "",
  "\t// " ++ shown "entity" ++ " constants",
  "\t" ++ shown "entity" ++ "TableName = \"" ++ shown "table_name" ++ "\"",
  "\t" ++ shown "entity" ++ "Endpoint = \"/" ++ shown "route" ++ "\"",
  "\t" ++ shown "entity" ++ "CachePrefix = \"" ++ shown "entity | snake" ++ ":\"",
  "\tDefault" ++ shown "entity" ++ "PerPage = 20",
  "\tMax" ++ shown "entity" ++ "PerPage = 100",
  tag "for field in user_fields",
  "\t" ++ shown "entity" ++ shown "field.name" ++ "Column = \"" ++ shown "field.column" ++ "\"",
  tag "endfor"]

def builtins : List (String × String) := [
  ("domain/entity", entityTemplate),
  ("usecase/dto", dtoTemplate),
  ("repository/interface", repositoryTemplate),
  ("handler/http/handler", handlerTemplate),
  ("messages/errors", errorMessagesTemplate),
  ("messages/responses", responseMessagesTemplate),
  ("constants/constants", constantsTemplate)]

end GoScaffold.Template
