import GoScaffold.Entity.Scope
import GoScaffold.GoSource.Block
import GoScaffold.GoSource.Imports

/-!
# The domain layer

Business rules that well-known field names call for, checks of the field values, the errors that the
checks return, and sample records, which are the same in every run.
-/
namespace GoScaffold

open GoScaffold.Text GoScaffold.Naming GoScaffold.Template

/-- A method that a field of a given name and kind calls for. Its expression is the value between
two texts. -/
structure BusinessRule where
  field : String
  method : String
  before : String := ""
  after : String
  kinds : List Kind
  package : Option String := none
  deriving Repr, DecidableEq

namespace BusinessRule

def all : List BusinessRule := [
  { field := "Age", method := "IsAdult", after := " >= 18", kinds := [.integer, .unsigned] },
  { field := "Price", method := "IsExpensive", after := " > 1000.0",
    kinds := [.float, .integer, .unsigned] },
  { field := "Email", method := "HasValidEmail", before := "strings.Contains(", after := ", \"@\")",
    kinds := [.string], package := some "strings" },
  { field := "Status", method := "IsActive", after := " == \"active\"", kinds := [.string] }]

/-- The rule that a member calls for. -/
def forMember? (m : Member) : Option BusinessRule :=
  all.find? fun r => r.field == m.name && r.kinds.contains m.type.kind

def expression (r : BusinessRule) (value : String) : String := r.before ++ value ++ r.after

end BusinessRule

/-- A condition under which a field is invalid, and the error that says so. -/
structure ValueCheck where
  field : String
  condition : String
  error : String
  deriving Repr, DecidableEq

def sampleCount : Nat := 3

/-- A sample value as an SQL literal. -/
def sqlLiteral (m : Member) (literal : String) (index : Nat) : String :=
  match m.type.kind with
  | .string => "'" ++ replace "'" "''" (.ofList (trimWhile (· == '"') literal.toList)) ++ "'"
  | .timestamp => "'2024-01-" ++ zeroPadded 2 (index + 1) ++ "'"
  | _ => literal

namespace Entity

/-- A field of the receiver in an expression. -/
def reference (e : Entity) (m : Member) : String := e.receiver ++ "." ++ m.name

def businessRules (e : Entity) : List BusinessRule :=
  if e.settings.businessRules.truthy then e.userMembers.filterMap BusinessRule.forMember? else []

def ruleExpression (e : Entity) (r : BusinessRule) : String :=
  r.expression (e.receiver ++ "." ++ r.field)

def fieldError (e : Entity) (m : Member) : String := "ErrInvalid" ++ e.name ++ m.name

def recordError (e : Entity) : String := "ErrInvalid" ++ e.name ++ "Data"

def checks (e : Entity) : List ValueCheck :=
  e.userMembers.filterMap fun m =>
    match m.type.checkExpression (e.reference m) with
    | .ok (some condition) => some { field := m.name, condition, error := e.fieldError m }
    | _ => none

def entityImports (e : Entity) : List String :=
  sortedOnce (e.members.flatMap (·.type.imports) ++ e.businessRules.filterMap (·.package))

def checkValue (c : ValueCheck) : Value := .record [
  ("field", .str c.field), ("condition", .str c.condition), ("error", .str c.error)]

def ruleValue (e : Entity) (r : BusinessRule) : Value := .record [
  ("name", .str r.method), ("expression", .str (e.ruleExpression r)),
  ("import", .optional r.package)]

/-- What the template of the entity's own file knows besides. -/
def entityScope (e : Entity) : Scope := OrderedMap.insertAll e.scope [
  ("imports", .list (e.entityImports.map .str)),
  ("checks", .list (e.checks.map checkValue)),
  ("business_rules", .list (e.businessRules.map e.ruleValue))]

def errorLine (name text : String) : Source := .line (name ++ " = errors.New(\"" ++ text ++ "\")")

/-- The errors of the entity, as they stand in the block of all domain errors. -/
def errorsSource (e : Entity) : List Source :=
  [.blank, .comment (e.name ++ " errors"),
    errorLine e.recordError ("invalid " ++ e.label ++ " data")] ++
  e.userMembers.map fun m =>
    errorLine (e.fieldError m) (e.label ++ " " ++ Naming.label m.name ++ " is invalid")

/-- The values of one sample record, as Go literals. -/
def sampleRow (e : Entity) (index : Nat) : List (Member × String) :=
  e.userMembers.map fun m => (m, m.type.sample.literal m.name index)

def sampleRows (e : Entity) : List (List (Member × String)) :=
  (List.range sampleCount).map e.sampleRow

def insertLine (e : Entity) (index : Nat) : Source :=
  let row := (e.sampleRow index).filter fun p => !p.1.type.isOpaque
  let columns := join ", " (row.map fun p => snake p.1.name)
  let values := join ", " (row.map fun p => sqlLiteral p.1 p.2 index)
  .raw ("INSERT INTO " ++ e.table ++ " (" ++ columns ++ ") VALUES (" ++ values ++ ");")

/-- The body of the function that gives the sample records as SQL statements. -/
def sqlBody (e : Entity) : List Source :=
  if e.userMembers.all (·.type.isOpaque) then [.line "return \"\""]
  else
    [.line ("return `-- Sample data for table " ++ e.table)] ++
      (List.range sampleCount).map e.insertLine ++ [.raw "`"]

def recordSource (row : List (Member × String)) : Source :=
  .block "\x7b" "\x7d," (row.map fun p => .line (p.1.name ++ ": " ++ p.2 ++ ","))

/-- The functions that give the sample records, in Go and in SQL. -/
def samplesSource (e : Entity) : List Source := [
  .comment ("Get" ++ e.name ++ "Seeds returns sample " ++ e.label ++ " records."),
  .func ("Get" ++ e.name ++ "Seeds() []" ++ e.name) [
    .braces ("return []" ++ e.name ++ "\x7b") (e.sampleRows.map recordSource)],
  .blank,
  .comment ("GetSQL" ++ e.name ++ "Seeds returns SQL INSERT statements for " ++ e.label ++ "."),
  .func ("GetSQL" ++ e.name ++ "Seeds() string") e.sqlBody]

end Entity

end GoScaffold
