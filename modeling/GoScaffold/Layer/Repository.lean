import GoScaffold.Entity.Basic
import GoScaffold.GoSource.Block
import GoScaffold.GoSource.Imports

/-!
# The repository layer

The methods by which records of an entity are stored and looked up. Each is a name with parameters,
results and a body, so that what the implementation declares can be compared with the interface.
-/
namespace GoScaffold

open GoScaffold.Text GoScaffold.Naming

structure Parameter where
  name : String
  type : String
  deriving Repr, DecidableEq

structure Method where
  name : String
  parameters : List Parameter
  results : String
  body : List Source
  deriving Repr

def Parameter.text (p : Parameter) : String := p.name ++ " " ++ p.type

namespace Method

def signature (m : Method) : String :=
  m.name ++ "(" ++ join ", " (m.parameters.map Parameter.text) ++ ") " ++ m.results

def source (receiver : Parameter) (m : Method) : Source :=
  .func ("(" ++ receiver.text ++ ") " ++ m.signature) m.body

end Method

def databaseImport : String := "gorm.io/gorm"

namespace Entity

def repositoryType (e : Entity) : String :=
  goIdentifier e.settings.database.text ++ e.name ++ "Repository"

def repositoryConstructor (e : Entity) : String :=
  "New" ++ pascal e.settings.database.text ++ e.name ++ "Repository"

def repositoryReceiver (e : Entity) : Parameter := ⟨"r", "*" ++ e.repositoryType⟩

def domainType (e : Entity) : String := "domain." ++ e.name

def emptyRecord (e : Entity) : String := "&" ++ e.domainType ++ "\x7b\x7d"

def recordParameter (e : Entity) : Parameter := ⟨e.variableName, "*" ++ e.domainType⟩

def idParameter : Parameter := ⟨"id", "uint"⟩

def transactionParameter : Parameter := ⟨"tx", "*gorm.DB"⟩

/-- A failed query ends the method. -/
def failureCheck : Source :=
  .braces "if result.Error != nil \x7b" [.line "return nil, result.Error"]

/-- Fetches one record into the record variable. -/
def fetchOne (e : Entity) (query : String) : List Source := [
  .line (e.variableName ++ " := " ++ e.emptyRecord),
  .line ("result := " ++ query),
  failureCheck,
  .line ("return " ++ e.variableName ++ ", nil")]

/-- Fetches all records of a query into the variable for several. -/
def fetchAll (e : Entity) (query : String) : List Source := [
  .line ("var " ++ e.pluralVariableName ++ " []" ++ e.domainType),
  .line ("result := " ++ query),
  failureCheck,
  .line ("return " ++ e.pluralVariableName ++ ", nil")]

/-- The parameter of a lookup; one that the method binds otherwise gets a name of its own. -/
def lookupParameter (e : Entity) (a : Accessor) : String :=
  let name := goIdentifier a.field
  if ["r", "result", e.variableName, e.pluralVariableName].contains name then name ++ "Value"
  else name

def lookupBody (e : Entity) (a : Accessor) : List Source :=
  let filter := "r.db.Where(\"" ++ a.column ++ " = ?\", " ++ e.lookupParameter a ++ ")"
  if a.isUnique then e.fetchOne (filter ++ ".First(" ++ e.variableName ++ ")")
  else e.fetchAll (filter ++ ".Find(&" ++ e.pluralVariableName ++ ")")

def lookupMethod (e : Entity) (a : Accessor) : Method where
  name := a.method
  parameters := [⟨e.lookupParameter a, a.goType⟩]
  results := a.results e.name
  body := e.lookupBody a

def saveMethod (e : Entity) : Method where
  name := "Save"
  parameters := [e.recordParameter]
  results := "error"
  body := [.line ("return r.db.Create(" ++ e.variableName ++ ").Error")]

def findMethod (e : Entity) : Method where
  name := "FindByID"
  parameters := [idParameter]
  results := "(*" ++ e.domainType ++ ", error)"
  body := e.fetchOne ("r.db.First(" ++ e.variableName ++ ", id)")

def updateMethod (e : Entity) : Method where
  name := "Update"
  parameters := [e.recordParameter]
  results := "error"
  body := [.line ("return r.db.Save(" ++ e.variableName ++ ").Error")]

def deleteMethod (e : Entity) : Method where
  name := "Delete"
  parameters := [idParameter]
  results := "error"
  body := [.line ("return r.db.Delete(" ++ e.emptyRecord ++ ", id).Error")]

def findAllMethod (e : Entity) : Method where
  name := "FindAll"
  parameters := []
  results := "([]" ++ e.domainType ++ ", error)"
  body := e.fetchAll ("r.db.Find(&" ++ e.pluralVariableName ++ ")")

/-- The methods that take part in a transaction of the caller. -/
def transactionMethods (e : Entity) : List Method := [
  { name := "SaveWithTx", parameters := [transactionParameter, e.recordParameter],
    results := "error", body := [.line ("return tx.Create(" ++ e.variableName ++ ").Error")] },
  { name := "UpdateWithTx", parameters := [transactionParameter, e.recordParameter],
    results := "error", body := [.line ("return tx.Save(" ++ e.variableName ++ ").Error")] },
  { name := "DeleteWithTx", parameters := [transactionParameter, idParameter],
    results := "error",
    body := [.line ("return tx.Delete(" ++ e.emptyRecord ++ ", id).Error")] }]

def repositoryMethods (e : Entity) : List Method :=
  [e.saveMethod, e.findMethod] ++ e.accessors.map e.lookupMethod ++
    [e.updateMethod, e.deleteMethod, e.findAllMethod] ++
    if e.settings.transactions.truthy then e.transactionMethods else []

def repositoryStruct (e : Entity) : Source :=
  .braces ("type " ++ e.repositoryType ++ " struct \x7b") [.line "db *gorm.DB"]

def repositoryConstructorSource (e : Entity) : Source :=
  .func (e.repositoryConstructor ++ "(db *gorm.DB) " ++ e.name ++ "Repository")
    [.line ("return &" ++ e.repositoryType ++ "\x7bdb: db\x7d")]

/-- The implementation, its declarations set apart by blank lines. -/
def repositorySource (e : Entity) : List Source :=
  ([e.repositoryStruct, e.repositoryConstructorSource] ++
    e.repositoryMethods.map (Method.source e.repositoryReceiver)).intersperse .blank

/-- The packages that the parameters of the lookups need. A field of the same name that comes first
decides. -/
def lookupImports (e : Entity) : List String :=
  importsOf (e.accessors.filterMap fun a => e.members.find? (·.name == a.field))

def interfaceImports (e : Entity) : List String :=
  e.lookupImports ++ [e.domainImport] ++
    if e.settings.transactions.truthy then [databaseImport] else []

def implementationImports (e : Entity) : List String :=
  e.lookupImports ++ [e.domainImport, databaseImport]

end Entity

end GoScaffold
