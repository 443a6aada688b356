import GoScaffold.Field.Layout
import GoScaffold.Naming.GoName
import GoScaffold.Settings.Basic

/-!
# Entities

An entity with the fields it was given and the settings it is generated under. Everything else that
a generated file says about it is derived from these. A name that cannot become a Go type is
refused, and so is a field of an unknown type.
-/
namespace GoScaffold

open GoScaffold.Text GoScaffold.Naming

/-- A field together with its type. -/
structure Member where
  field : Field
  type : FieldType
  known : field.fieldType = .ok type
  deriving Repr, DecidableEq

namespace Member

def ofField (f : Field) : Except UnknownType Member :=
  match h : f.fieldType with
  | .ok type => .ok ⟨f, type, h⟩
  | .error e => .error e

def name (m : Member) : String := m.field.name

def column (m : Member) : String := m.field.column

def isUser (m : Member) : Bool := !m.field.system

def goType (m : Member) : String :=
  if m.field.nullable then "*" ++ m.type.goType else m.type.goType

def plan (m : Member) : Plan := m.type.plan m.name

def identifier : Member := ⟨idField, .uint, rfl⟩

def createdAt : Member := ⟨createdAtField, .time, rfl⟩

def updatedAt : Member := ⟨updatedAtField, .time, rfl⟩

def deletedAt : Member := ⟨softDeleteField, .time, rfl⟩

/-- The lookup accessor of a searchable user field. -/
def accessor? (m : Member) : Option Accessor :=
  if m.isUser && m.plan.searchable then
    some { method := "FindBy" ++ m.name, field := m.name, goType := m.type.goType,
           cardinality := if m.plan.unique then .one else .many }
  else none

end Member

/-- An entity, its name in the spelling of a Go type. `given` are the fields of its descriptor, each
with its tag. -/
structure Entity where
  name : String
  given : List Member
  settings : Settings := {}
  deriving Repr

/-- Why there is no entity of a name and fields. -/
inductive EntityFault
  | noName
  | badName (name : String)
  | keyword (name : String)
  | unknownType (e : UnknownType)
  deriving Repr, DecidableEq

def EntityFault.message : EntityFault → String
  | .noName => "entity name is required"
  | .badName name =>
    s!"entity name '{name}' must start with a letter and contain only " ++
      "letters, digits or underscores"
  | .keyword name => s!"entity name '{name}' is a Go keyword"
  | .unknownType e => e.message

/-- What is wrong with the name of an entity, if anything. -/
def nameFault? (name : String) : Option EntityFault :=
  if isBlankText name then some .noName
  else if !Descriptor.isIdentifier (trim name).toList then some (.badName name)
  else if goKeywords.contains (camel name) then some (.keyword name)
  else none

namespace Entity

/-- The entity of a name in any spelling, with the fields of a descriptor. -/
def ofFields (name : String) (fields : List Field) (settings : Settings) :
    Except EntityFault Entity :=
  match nameFault? name with
  | some fault => .error fault
  | none =>
    match (annotateAll settings.validation.truthy fields).bind (·.mapM Member.ofField) with
    | .ok given => .ok { name := pascal (trim name), given, settings }
    | .error e => .error (.unknownType e)

/-- All members in the order of the struct. -/
def members (e : Entity) : List Member :=
  .identifier :: e.given ++
    (if e.settings.timestamps.truthy then [.createdAt, .updatedAt] else []) ++
    (if e.settings.softDelete.truthy then [.deletedAt] else [])

def fields (e : Entity) : List Field := e.members.map (·.field)

theorem fields_eq_layout (e : Entity) :
    e.fields = layout (e.given.map (·.field)) e.settings.timestamps.truthy
      e.settings.softDelete.truthy := by
  simp only [fields, members, layout, Member.identifier, timestampFields]
  split <;> split <;> simp [Member.createdAt, Member.updatedAt, Member.deletedAt]

/-- The given fields that are not managed by flags. -/
def userMembers (e : Entity) : List Member := e.given.filter (·.isUser)

/-- The plans of the given fields by name. -/
def plans (e : Entity) : List (String × Plan) :=
  OrderedMap.insertAll [] (e.given.map fun m => (m.name, m.plan))

def accessors (e : Entity) : List Accessor := e.given.filterMap Member.accessor?

def receiver (e : Entity) : String := Naming.receiver e.name

/-- The name of a variable that holds one record. -/
def variableName (e : Entity) : String := goIdentifier e.name

def pluralName (e : Entity) : String := plural e.name

/-- The name of a variable that holds several records. -/
def pluralVariableName (e : Entity) : String := goIdentifier e.pluralName

def label (e : Entity) : String := Naming.label e.name

def pluralLabel (e : Entity) : String := plural e.label

def table (e : Entity) : String := tableName e.name

def route (e : Entity) : String := routeSegment e.name

/-- The base name of the entity's own files; an unknown convention counts as lower case. -/
def fileBase (e : Entity) : String :=
  fileName e.name <| match e.settings.fileNaming with
    | .str s => (FileNaming.ofName? s).getD .lowercase
    | _ => .lowercase

def domainImport (e : Entity) : String := e.settings.moduleName.text ++ "/internal/domain"

/-- The packages that the types of some members need, in order and each once. -/
def importsOf (members : List Member) : List String :=
  sortedOnce (members.flatMap (·.type.imports))

end Entity

end GoScaffold
