import GoScaffold.FieldType.Catalog

/-!
# Fields

The fields of an entity, and the lookup accessors derived from them.
-/
namespace GoScaffold

open GoScaffold.Naming

/-- A field, its name in the spelling of Go. A system field is managed by feature flags; a nullable
one is a pointer. -/
structure Field where
  name : String
  type : String
  tag : String := ""
  searchable : Bool := false
  unique : Bool := false
  system : Bool := false
  nullable : Bool := false
  deriving Repr, DecidableEq

/-- A type name that no type has. -/
structure UnknownType where
  name : String
  deriving Repr, DecidableEq

def UnknownType.message (e : UnknownType) : String := "Unsupported type: " ++ e.name

def Catalog.get (c : Catalog) (name : String) : Except UnknownType FieldType :=
  match c.lookup name with
  | some t => .ok t
  | none => .error ⟨name⟩

namespace Field

def fieldType (f : Field) : Except UnknownType FieldType := Catalog.builtin.get f.type

def goType (f : Field) : Except UnknownType String :=
  f.fieldType.map fun t => if f.nullable then "*" ++ t.goType else t.goType

/-- The column, which is also the name in JSON. -/
def column (f : Field) : String := snake f.name

end Field

/-- How many records a lookup accessor returns. -/
inductive Cardinality
  | one
  | many
  deriving Repr, DecidableEq

def Cardinality.name : Cardinality → String
  | .one => "one"
  | .many => "many"

/-- A lookup accessor for a searchable field. -/
structure Accessor where
  method : String
  field : String
  goType : String
  cardinality : Cardinality
  deriving Repr, DecidableEq

namespace Accessor

def isUnique (a : Accessor) : Bool := a.cardinality == .one

def column (a : Accessor) : String := snake a.field

def results (a : Accessor) (entity : String) : String :=
  if a.isUnique then "(*domain." ++ entity ++ ", error)" else "([]domain." ++ entity ++ ", error)"

end Accessor

end GoScaffold
