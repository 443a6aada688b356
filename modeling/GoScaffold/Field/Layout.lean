import GoScaffold.Field.Classification

/-!
# Layout of an entity's fields

The identifier comes first, the user fields keep their order, and the fields that the flags ask for
follow.
-/
namespace GoScaffold

open GoScaffold.Text

def idField : Field :=
  { name := "ID", type := "uint", tag := "json:\"id\" gorm:\"primaryKey;autoIncrement\"",
    system := true }

def createdAtField : Field :=
  { name := "CreatedAt", type := "time.Time", tag := "json:\"created_at\" gorm:\"autoCreateTime\"",
    system := true }

def updatedAtField : Field :=
  { name := "UpdatedAt", type := "time.Time", tag := "json:\"updated_at\" gorm:\"autoUpdateTime\"",
    system := true }

def timestampFields : List Field := [createdAtField, updatedAtField]

def softDeleteField : Field :=
  { name := "DeletedAt", type := "time.Time", tag := "json:\"deleted_at,omitempty\" gorm:\"index\"",
    system := true, nullable := true }

/-- The user fields between the fields that the program manages. -/
def layout (user : List Field) (timestamps softDelete : Bool) : List Field :=
  idField :: user ++ (if timestamps then timestampFields else []) ++
    (if softDelete then [softDeleteField] else [])

def userFields (fields : List Field) : List Field := fields.filter (!·.system)

def systemFields (fields : List Field) : List Field := fields.filter (·.system)

def fieldNamed? (fields : List Field) (name : String) : Option Field :=
  fields.find? (·.name == name)

/-- Texts in their order, each once. -/
def sortedOnce (xs : List String) : List String :=
  xs.eraseDups.mergeSort fun a b => decide (a ≤ b)

/-- The Go packages that the types of the fields need, in order and each once. -/
def typeImports (fields : List Field) : Except UnknownType (List String) :=
  (fields.mapM Field.fieldType).map fun ts => sortedOnce (ts.flatMap (·.imports))

end GoScaffold
