import GoScaffold.Field.Descriptor

/-!
# Classification

What the name and the type of a field decide: its validation rule, its column, whether records are
looked up by it, and whether a lookup finds at most one. A field is unique only if nothing about it
is ambiguous.
-/
namespace GoScaffold

open GoScaffold.Text GoScaffold.Naming

/-- Terms that call for a lookup accessor. -/
def searchableTerms : List String :=
  ["email", "username", "name", "code", "sku", "slug", "phone", "document", "national_id",
   "passport", "license", "title"]

/-- Terms that identify one record. -/
def uniqueTerms : List String :=
  ["email", "username", "code", "sku", "slug", "document", "national_id", "passport", "license"]

/-- Types that call for a lookup accessor whatever the name. -/
def searchableTypes : List String := ["string", "int", "uint"]

def uniqueKinds : List Kind := [.string, .integer, .unsigned]

/-- The snake-case name is a term or ends in an underscore and a term. -/
def matchesTerm (name : String) (terms : List String) : Bool :=
  isCalled (snake name) terms

/-- The decisions for one field; `check` is a template with a place for the value. -/
structure Plan where
  goType : String
  zeroValue : String
  validationRule : Option String
  columnDefault : String
  check : Option String
  searchable : Bool
  unique : Bool
  deriving Repr, DecidableEq

def FieldType.isSearchable (t : FieldType) (name : String) : Bool :=
  !t.isOpaque && (matchesTerm name searchableTerms || searchableTypes.contains t.name)

def FieldType.isUnique (t : FieldType) (name : String) : Bool :=
  t.isSearchable name && uniqueKinds.contains t.kind && matchesTerm name uniqueTerms

/-- The plan of a field of a type. -/
def FieldType.plan (t : FieldType) (name : String) : Plan where
  goType := t.goType
  zeroValue := t.zeroValue
  validationRule := t.validationRule
  columnDefault := t.columnDefault
  check := t.check
  searchable := t.isSearchable name
  unique := t.isUnique name

namespace Field

def plan (f : Field) : Except UnknownType Plan := f.fieldType.map (·.plan f.name)

/-- The struct tag: the JSON name, the column, and the validation rule if there is one. -/
def tagFor (f : Field) (p : Plan) (validation : Bool) : String :=
  let column := p.columnDefault ++ if p.unique then ";uniqueIndex" else ""
  "json:\"" ++ f.column ++ "\" gorm:\"column:" ++ f.column ++ ";" ++ column ++ "\"" ++
    match p.validationRule with
    | some rule => if validation && rule != "" then " validate:\"" ++ rule ++ "\"" else ""
    | none => ""

/-- A user field with its tag and classification; a system field stays as it is. -/
def annotate (validation : Bool) (f : Field) : Except UnknownType Field :=
  if f.system then .ok f
  else f.plan.map fun p =>
    { name := f.name, type := f.type, tag := f.tagFor p validation, searchable := p.searchable,
      unique := p.unique }

/-- The lookup accessor of a searchable user field. -/
def accessor? (f : Field) : Except UnknownType (Option Accessor) :=
  if f.system then .ok none
  else f.plan.map fun p =>
    if p.searchable then
      some { method := "FindBy" ++ f.name, field := f.name, goType := p.goType,
             cardinality := if p.unique then .one else .many }
    else none

end Field

def annotateAll (validation : Bool) (fields : List Field) : Except UnknownType (List Field) :=
  fields.mapM (·.annotate validation)

def accessorsOf (fields : List Field) : Except UnknownType (List Accessor) :=
  (fields.mapM Field.accessor?).map (·.filterMap id)

end GoScaffold
