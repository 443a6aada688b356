import GoScaffold.Naming.Spelling

/-!
# Sample values

Each field type writes its sample records by a rule: a Go literal that depends only on the field's
name and the number of the record, counted from zero.
-/
namespace GoScaffold.FieldType

open GoScaffold.Text GoScaffold.Naming

inductive SampleRule
  | text
  | integer
  | fraction
  | flag
  | date
  | bytes
  | constant (literal : String)
  deriving Repr, DecidableEq

def people : List String :=
  ["Juan Pérez", "María García", "Carlos López", "Ana Martín", "Luis Rodríguez"]

def mailUsers : List String := ["john", "maria", "carlos", "ana", "miguel"]

def statuses : List String := ["active", "inactive", "pending"]

def prices : List String := ["99.99", "149.50", "199.99", "249.00", "299.95"]

/-- The values in turn, starting over after the last. -/
def pick (values : List String) (index : Int) : String :=
  values.getD (index % values.length).toNat ""

def doubleQuoted (s : String) : String := "\"" ++ s ++ "\""

/-- The first rule that the column's name calls for. -/
def textSample (name : String) (index : Int) : String :=
  let column := snake name
  let n := index + 1
  let dashed := replace "_" "-" column
  doubleQuoted <|
    if isCalled column ["email"] then pick mailUsers index ++ toString n ++ "@example.com"
    else if ["name", "full_name", "title"].contains column || endsWith column "_name" then
      pick people index
    else if isCalled column ["username"] then pick mailUsers index ++ toString n
    else if column = "status" then pick statuses index
    else if isCalled column ["code", "sku"] then upper column ++ "-" ++ zeroPadded 4 n
    else if isCalled column ["slug"] then "sample-" ++ dashed ++ "-" ++ toString n
    else if isCalled column ["phone"] then "+1-555-010" ++ toString (n % 10)
    else if contains column "url" || contains column "website" then
      "https://example.com/" ++ dashed ++ "/" ++ toString n
    else "Sample " ++ name ++ " " ++ toString n

def integerSample (name : String) (index : Int) : String :=
  if isCalled (snake name) ["age"] then toString (18 + (index * 7) % 60)
  else toString ((index + 1) * 10)

def fractionSample (name : String) (index : Int) : String :=
  if isCalled (snake name) ["price"] then pick prices index else toString (index + 1) ++ ".5"

/-- The sample literal of a field in a record. -/
def SampleRule.literal (rule : SampleRule) (name : String) (index : Int) : String :=
  match rule with
  | .text => textSample name index
  | .integer => integerSample name index
  | .fraction => fractionSample name index
  | .flag => if index % 2 = 0 then "true" else "false"
  | .date => s!"time.Date(2024, time.January, {index + 1}, 0, 0, 0, 0, time.UTC)"
  | .bytes => "[]byte(" ++ doubleQuoted ("sample-" ++ toString (index + 1)) ++ ")"
  | .constant literal => literal

end GoScaffold.FieldType
