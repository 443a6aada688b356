import GoScaffold.Field.Basic

/-!
# Field descriptors

A descriptor is a list of `name:type` pairs separated by commas. Reading one gives the fields in
their order, or blames the first pair that is not good; a pair is judged by a fixed sequence of
checks. Writing fields gives the descriptor that reads back as them.
-/
namespace GoScaffold

open GoScaffold.Text GoScaffold.Naming

namespace Descriptor

/-- What is wrong with a pair. -/
inductive Fault
  | noColon
  | emptyName
  | noType (name : String)
  | badName (name : String)
  | managed (name : String)
  | duplicate (canonical column : String)
  | unsupported (token : String) (suggestions : List String)
  deriving Repr, DecidableEq

/-- The kind of a fault in the words of a message. -/
def Fault.kind : Fault → String
  | .unsupported .. => "unsupported type"
  | _ => "invalid field declaration"

def Fault.message : Fault → String
  | .noColon => "expected 'name:type'"
  | .emptyName => "field name is empty"
  | .noType name => s!"field '{name}' has no type"
  | .badName name =>
    s!"field name '{name}' must start with a letter and contain only letters, digits or underscores"
  | .managed name => s!"field name '{name}' is managed automatically"
  | .duplicate canonical column => s!"duplicate field '{canonical}' (column '{column}')"
  | .unsupported token _ => s!"type '{token}' is not supported"

def Fault.suggestions : Fault → List String
  | .unsupported _ suggestions => suggestions
  | _ => []

/-- The fault of the pair at a position, counted from one. -/
structure Error where
  fault : Fault
  token : String
  position : Nat
  deriving Repr, DecidableEq

def Error.message (e : Error) : String :=
  s!"{e.fault.kind} at position {e.position} ('{e.token}'): {e.fault.message}" ++
    if e.fault.suggestions.isEmpty then ""
    else " (did you mean: " ++ join ", " e.fault.suggestions ++ "?)"

/-- The columns of the fields that feature flags manage. -/
def systemColumns : List String := ["id", "created_at", "updated_at", "deleted_at"]

/-- An ASCII letter, then ASCII letters, digits and underscores. -/
def isIdentifier : List Char → Bool
  | [] => false
  | c :: cs => c.isAlpha && cs.all fun d => d.isAlphanum || d == '_'

/-- The field that a trimmed pair declares after fields with the columns `seen`. -/
def readPair (catalog : Catalog) (seen : List String) (pair : String) : Except Fault Field :=
  match cutAt? ':' pair.toList with
  | none => .error .noColon
  | some (rawName, rawType) =>
    let name := trim (.ofList rawName)
    let token := trim (.ofList rawType)
    let canonical := pascal name
    let column := snake canonical
    if name = "" then .error .emptyName
    else if token = "" then .error (.noType name)
    else if !isIdentifier name.toList then .error (.badName name)
    else if column ∈ systemColumns then .error (.managed name)
    else if column ∈ seen then .error (.duplicate canonical column)
    else match catalog.resolve token with
      | none => .error (.unsupported token (catalog.suggest token))
      | some type => .ok { name := canonical, type }

/-- Reads the pairs from a position on, after fields with the columns `seen`. -/
def readPairs (catalog : Catalog) (seen : List String) (position : Nat) :
    List String → Except Error (List Field)
  | [] => .ok []
  | raw :: rest =>
    let pair := trim raw
    match readPair catalog seen pair with
    | .error fault => .error ⟨fault, pair, position⟩
    | .ok field =>
      (readPairs catalog (field.column :: seen) (position + 1) rest).map (field :: ·)

/-- Reads a descriptor; a blank one, or none, declares no fields. -/
def read (catalog : Catalog) (text : Option String) : Except Error (List Field) :=
  match text with
  | none => .ok []
  | some s => if isBlankText s then .ok [] else readPairs catalog [] 1 (splitAt ',' s)

/-- Writes the fields that are not managed by flags. -/
def write (fields : List Field) : String :=
  join "," ((fields.filter (!·.system)).map fun f => f.name ++ ":" ++ f.type)

end Descriptor

end GoScaffold
