import GoScaffold.FieldType.Sample
import GoScaffold.Text.Form
import GoScaffold.Text.Quoted

/-!
# Field types

One record of capabilities per type that a descriptor may name: the Go type it stands for, its zero
value, validation rule, column default, check and samples.

The condition under which a value is invalid, written as a Go expression with places for the value,
which is named `ref`.
-/
namespace GoScaffold.FieldType

open GoScaffold.Text

inductive CheckFault
  | malformed (f : PlaceFault)
  | form (f : FormFault)
  | unknownPlace (name : String)
  | numberedPlace (index : Nat)
  | noAttribute (name : String)
  | outOfRange
  | noKeys
  deriving Repr, DecidableEq

def CheckFault.message : CheckFault → String
  | .malformed f => f.message
  | .form f => f.message
  | .unknownPlace name => name
  | .numberedPlace index =>
    s!"Replacement index {index} out of range for positional args tuple"
  | .noAttribute name => s!"'str' object has no attribute '{name}'"
  | .outOfRange => "string index out of range"
  | .noKeys => "string indices must be integers, not 'str'"

/-- A part of a text. -/
def textPart (value : List Char) : NameStep → Except CheckFault (List Char)
  | .attribute name => .error (.noAttribute name)
  | .key _ => .error .noKeys
  | .index n => match value[n]? with
    | some c => .ok [c]
    | none => .error .outOfRange

/-- The conversions of a text: quoted, as it is, or quoted in ASCII. -/
def textConversion (c : Char) : Option (List Char → Except CheckFault (List Char)) :=
  if c = 'r' then some fun cs => .ok (quotedChars cs)
  else if c = 's' then some .ok
  else if c = 'a' then some fun cs => .ok (asciiQuotedChars cs)
  else none

/-- The places of a check: all are for one value. -/
def checkFilling (ref : List Char) : Filling (List Char) CheckFault where
  named name := if name = "ref" then .ok ref else .error (.unknownPlace name)
  numbered index := .error (.numberedPlace index)
  step := textPart
  convert := textConversion
  write value form := (Form.writeText form value).mapError .form
  fault := .malformed

/-- The condition for the value that `ref` names. -/
def checkFor (template ref : String) : Except CheckFault String :=
  ((checkFilling ref.toList).fill template.toList).map .ofList

end GoScaffold.FieldType

namespace GoScaffold

open GoScaffold.FieldType

/-- The broad families of field types. -/
inductive Kind
  | string
  | integer
  | unsigned
  | float
  | boolean
  | timestamp
  | opaqueValue
  deriving Repr, DecidableEq

def Kind.all : List Kind :=
  [.string, .integer, .unsigned, .float, .boolean, .timestamp, .opaqueValue]

def Kind.name : Kind → String
  | .string => "string"
  | .integer => "integer"
  | .unsigned => "unsigned"
  | .float => "float"
  | .boolean => "boolean"
  | .timestamp => "timestamp"
  | .opaqueValue => "opaque"

def Kind.ofName? (s : String) : Option Kind := Kind.all.find? (·.name == s)

/-- A field type. `check` is true of the invalid values; a type without it has none. -/
structure FieldType where
  name : String
  goType : String
  kind : Kind
  zeroValue : String
  sample : SampleRule
  validationRule : Option String := none
  columnDefault : String := "not null"
  check : Option String := none
  searchable : Bool := false
  imports : List String := []
  deriving Repr, DecidableEq

namespace FieldType

def isNumeric (t : FieldType) : Bool :=
  t.kind == .integer || t.kind == .unsigned || t.kind == .float

def isOpaque (t : FieldType) : Bool := t.kind == .opaqueValue

/-- The condition under which the value that `ref` names is invalid, if the type has one. -/
def checkExpression (t : FieldType) (ref : String) : Except CheckFault (Option String) :=
  match t.check with
  | none => .ok none
  | some template => (checkFor template ref).map some

/-- The validation rule for a partial update: a value may be left out, and one that is given has to
meet the other conditions, which commas separate. -/
def optionalRule (rule : String) : String :=
  Text.join "," ("omitempty" :: (Text.splitAt ',' rule).filter fun p => p != "" && p != "required")

def emptyTextCheck : String := "\x7bref\x7d == \"\""

def negativeCheck : String := "\x7bref\x7d < 0"

def numericRule : String := "required,gte=0"

def string : FieldType :=
  { name := "string", goType := "string", kind := .string, zeroValue := "\"\"", sample := .text,
    validationRule := some "required,min=1", columnDefault := "type:varchar(255)",
    check := some emptyTextCheck, searchable := true }

def int : FieldType :=
  { name := "int", goType := "int", kind := .integer, zeroValue := "0", sample := .integer,
    validationRule := some numericRule, columnDefault := "type:integer;not null;default:0",
    check := some negativeCheck, searchable := true }

def int64 : FieldType :=
  { name := "int64", goType := "int64", kind := .integer, zeroValue := "0", sample := .integer,
    validationRule := some numericRule, columnDefault := "type:bigint;not null;default:0",
    check := some negativeCheck }

def uint : FieldType :=
  { name := "uint", goType := "uint", kind := .unsigned, zeroValue := "0", sample := .integer,
    validationRule := some numericRule, columnDefault := "type:integer;not null;default:0",
    searchable := true }

def uint64 : FieldType :=
  { name := "uint64", goType := "uint64", kind := .unsigned, zeroValue := "0", sample := .integer,
    validationRule := some numericRule, columnDefault := "type:bigint;not null;default:0" }

def float32 : FieldType :=
  { name := "float32", goType := "float32", kind := .float, zeroValue := "0", sample := .fraction,
    validationRule := some numericRule, columnDefault := "type:real;not null;default:0",
    check := some negativeCheck }

def float64 : FieldType :=
  { name := "float64", goType := "float64", kind := .float, zeroValue := "0", sample := .fraction,
    validationRule := some numericRule, columnDefault := "type:decimal(10,2);not null;default:0",
    check := some negativeCheck }

def bool : FieldType :=
  { name := "bool", goType := "bool", kind := .boolean, zeroValue := "false", sample := .flag,
    columnDefault := "type:boolean;not null;default:false" }

def time : FieldType :=
  { name := "time.Time", goType := "time.Time", kind := .timestamp,
    zeroValue := "time.Time\x7b\x7d", sample := .date, validationRule := some "required",
    columnDefault := "type:timestamp", check := some "\x7bref\x7d.IsZero()", imports := ["time"] }

def bytes : FieldType :=
  { name := "[]byte", goType := "[]byte", kind := .opaqueValue, zeroValue := "nil",
    sample := .bytes, columnDefault := "type:bytea" }

def any : FieldType :=
  { name := "interface\x7b\x7d", goType := "interface\x7b\x7d", kind := .opaqueValue,
    zeroValue := "nil", sample := .constant "nil", columnDefault := "type:jsonb" }

/-- The types that every descriptor may name, in the order in which they are listed. -/
def builtin : List FieldType :=
  [string, int, int64, uint, uint64, float32, float64, bool, time, bytes, any]

/-- Other names of built-in types. -/
def builtinAliases : List (String × String) :=
  [("timestamp", "time.Time"), ("bytes", "[]byte"), ("any", "interface\x7b\x7d"),
   ("opaque", "interface\x7b\x7d")]

end FieldType

end GoScaffold
