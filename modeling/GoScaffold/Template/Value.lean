import GoScaffold.Field.Classification
import GoScaffold.Json.Basic
import GoScaffold.Template.Fault

/-!
# Values in templates

What an expression of a template stands for: plain data, the records that describe an entity, the
functions a template may call, or nothing at all. Every value has a truth value, a plain text and a
literal text. A reference that leads nowhere is a value too, and is an error only where it is used.
-/
namespace GoScaffold.Template

open GoScaffold.Text GoScaffold.Decimal

/-- The functions that every template may call. -/
inductive Helper
  | pascal
  | camel
  | snake
  | kebab
  | plural
  | singular
  | param
  | goType
  | zeroValue
  | optionalRule
  | typeInfo
  deriving Repr, DecidableEq

/-- The functions that belong to a template or to a record. -/
inductive Callable
  | helper (h : Helper)
  | results (a : Accessor)
  | sample (t : FieldType)
  | check (t : FieldType)
  deriving Repr, DecidableEq

/-- What is seen of a dictionary. -/
inductive View
  | keys
  | values
  | items
  deriving Repr, DecidableEq

/-- A value. A dictionary keeps its entries in the order in which their keys came. A loop knows the
position at which it stands, all its items, and the fault that ends them if there is one. -/
inductive Value where
  | undefined (a : Absence)
  | none
  | bool (b : Bool)
  | int (n : Int)
  | float (x : Double)
  | str (s : String)
  | list (items : List Value)
  | tuple (items : List Value)
  | dict (entries : List (Value × Value))
  | view (v : View) (entries : List (Value × Value))
  | field (f : Field)
  | plan (p : Plan)
  | accessor (a : Accessor)
  | type (t : FieldType)
  | kind (k : Kind)
  | cardinality (c : Cardinality)
  | loop (position : Nat) (items : List Value) (fault : Option RenderFault)
  | template (name : Option String)
  | callable (c : Callable)
  | method (owner : Value) (name : String)
  deriving Repr, Inhabited

def View.typeName : View → String
  | .keys => "dict_keys"
  | .values => "dict_values"
  | .items => "dict_items"

namespace Value

def typeName : Value → String
  | .undefined a => if a.isLenient then "Undefined" else "StrictUndefined"
  | .none => "NoneType"
  | .bool _ => "bool"
  | .int _ => "int"
  | .float _ => "float"
  | .str _ => "str"
  | .list _ => "list"
  | .tuple _ => "tuple"
  | .dict _ => "dict"
  | .view v _ => v.typeName
  | .field _ => "Field"
  | .plan _ => "FieldPlan"
  | .accessor _ => "SearchMethod"
  | .type _ => "TypeSpec"
  | .kind _ => "TypeKind"
  | .cardinality _ => "Cardinality"
  | .loop .. => "LoopContext"
  | .template _ => "TemplateReference"
  | .callable (.helper .typeInfo) => "method"
  | .callable (.helper _) => "function"
  | .callable (.sample _) => "function"
  | .callable _ => "method"
  | .method (.loop ..) _ => "method"
  | .method .. => "builtin_function_or_method"

/-- The module of a kind of record, with a point. -/
def home : Value → String
  | .field _ => "cleango.codegen.core.schema."
  | .accessor _ => "cleango.codegen.core.schema."
  | .cardinality _ => "cleango.codegen.core.schema."
  | .plan _ => "cleango.codegen.core.classifier."
  | .type _ => "cleango.codegen.core.types."
  | .kind _ => "cleango.codegen.core.types."
  | .loop .. => "jinja2.runtime."
  | .template _ => "jinja2.runtime."
  | _ => ""

/-- How a message speaks of the owner of a member that is missing. -/
def owner (v : Value) : String :=
  match v with
  | .none => "None"
  | v => v.home ++ v.typeName ++ " object"

def optional : Option String → Value
  | some s => .str s
  | Option.none => .none

mutual

def ofJson : Json → Value
  | .null => .none
  | .bool b => .bool b
  | .int n => .int n
  | .float x => .float x
  | .str s => .str s
  | .array items => .list (ofJsonItems items)
  | .object fields => .dict (ofJsonFields fields)

def ofJsonItems : List Json → List Value
  | [] => []
  | x :: xs => ofJson x :: ofJsonItems xs

def ofJsonFields : List (String × Json) → List (Value × Value)
  | [] => []
  | (k, x) :: xs => (.str k, ofJson x) :: ofJsonFields xs

end

/-- A dictionary with texts for keys. -/
def record (entries : List (String × Value)) : Value := .dict (entries.map fun e => (.str e.1, e.2))

def boolText (b : Bool) : String := if b then "True" else "False"

def optionalText : Option String → String
  | some s => quoted s
  | Option.none => "None"

def fieldText (f : Field) : String :=
  s!"Field(name={quoted f.name}, type={quoted f.type}, tag={quoted f.tag}, " ++
    s!"searchable={boolText f.searchable}, unique={boolText f.unique}, " ++
    s!"system={boolText f.system}, nullable={boolText f.nullable})"

def planText (p : Plan) : String :=
  s!"FieldPlan(go_type={quoted p.goType}, zero_value={quoted p.zeroValue}, " ++
    s!"validation_rule={optionalText p.validationRule}, " ++
    s!"column_default={quoted p.columnDefault}, check_expression={optionalText p.check}, " ++
    s!"searchable={boolText p.searchable}, unique={boolText p.unique})"

/-- The name of a kind or a cardinality as a constant. -/
def constantName (s : String) : String := upper s

def cardinalityText (c : Cardinality) : String :=
  "<Cardinality." ++ constantName c.name ++ ": " ++ quoted c.name ++ ">"

def accessorText (a : Accessor) : String :=
  s!"SearchMethod(method_name={quoted a.method}, field_name={quoted a.field}, " ++
    s!"field_type={quoted a.goType}, cardinality={cardinalityText a.cardinality})"

def callableText : Callable → String
  | .helper _ => "<function>"
  | .sample _ => "<function>"
  | _ => "<bound method>"

mutual

/-- The literal text, in which strings are quoted. -/
def literal : Value → String
  | .undefined _ => "Undefined"
  | .none => "None"
  | .bool b => boolText b
  | .int n => toString n
  | .float x => x.text
  | .str s => quoted s
  | .list items => "[" ++ join ", " (literals items) ++ "]"
  | .tuple [item] => "(" ++ item.literal ++ ",)"
  | .tuple items => "(" ++ join ", " (literals items) ++ ")"
  | .dict entries => "\x7b" ++ join ", " (entryLiterals entries) ++ "\x7d"
  | .field f => fieldText f
  | .plan p => planText p
  | .accessor a => accessorText a
  | .type t => "TypeSpec(name=" ++ quoted t.name ++ ")"
  | .kind k => "<TypeKind." ++ constantName k.name ++ ": " ++ quoted k.name ++ ">"
  | .cardinality c => cardinalityText c
  | .view v entries => v.typeName ++ "([" ++ join ", " (viewLiterals v entries) ++ "])"
  | .loop position items _ => s!"<LoopContext {position + 1}/{items.length}>"
  | .template name => "<TemplateReference " ++ optionalText name ++ ">"
  | .callable c => callableText c
  | .method owner name => s!"<built-in method {name} of {owner.typeName} object>"

def literals : List Value → List String
  | [] => []
  | x :: xs => x.literal :: literals xs

def entryLiterals : List (Value × Value) → List String
  | [] => []
  | (k, x) :: xs => (k.literal ++ ": " ++ x.literal) :: entryLiterals xs

def viewLiterals (v : View) : List (Value × Value) → List String
  | [] => []
  | (k, x) :: xs =>
    (match v with
      | .keys => k.literal
      | .values => x.literal
      | .items => "(" ++ k.literal ++ ", " ++ x.literal ++ ")") :: viewLiterals v xs

end

/-- The plain text of a value that is defined. -/
def plainText : Value → String
  | .undefined _ => ""
  | .str s => s
  | .kind k => "TypeKind." ++ constantName k.name
  | .cardinality c => "Cardinality." ++ constantName c.name
  | v => v.literal

def plainTruth : Value → Bool
  | .undefined _ => false
  | .none => false
  | .bool b => b
  | .int n => n != 0
  | .float x => !x.isZero
  | .str s => s != ""
  | .list items => !items.isEmpty
  | .tuple items => !items.isEmpty
  | .dict entries => !entries.isEmpty
  | .view _ entries => !entries.isEmpty
  | .loop _ items _ => !items.isEmpty
  | _ => true

end Value

end GoScaffold.Template
