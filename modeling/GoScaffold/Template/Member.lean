import GoScaffold.Template.Method

/-!
# Members and calls

The members and items of values, and what comes of calling one.
-/
namespace GoScaffold.Template

open GoScaffold.Text GoScaffold.FieldType

/-- The name of the rule that writes the samples of a type, as a function. -/
def sampleFunction : SampleRule → String
  | .text => "_string_sample"
  | .integer => "_int_sample"
  | .fraction => "_float_sample"
  | .flag => "_bool_sample"
  | .date => "_time_sample"
  | .bytes => "_bytes_sample"
  | .constant _ => "_opaque_sample"

def sampleOf (t : FieldType) (name index : Value) : Outcome Value := do
  let index ← index.defined
  match index.int? with
  | some n => return .str (t.sample.literal (← name.text) n)
  | none => throw (.badOperands "+" index.typeName "int")

def Callable.call (c : Callable) (a : Arguments) : Outcome Value :=
  match c with
  | .helper h => do h.apply (← h.signature.bind a)
  | .results accessor => do
    let s : Signature :=
      { name := "SearchMethod.return_type", parameters := [("entity", none)], bound := 1 }
    let values ← s.bind a
    return .str (accessor.results (← (values.headD .none).text))
  | .sample t => do
    let s : Signature :=
      { name := sampleFunction t.sample, parameters := [("name", none), ("index", none)] }
    match ← s.bind a with
    | [name, index] => sampleOf t name index
    | _ => return .none
  | .check t => do
    let s : Signature :=
      { name := "TypeSpec.check_expression", parameters := [("ref", none)], bound := 1 }
    let values ← s.bind a
    match t.check with
    | none => return .none
    | some _ =>
      match t.checkExpression (← (values.headD .none).text) with
      | .ok r => return .optional r
      | .error f => throw (.badCheck f)

namespace Value

def call (v : Value) (a : Arguments) : Outcome Value :=
  match v with
  | .callable c => c.call a
  | .method owner name => owner.callMethod name a
  | .loop .. => .error (.badArgument "The loop must have the 'recursive' marker to be called.")
  | .undefined absence => .error (.undefined absence)
  | v => .error (.notCallable v.typeName)

def ofTyped {α : Type} (f : α → Value) : Except UnknownType α → Outcome (Option Value)
  | .ok a => .ok (some (f a))
  | .error e => .error (.unknownType e)

def fieldMember? (f : Field) : String → Outcome (Option Value)
  | "name" => .ok (some (.str f.name))
  | "type" => .ok (some (.str f.type))
  | "tag" => .ok (some (.str f.tag))
  | "searchable" => .ok (some (.bool f.searchable))
  | "unique" => .ok (some (.bool f.unique))
  | "system" => .ok (some (.bool f.system))
  | "nullable" => .ok (some (.bool f.nullable))
  | "type_spec" => ofTyped .type f.fieldType
  | "go_type" => ofTyped .str f.goType
  | "json_name" => .ok (some (.str f.column))
  | "column" => .ok (some (.str f.column))
  | _ => .ok Option.none

def planMember? (p : Plan) : String → Option Value
  | "go_type" => some (.str p.goType)
  | "zero_value" => some (.str p.zeroValue)
  | "validation_rule" => some (.optional p.validationRule)
  | "column_default" => some (.str p.columnDefault)
  | "check_expression" => some (.optional p.check)
  | "searchable" => some (.bool p.searchable)
  | "unique" => some (.bool p.unique)
  | _ => Option.none

def accessorMember? (a : Accessor) : String → Option Value
  | "method_name" => some (.str a.method)
  | "field_name" => some (.str a.field)
  | "field_type" => some (.str a.goType)
  | "cardinality" => some (.cardinality a.cardinality)
  | "is_unique" => some (.bool a.isUnique)
  | "column" => some (.str a.column)
  | "return_type" => some (.callable (.results a))
  | _ => Option.none

def typeMember? (t : FieldType) : String → Option Value
  | "name" => some (.str t.name)
  | "go_type" => some (.str t.goType)
  | "kind" => some (.kind t.kind)
  | "zero_value" => some (.str t.zeroValue)
  | "sample" => some (.callable (.sample t))
  | "validation_rule" => some (.optional t.validationRule)
  | "column_default" => some (.str t.columnDefault)
  | "check" => some (.optional t.check)
  | "searchable" => some (.bool t.searchable)
  | "imports" => some (.tuple (t.imports.map .str))
  | "is_numeric" => some (.bool t.isNumeric)
  | "is_opaque" => some (.bool t.isOpaque)
  | "check_expression" => some (.callable (.check t))
  | _ => Option.none

/-- The members of a constant that has a name of its own. -/
def constantMember? (value : String) : String → Option Value
  | "name" => some (.str (constantName value))
  | "value" => some (.str value)
  | _ => Option.none

/-- The members of a loop. The item behind the last one, and everything that depends on the length,
is the fault in which the items end. -/
def loopMember? (position : Nat) (items : List Value) (fault : Option RenderFault) (name : String) :
    Outcome (Option Value) :=
  let settled (v : Value) : Outcome (Option Value) :=
    match fault with
    | some f => .error f
    | Option.none => .ok (some v)
  let size : Int := items.length
  match name with
  | "index" => .ok (some (.int (position + 1)))
  | "index0" => .ok (some (.int position))
  | "first" => .ok (some (.bool (position == 0)))
  | "last" =>
    if position + 1 < items.length then .ok (some (.bool false)) else settled (.bool true)
  | "length" => settled (.int size)
  | "revindex" => settled (.int (size - position))
  | "revindex0" => settled (.int (size - position - 1))
  | "depth" => .ok (some (.int 1))
  | "depth0" => .ok (some (.int 0))
  | "previtem" =>
    .ok (some (if position = 0 then .undefined .noPrevious
      else items.getD (position - 1) (.undefined .noPrevious)))
  | "nextitem" =>
    match items[position + 1]? with
    | some v => .ok (some v)
    | Option.none => settled (.undefined .noNext)
  | _ => .ok Option.none

/-- The parts of a number. -/
def numberMember? (v : Value) : String → Option Value
  | "real" =>
    match v.int? with
    | some n => some (.int n)
    | Option.none => some v
  | "imag" =>
    match v.int? with
    | some _ => some (.int 0)
    | Option.none => some (.float (.zero false))
  | "numerator" => v.int?.map .int
  | "denominator" => v.int?.map fun _ => .int 1
  | _ => Option.none

/-- The member that a value has by its kind. -/
def kindMember? (v : Value) (name : String) : Outcome (Option Value) :=
  match v with
  | .field f => fieldMember? f name
  | .plan p => .ok (planMember? p name)
  | .accessor a => .ok (accessorMember? a name)
  | .type t => .ok (typeMember? t name)
  | .kind k => .ok (constantMember? k.name name)
  | .cardinality c => .ok (constantMember? c.name name)
  | .loop position items fault => loopMember? position items fault name
  | .bool b => .ok (numberMember? (.bool b) name)
  | .int n => .ok (numberMember? (.int n) name)
  | .float x => .ok (numberMember? (.float x) name)
  | _ => .ok Option.none

/-- The member that a value has of its own, a method among them. -/
def ownMember? (v : Value) (name : String) : Outcome (Option Value) := do
  match ← v.kindMember? name with
  | some w => return some w
  | Option.none => return if v.methods.contains name then some (.method v name) else Option.none

/-- A member of a value, or an entry under its name. -/
def member (v : Value) (name : String) : Outcome Value := do
  let v ← v.defined
  match ← v.ownMember? name, v with
  | some w, _ => return w
  | Option.none, .dict entries =>
    return (lookup (.str name) entries).getD (.undefined (.member v.owner name))
  | Option.none, v => return .undefined (.member v.owner name)

/-- The item at a position, counted from the end if it is negative. -/
def at? {α : Type} (items : List α) (i : Int) : Option α :=
  if 0 ≤ i then items[i.toNat]?
  else if (items.length : Int) + i < 0 then Option.none
  else items[((items.length : Int) + i).toNat]?

/-- The item that a sequence has at a position. -/
def itemAt? (v : Value) (i : Int) : Option Value :=
  match v with
  | .list items => at? items i
  | .tuple items => at? items i
  | .str s => (at? s.toList i).map fun c => .str (.singleton c)
  | _ => Option.none

/-- The entry under a key, which need not be fit for one. -/
def entryUnder? (entries : List (Value × Value)) (key : Value) : Outcome (Option Value) :=
  match key.hashable with
  | .ok () => .ok (lookup key entries)
  | .error (.undefined a) => .error (.undefined a)
  | .error _ => .ok Option.none

/-- What is under a key in a value itself: an entry of a dictionary, or an item of a sequence. -/
def entry? (v key : Value) : Outcome (Option Value) :=
  match v with
  | .dict entries => entryUnder? entries key
  | .template _ => entryUnder? [] key
  | v => .ok (key.int?.bind v.itemAt?)

/-- What is under a key: an entry, an item at a position, or a member. -/
def item (v key : Value) : Outcome Value := do
  let v ← v.defined
  match ← v.entry? key, key with
  | some w, _ => return w
  | Option.none, .str name => v.member name
  | Option.none, key => return .undefined (.element v.owner key.literal)

end Value

end GoScaffold.Template
