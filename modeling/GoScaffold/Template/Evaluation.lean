import GoScaffold.Template.Filter
import GoScaffold.Template.Expr

/-!
# Evaluation of templates

What a template comes to in a scope. A scope binds names to values, the latest binding first.
Statements run one after another, each in the scope that the one before leaves; what a loop or a
captured text binds is gone after it.
-/
namespace GoScaffold.Template

abbrev Scope := List (String × Value)

/-- The names that are given as the fields of an object. -/
def Scope.ofFields (fields : List (String × Json)) : Scope :=
  fields.map fun e => (e.1, .ofJson e.2)

/-- The value of a name under its key: the latest binding, else the function of that name. -/
def Scope.value (scope : Scope) (name key : String) : Value :=
  match scope.lookup key with
  | some v => v
  | none =>
    match Helper.global? name with
    | some h => .callable (.helper h)
    | none => .undefined (.name name)

/-- The value of a literal. An infinite number, or none at all, cannot be written as a literal. -/
def Literal.value : Literal → Outcome Value
  | .none => .ok .none
  | .bool b => .ok (.bool b)
  | .int n => .ok (.int n)
  | .float x =>
    if x.isNaN then .error (.unknownConstant "nan")
    else if x.isInfinite then .error (.unknownConstant "inf")
    else .ok (.float x)
  | .str s => .ok (.str s)

namespace Value

/-- Enters a value under a key; a key that is there keeps its place. -/
def insert (key v : Value) : List (Value × Value) → List (Value × Value)
  | [] => [(key, v)]
  | e :: rest => if e.1.same key then (e.1, v) :: rest else e :: insert key v rest

/-- The dictionary of some entries, of which the last for each key counts. -/
def ofEntries (entries : List (Value × Value)) : Outcome Value := do
  let entered ← entries.foldlM (fun d e => do
    e.1.hashable
    return insert e.1 e.2 d) []
  return .dict entered

end Value

namespace Arguments

/-- Further arguments by position: the members of a value. -/
def spread (v : Value) : Outcome (List Value) :=
  match v.members with
  | .error (.notIterable type) => .error (.notSpreadable type)
  | r => r

/-- Further arguments by keyword: the entries of a dictionary. -/
def spreadNamed (v : Value) : Outcome (List (String × Value)) :=
  match v with
  | .undefined a => .error (.undefined a)
  | .dict entries => entries.mapM fun
    | (.str k, w) => .ok (k, w)
    | _ => .error (.badArgument "keywords must be strings")
  | v => .error (.badArgument s!"argument after ** must be a mapping, not {v.typeName}")

/-- The arguments that one more makes of those behind it. -/
def adding (passing : Passing) (v : Value) (a : Arguments) : Outcome Arguments :=
  match passing with
  | .positional => .ok { a with positional := v :: a.positional }
  | .named k => .ok { a with named := (k, v) :: a.named }
  | .spread => do return { a with positional := (← spread v) ++ a.positional }
  | .spreadNamed => do return { a with named := (← spreadNamed v) ++ a.named }

end Arguments

/-- What a filter or a test that nobody knows does with its arguments. -/
def unknownFunction (f : RenderFault) (a : Arguments) : Outcome Value :=
  match a.named with
  | [] => .error f
  | (k, _) :: _ => .error (.badArgument s!"got an unexpected keyword argument '{k}'")

mutual

def Expr.eval (scope : Scope) : Expr → Outcome Value
  | .literal l => l.value
  | .name name key => .ok (scope.value name key)
  | .list items => do return .list (← items.eval scope)
  | .tuple items => do return .tuple (← items.eval scope)
  | .dict entries => do Value.ofEntries (← entries.eval scope)
  | .member e name => do (← e.eval scope).member name
  | .item e (.slice start stop step) => do
    let v ← e.eval scope
    let start ← start.eval scope
    let stop ← stop.eval scope
    v.slice start stop (← step.eval scope)
  | .item e key => do
    let v ← e.eval scope
    v.item (← key.eval scope)
  | .slice .. => .error .misplacedSlice
  | .call f args => do
    let v ← f.eval scope
    v.call (← args.eval scope)
  | .filter base name args _ => do
    let v ← base.eval scope
    let a ← args.eval scope
    match Filter.ofName? name with
    | some f => f.apply v a
    | none => unknownFunction (.noFilter name) a
  | .test base name args _ => do
    let v ← base.eval scope
    let a ← args.eval scope
    match Test.ofName? name with
    | some t => t.apply name v a
    | none => unknownFunction (.noTest name) a
  | .negate e => do (← e.eval scope).negated
  | .plus e => do (← e.eval scope).unsigned
  | .arithmetic op l r => do
    let v ← l.eval scope
    v.arithmetic op (← r.eval scope)
  | .concat items => do
    return .str (Text.concat (← (← items.eval scope).mapM Value.text))
  | .compare e rest => do
    let v ← e.eval scope
    return .bool (← rest.eval scope v)
  | .both l r => do
    let v ← l.eval scope
    if ← v.truth then r.eval scope else return v
  | .either l r => do
    let v ← l.eval scope
    if ← v.truth then return v else r.eval scope
  | .not e => do return .bool (!(← (← e.eval scope).truth))
  | .choice condition yes template line => do
    if ← (← condition.eval scope).truth then yes.eval scope
    else return .undefined (.noAlternative template line)
  | .choiceElse condition yes no => do
    if ← (← condition.eval scope).truth then yes.eval scope else no.eval scope

def Exprs.eval (scope : Scope) : Exprs → Outcome (List Value)
  | .nil => .ok []
  | .cons e rest => do
    let v ← e.eval scope
    return v :: (← rest.eval scope)

def Entries.eval (scope : Scope) : Entries → Outcome (List (Value × Value))
  | .nil => .ok []
  | .cons key e rest => do
    let k ← key.eval scope
    let v ← e.eval scope
    return (k, v) :: (← rest.eval scope)

def Bound.eval (scope : Scope) : Bound → Outcome Value
  | .absent => .ok .none
  | .given e => e.eval scope

def Args.eval (scope : Scope) : Args → Outcome Arguments
  | .nil => .ok {}
  | .cons passing e rest => do
    let v ← e.eval scope
    let a ← rest.eval scope
    a.adding passing v

/-- A chain of comparisons ends at the first that does not hold. -/
def Comparisons.eval (scope : Scope) : Comparisons → Value → Outcome Bool
  | .nil, _ => .ok true
  | .cons op e rest, v => do
    let w ← e.eval scope
    if ← v.compare op w then rest.eval scope w else return false

end

/-- The items of a value that is taken apart. -/
def itemsFor (wanted : Nat) (v : Value) : Outcome (List Value) :=
  match v.members with
  | .error (.notIterable type) => .error (.notUnpackable type)
  | .error f => .error f
  | .ok items =>
    if items.length < wanted then .error (.tooFewItems wanted items.length)
    else if wanted < items.length then .error (.tooManyItems wanted)
    else .ok items

def Targets.length : Targets → Nat
  | .nil => 0
  | .cons _ rest => rest.length + 1

mutual

/-- The bindings that a value gives to a target, the latest first. -/
def Target.bindings : Target → Value → Outcome Scope
  | .name _ key _, v => .ok [(key, v)]
  | .tuple items, v => do items.bindings (← itemsFor items.length v)
  | .member .., _ => .error (.badArgument "object does not support item assignment")

def Targets.bindings : Targets → List Value → Outcome Scope
  | .cons t rest, v :: vs => do
    let bound ← t.bindings v
    return (← rest.bindings vs) ++ bound
  | _, _ => .ok []

end

mutual

/-- What a target stands for once it is bound. -/
def Target.value (scope : Scope) : Target → Value
  | .name name key _ => scope.value name key
  | .tuple items => .tuple (items.values scope)
  | .member .. => .none

def Targets.values (scope : Scope) : Targets → List Value
  | .nil => []
  | .cons t rest => t.value scope :: rest.values scope

end

mutual

def Target.hasMember : Target → Bool
  | .name .. => false
  | .tuple items => items.hasMember
  | .member .. => true

def Targets.hasMember : Targets → Bool
  | .nil => false
  | .cons t rest => t.hasMember || rest.hasMember

end

/-- The items for which a condition holds, as they are bound, up to a fault. -/
def kept (holds : Value → Outcome (Option Value)) : List Value → List Value × Option RenderFault
  | [] => ([], none)
  | v :: vs =>
    match holds v with
    | .error f => ([], some f)
    | .ok (some w) => let r := kept holds vs; (w :: r.1, r.2)
    | .ok none => kept holds vs

/-- The texts of a body for the items of a loop from a position on, each in its own scope. -/
def renderEach (body : Scope → Outcome String) (scope : Scope) (target : Target)
    (items : List Value) (fault : Option RenderFault) : Nat → List Value → Outcome String
  | _, [] => .ok ""
  | position, v :: vs => do
    let bound ← target.bindings v
    let s ← body (bound ++ ("loop", .loop position items fault) :: scope)
    return s ++ (← renderEach body scope target items fault (position + 1) vs)

/-- What is settled at the beginning of a scope, by the one around it. -/
def Load.binding (scope : Scope) : Load → String × Value
  | .hidden name key => (key, .undefined (.name name))
  | .given name key => (key, scope.value name name)
  | .self template => ("self", .template template)

mutual

/-- The text of a statement and the scope after it. -/
def Node.render (scope : Scope) : Node → Outcome (String × Scope)
  | .text s => .ok (s, scope)
  | .print e => do return (← (← e.eval scope).text, scope)
  | .assign target e => do
    if target.hasMember then throw .noNamespace
    let bound ← target.bindings (← e.eval scope)
    return ("", bound ++ scope)
  | .capture target body value => do
    let (s, _) ← body.render scope
    let bound ← target.bindings (← value.eval (("", .str s) :: scope))
    return ("", bound ++ scope)
  | .branch condition body otherwise => do
    if ← (← condition.eval scope).truth then body.render scope else otherwise.render scope
  | .loop target source condition body otherwise => do
    let items ← (← source.eval scope).members
    let (items, fault) := match condition with
      | none => (items, none)
      | some e => kept (fun v => do
          let bound ← target.bindings v
          let holds ← (← e.eval (bound ++ scope)).truth
          return if holds then some (target.value bound) else none) items
    let s ← renderEach (fun inner => do return (← body.render inner).1) scope target items fault 0
      items
    match fault with
    | some f => throw f
    | none =>
      if items.isEmpty then return ((← otherwise.render scope).1, scope) else return (s, scope)
  | .enter loads => .ok ("", (loads.map (·.binding scope)).reverse ++ scope)

def Nodes.render (scope : Scope) : Nodes → Outcome (String × Scope)
  | .nil => .ok ("", scope)
  | .cons node rest => do
    let (s, scope) ← node.render scope
    let (t, scope) ← rest.render scope
    return (s ++ t, scope)

end

/-- The text of a template. -/
def Nodes.text (nodes : Nodes) (scope : Scope) : Outcome String := do
  return (← nodes.render scope).1

end GoScaffold.Template
