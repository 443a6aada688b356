import GoScaffold.Template.Evaluation

/-!
# Constants in templates

What an expression comes to whatever the scope is. A part of an expression that is constant is worked
out when the template is made ready; a part that cannot be worked out stays as it is, unless what is
wrong is that a text or a truth value is wanted of it.
-/
namespace GoScaffold.Template

/-- A value that may depend on the scope, which is a failure, or be a fault. -/
abbrev Folding (α : Type) := OptionT (Except RenderFault) α

/-- Here a fault only means that nothing is worked out. -/
def quietly {α : Type} (r : Folding α) : Folding α :=
  OptionT.mk <| match r.run with
    | .error _ => .ok none
    | r => r

/-- Of several arguments with a keyword the last counts. -/
def Arguments.lastNamed (a : Arguments) : Arguments :=
  { a with named := a.named.foldr (fun e kept =>
      if kept.any (·.1 == e.1) then kept else e :: kept) [] }

def Literal.constant : Literal → Value
  | .none => .none
  | .bool b => .bool b
  | .int n => .int n
  | .float x => .float x
  | .str s => .str s

/-- What a slice is called where it leads nowhere. -/
def sliceText (start stop step : Value) : String :=
  s!"slice({start.literal}, {stop.literal}, {step.literal})"

/-- The part of a constant between bounds; a value without parts has none. -/
def constantSlice (v start stop step : Value) : Outcome Value :=
  match v.slice start stop step with
  | .error (.badValue reason) => .error (.badValue reason)
  | .error (.undefined a) => .error (.undefined a)
  | .error _ => .ok (.undefined (.element v.owner (sliceText start stop step)))
  | .ok w => .ok w

mutual

/-- The value of an expression, if it does not depend on the scope. -/
def Expr.constant : Expr → Folding Value
  | .literal l => return l.constant
  | .name .. => failure
  | .list items => return .list (← items.constants)
  | .tuple items => return .tuple (← items.constants)
  | .dict entries => return .dict (← entries.constants [])
  | .member e name => quietly do (← e.constant).member name
  | .item e (.slice start stop step) => quietly do
    constantSlice (← e.constant) (← start.constant) (← stop.constant) (← step.constant)
  | .item e key => quietly do (← e.constant).item (← key.constant)
  | .slice .. => failure
  | .call .. => failure
  | .filter base name args _ => do
    match Filter.ofName? name with
    | none => failure
    | some f =>
      let a ← args.constants
      let v ← base.constant
      quietly (f.apply v a.lastNamed)
  | .test base name args _ => do
    match Test.ofName? name with
    | none => failure
    | some t =>
      let a ← args.constants
      let v ← base.constant
      quietly (t.apply name v a.lastNamed)
  | .negate e => quietly do (← e.constant).negated
  | .plus e => quietly do (← e.constant).unsigned
  | .arithmetic op l r => quietly do (← l.constant).arithmetic op (← r.constant)
  | .concat items => return .str (Text.concat (← items.constantTexts))
  | .compare e rest => do
    let v ← e.constant
    return .bool (← quietly (rest.constant v))
  | .both l r => do
    let v ← l.constant
    if ← v.truth then r.constant else return v
  | .either l r => do
    let v ← l.constant
    if ← v.truth then return v else r.constant
  | .not e => quietly do return .bool (!(← (← e.constant).truth))
  | .choice condition yes _ _ => do
    if ← (← condition.constant).truth then yes.constant else failure
  | .choiceElse condition yes no => do
    if ← (← condition.constant).truth then yes.constant else no.constant

def Exprs.constants : Exprs → Folding (List Value)
  | .nil => return []
  | .cons e rest => return (← e.constant) :: (← rest.constants)

def Exprs.constantTexts : Exprs → Folding (List String)
  | .nil => return []
  | .cons e rest => return (← (← e.constant).text) :: (← rest.constantTexts)

/-- Enters constant entries one after another. -/
def Entries.constants : Entries → List (Value × Value) → Folding (List (Value × Value))
  | .nil, entered => return entered
  | .cons key e rest, entered => do
    let k ← key.constant
    let v ← e.constant
    k.hashable
    rest.constants (Value.insert k v entered)

def Bound.constant : Bound → Folding Value
  | .absent => return .none
  | .given e => e.constant

def Args.constants : Args → Folding Arguments
  | .nil => return {}
  | .cons passing e rest => do
    let v ← e.constant
    let a ← rest.constants
    quietly (a.adding passing v)

def Comparisons.constant : Comparisons → Value → Folding Bool
  | .nil, _ => return true
  | .cons op e rest, v => do
    let w ← e.constant
    if ← v.compare op w then rest.constant w else return false

end

mutual

/-- A plain value as an expression. -/
def Value.expression? : Value → Option Expr
  | .none => some (.literal .none)
  | .bool b => some (.literal (.bool b))
  | .int n => some (.literal (.int n))
  | .float x => some (.literal (.float x))
  | .str s => some (.literal (.str s))
  | .list items => (Value.expressions? items).map .list
  | .tuple items => (Value.expressions? items).map .tuple
  | .dict entries => (Value.entryExpressions? entries).map .dict
  | _ => Option.none

def Value.expressions? : List Value → Option Exprs
  | [] => some .nil
  | v :: vs => do return .cons (← v.expression?) (← Value.expressions? vs)

def Value.entryExpressions? : List (Value × Value) → Option Entries
  | [] => some .nil
  | (k, v) :: es => do
    return .cons (← k.expression?) (← v.expression?) (← Value.entryExpressions? es)

end

/-- A negative number without its sign. -/
def Expr.withoutSign? : Expr → Option Expr
  | .literal (.int n) => if n < 0 then some (.literal (.int (-n))) else none
  | .literal (.float x) => if x.negative && !x.isNaN then some (.literal (.float x.negate)) else none
  | _ => none

/-- A power whose base is a negative number is the negated power of the number without its sign. -/
def Expr.signedPower : Expr → Expr
  | .arithmetic .pow base exponent =>
    match base.withoutSign? with
    | some base => .negate (.arithmetic .pow base exponent)
    | none => .arithmetic .pow base exponent
  | e => e

/-- An expression whose parts have been worked out, worked out itself if it is constant. -/
def Expr.workedOut (e : Expr) : Outcome Expr := do
  match ← e.constant.run with
  | some v => return v.expression?.getD e
  | none => return e.signedPower

mutual

/-- Works out an expression, its parts first. -/
def Expr.folded : Expr → Outcome Expr
  | .literal l => .ok (.literal l)
  | .name name key => .ok (.name name key)
  | .list items => do Expr.workedOut (.list (← items.folded))
  | .tuple items => do Expr.workedOut (.tuple (← items.folded))
  | .dict entries => do Expr.workedOut (.dict (← entries.folded))
  | .member e name => do Expr.workedOut (.member (← e.folded) name)
  | .item e key => do Expr.workedOut (.item (← e.folded) (← key.folded))
  | .slice start stop step => return .slice (← start.folded) (← stop.folded) (← step.folded)
  | .call f args => do Expr.workedOut (.call (← f.folded) (← args.folded))
  | .filter base name args line => do
    Expr.workedOut (.filter (← base.folded) name (← args.folded) line)
  | .test base name args line => do
    Expr.workedOut (.test (← base.folded) name (← args.folded) line)
  | .negate e => do Expr.workedOut (.negate (← e.folded))
  | .plus e => do Expr.workedOut (.plus (← e.folded))
  | .arithmetic op l r => do Expr.workedOut (.arithmetic op (← l.folded) (← r.folded))
  | .concat items => do Expr.workedOut (.concat (← items.folded))
  | .compare e rest => do Expr.workedOut (.compare (← e.folded) (← rest.folded))
  | .both l r => do Expr.workedOut (.both (← l.folded) (← r.folded))
  | .either l r => do Expr.workedOut (.either (← l.folded) (← r.folded))
  | .not e => do Expr.workedOut (.not (← e.folded))
  | .choice condition yes template line => do
    Expr.workedOut (.choice (← condition.folded) (← yes.folded) template line)
  | .choiceElse condition yes no => do
    Expr.workedOut (.choiceElse (← condition.folded) (← yes.folded) (← no.folded))

def Exprs.folded : Exprs → Outcome Exprs
  | .nil => .ok .nil
  | .cons e rest => return .cons (← e.folded) (← rest.folded)

def Entries.folded : Entries → Outcome Entries
  | .nil => .ok .nil
  | .cons key e rest => return .cons (← key.folded) (← e.folded) (← rest.folded)

def Bound.folded : Bound → Outcome Bound
  | .absent => .ok .absent
  | .given e => return .given (← e.folded)

def Args.folded : Args → Outcome Args
  | .nil => .ok .nil
  | .cons passing e rest => return .cons passing (← e.folded) (← rest.folded)

def Comparisons.folded : Comparisons → Outcome Comparisons
  | .nil => .ok .nil
  | .cons op e rest => return .cons op (← e.folded) (← rest.folded)

end

mutual

/-- Works out the parts of an expression; those of a plain list, tuple or dictionary one by one. -/
def Expr.simplified : Expr → Outcome Expr
  | .list items => return .list (← items.simplified)
  | .tuple items => return .tuple (← items.simplified)
  | .dict entries => return .dict (← entries.simplified)
  | e => e.folded

def Exprs.simplified : Exprs → Outcome Exprs
  | .nil => .ok .nil
  | .cons e rest => return .cons (← e.simplified) (← rest.simplified)

def Entries.simplified : Entries → Outcome Entries
  | .nil => .ok .nil
  | .cons key e rest => return .cons (← key.simplified) (← e.simplified) (← rest.simplified)

end

end GoScaffold.Template
