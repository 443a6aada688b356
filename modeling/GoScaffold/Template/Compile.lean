import GoScaffold.Template.Constant
import GoScaffold.Template.Names
import GoScaffold.Template.Reader
import GoScaffold.Template.Vocabulary

/-!
# Making a template ready

A template is read, its scopes settle their names, and what is constant in it is worked out. On the
way everything is refused that can be refused before the template is rendered.
-/
namespace GoScaffold.Template

abbrev Compiled (α : Type) := Except CompileFault α

/-- An expression ready to be evaluated. -/
def Expr.ready (conditional : Bool) (e : Expr) : Compiled Expr :=
  match e.simplified with
  | .error f => .error (.failed f)
  | .ok e =>
    match e.refused? conditional with
    | some f => .error f
    | none => .ok e

/-- A printed expression ready to be evaluated; a constant one is text. -/
def Expr.readyToPrint (conditional : Bool) (e : Expr) : Compiled Node :=
  match e.constant.run with
  | .error f => .error (.failed f)
  | .ok none => (e.ready conditional).map .print
  | .ok (some v) =>
    match v.text with
    | .error f => .error (.failed f)
    | .ok s => .ok (.text s)

mutual

/-- The line of the first part of a target that binds the name of the loop. -/
def Target.loopLine? : Target → Option Nat
  | .name name _ line => if name = "loop" then some line else none
  | .tuple items => items.loopLine?
  | .member .. => none

def Targets.loopLine? : Targets → Option Nat
  | .nil => none
  | .cons t rest => t.loopLine?.or rest.loopLine?

end

mutual

/-- The line of the first statement that binds the name of the loop. -/
def Node.loopLine? : Node → Option Nat
  | .assign target _ => target.loopLine?
  | .capture target body _ => target.loopLine?.or body.loopLine?
  | .branch _ body otherwise => body.loopLine?.or otherwise.loopLine?
  | .loop target _ _ body otherwise =>
    (target.loopLine?.or body.loopLine?).or otherwise.loopLine?
  | _ => none

def Nodes.loopLine? : Nodes → Option Nat
  | .nil => none
  | .cons node rest => node.loopLine?.or rest.loopLine?

end

mutual

/-- A statement ready to be rendered; `conditional` if a condition decides about it. -/
def Node.ready (conditional : Bool) : Node → Compiled Node
  | .text s => .ok (.text s)
  | .print e => e.readyToPrint conditional
  | .assign target e => return .assign target (← e.ready conditional)
  | .capture target body value => do
    let body ← body.ready false
    return .capture target body (← value.ready false)
  | .branch condition body otherwise => do
    let condition ← condition.ready true
    return .branch condition (← body.ready true) (← otherwise.ready true)
  | .loop target source condition body otherwise => do
    let condition ← match condition with
      | none => pure none
      | some e => some <$> e.ready false
    match Node.loopLine? (.loop target source none body otherwise) with
    | some line => throw (.malformed ⟨.loopTarget, line⟩)
    | none =>
      let source ← source.ready conditional
      return .loop target source condition (← body.ready false) (← otherwise.ready false)
  | .enter loads => .ok (.enter loads)

def Nodes.ready (conditional : Bool) : Nodes → Compiled Nodes
  | .nil => .ok .nil
  | .cons node rest => return .cons (← node.ready conditional) (← rest.ready conditional)

end

mutual

/-- What is out of place in a statement. -/
def Node.misshapen? : Node → Option RenderFault
  | .print e => e.misshapen?
  | .assign _ e => e.misshapen?
  | .capture _ body value => body.misshapen?.or value.misshapen?
  | .branch condition body otherwise =>
    (condition.misshapen?.or body.misshapen?).or otherwise.misshapen?
  | .loop _ source condition body otherwise =>
    (((condition.bind Expr.misshapen?).or source.misshapen?).or body.misshapen?).or
      otherwise.misshapen?
  | .text _ => none
  | .enter _ => none

def Nodes.misshapen? : Nodes → Option RenderFault
  | .nil => none
  | .cons node rest => node.misshapen?.or rest.misshapen?

end

/-- The statements of a template, ready to be rendered. -/
def compile (name : Option String) (template : String) : Compiled Nodes := do
  let nodes ← read name template
  let nodes ← (nodes.scoped name).ready false
  match nodes.misshapen? with
  | some f => throw (.failed f)
  | none => return nodes

end GoScaffold.Template
