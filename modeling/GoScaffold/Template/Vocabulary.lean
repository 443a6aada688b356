import GoScaffold.Template.Filter
import GoScaffold.Template.Expr

/-!
# What a template may not hold

A template that names an unknown filter or test is refused before it is rendered, unless the name
stands where a condition decides whether it is used. A literal that cannot be written, a keyword that
is given twice and a slice in the wrong place are refused too.
-/
namespace GoScaffold.Template

open GoScaffold.Decimal

/-- A name that nobody knows. -/
def unknownName (conditional known : Bool) (cause : SyntaxCause) (line : Nat) :
    Option CompileFault :=
  if known || conditional then none else some (.malformed ⟨cause, line⟩)

mutual

/-- The first unknown filter or test of an expression, the outermost one of nested ones, or the first
integer that is too long; `conditional` if a condition decides about the expression. -/
def Expr.refused? (conditional : Bool) : Expr → Option CompileFault
  | .literal (.int n) => if isLong n then some (.failed (.longInteger none)) else none
  | .literal _ => none
  | .name .. => none
  | .list items => items.refused? conditional
  | .tuple items => items.refused? conditional
  | .dict entries => entries.refused? conditional
  | .member e _ => e.refused? conditional
  | .item e key => (e.refused? conditional).or (key.refused? conditional)
  | .slice start stop step =>
    ((start.refused? conditional).or (stop.refused? conditional)).or (step.refused? conditional)
  | .call f args => (f.refused? conditional).or (args.refused? conditional)
  | .filter base name args line =>
    ((unknownName conditional (Filter.ofName? name).isSome (.noFilter name) line).or
      (base.refused? conditional)).or (args.refused? conditional)
  | .test base name args line =>
    ((unknownName conditional (Test.ofName? name).isSome (.noTest name) line).or
      (base.refused? conditional)).or (args.refused? conditional)
  | .negate e => e.refused? conditional
  | .plus e => e.refused? conditional
  | .arithmetic _ l r => (l.refused? conditional).or (r.refused? conditional)
  | .concat items => items.refused? conditional
  | .compare e rest => (e.refused? conditional).or (rest.refused? conditional)
  | .both l r => (l.refused? conditional).or (r.refused? conditional)
  | .either l r => (l.refused? conditional).or (r.refused? conditional)
  | .not e => e.refused? conditional
  | .choice condition yes _ _ => (yes.refused? true).or (condition.refused? true)
  | .choiceElse condition yes no =>
    ((yes.refused? true).or (condition.refused? true)).or (no.refused? true)

def Exprs.refused? (conditional : Bool) : Exprs → Option CompileFault
  | .nil => none
  | .cons e rest => (e.refused? conditional).or (rest.refused? conditional)

def Entries.refused? (conditional : Bool) : Entries → Option CompileFault
  | .nil => none
  | .cons k v rest =>
    ((k.refused? conditional).or (v.refused? conditional)).or (rest.refused? conditional)

def Bound.refused? (conditional : Bool) : Bound → Option CompileFault
  | .absent => none
  | .given e => e.refused? conditional

def Args.refused? (conditional : Bool) : Args → Option CompileFault
  | .nil => none
  | .cons _ e rest => (e.refused? conditional).or (rest.refused? conditional)

def Comparisons.refused? (conditional : Bool) : Comparisons → Option CompileFault
  | .nil => none
  | .cons _ e rest => (e.refused? conditional).or (rest.refused? conditional)

end

/-- The keywords of some arguments. -/
def Args.keywords : Args → List String
  | .nil => []
  | .cons (.named k) _ rest => k :: rest.keywords
  | .cons _ _ rest => rest.keywords

/-- The first of some words that has come before. -/
def repeatedWord? : List String → List String → Option String
  | _, [] => none
  | before, w :: ws => if before.contains w then some w else repeatedWord? (w :: before) ws

/-- A keyword that is given twice. -/
def Args.repeated? (args : Args) : Option RenderFault :=
  (repeatedWord? [] args.keywords).map .repeatedKeyword

mutual

/-- What is out of place in an expression: a slice that is no key, or a keyword given twice. -/
def Expr.misshapen? : Expr → Option RenderFault
  | .literal _ => none
  | .name .. => none
  | .list items => items.misshapen?
  | .tuple items => items.misshapen?
  | .dict entries => entries.misshapen?
  | .member e _ => e.misshapen?
  | .item e (.slice start stop step) =>
    ((e.misshapen?.or start.misshapen?).or stop.misshapen?).or step.misshapen?
  | .item e key => e.misshapen?.or key.misshapen?
  | .slice .. => some .misplacedSlice
  | .call f args => (f.misshapen?.or args.misshapen?).or args.repeated?
  | .filter base _ args _ => (base.misshapen?.or args.misshapen?).or args.repeated?
  | .test base _ args _ => (base.misshapen?.or args.misshapen?).or args.repeated?
  | .negate e => e.misshapen?
  | .plus e => e.misshapen?
  | .arithmetic _ l r => l.misshapen?.or r.misshapen?
  | .concat items => items.misshapen?
  | .compare e rest => e.misshapen?.or rest.misshapen?
  | .both l r => l.misshapen?.or r.misshapen?
  | .either l r => l.misshapen?.or r.misshapen?
  | .not e => e.misshapen?
  | .choice condition yes _ _ => yes.misshapen?.or condition.misshapen?
  | .choiceElse condition yes no => (yes.misshapen?.or condition.misshapen?).or no.misshapen?

def Exprs.misshapen? : Exprs → Option RenderFault
  | .nil => none
  | .cons e rest => e.misshapen?.or rest.misshapen?

def Entries.misshapen? : Entries → Option RenderFault
  | .nil => none
  | .cons k v rest => (k.misshapen?.or v.misshapen?).or rest.misshapen?

def Bound.misshapen? : Bound → Option RenderFault
  | .absent => none
  | .given e => e.misshapen?

def Args.misshapen? : Args → Option RenderFault
  | .nil => none
  | .cons _ e rest => e.misshapen?.or rest.misshapen?

def Comparisons.misshapen? : Comparisons → Option RenderFault
  | .nil => none
  | .cons _ e rest => e.misshapen?.or rest.misshapen?

end

end GoScaffold.Template
