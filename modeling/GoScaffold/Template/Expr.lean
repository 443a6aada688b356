import GoScaffold.Decimal.Number

/-!
# Expressions and statements of templates

What a template says, once its text has been read.
-/
namespace GoScaffold.Template

open GoScaffold.Decimal

inductive Comparison
  | eq
  | ne
  | lt
  | le
  | gt
  | ge
  | isIn
  | notIn
  deriving Repr, DecidableEq

inductive Literal
  | none
  | bool (b : Bool)
  | int (n : Int)
  | float (x : Double)
  | str (s : String)
  deriving Repr, DecidableEq

/-- How an argument is given: by its position, by a keyword, or as one of the items or entries of a
value that is spread out. -/
inductive Passing
  | positional
  | named (keyword : String)
  | spread
  | spreadNamed
  deriving Repr, DecidableEq

/-- The place of an argument in the order of evaluation. -/
def Passing.rank : Passing → Nat
  | .positional => 0
  | .spread => 1
  | .named _ => 2
  | .spreadNamed => 3

mutual

/-- An expression. A name comes with the key under which it is bound; filters and tests keep the line
of their name, a choice without an alternative its template and the line on which it starts. -/
inductive Expr
  | literal (l : Literal)
  | name (name key : String)
  | list (items : Exprs)
  | tuple (items : Exprs)
  | dict (entries : Entries)
  | member (owner : Expr) (name : String)
  | item (owner key : Expr)
  | slice (start stop step : Bound)
  | call (callee : Expr) (args : Args)
  | filter (base : Expr) (name : String) (args : Args) (line : Nat)
  | test (base : Expr) (name : String) (args : Args) (line : Nat)
  | negate (e : Expr)
  | plus (e : Expr)
  | arithmetic (op : Arithmetic) (left right : Expr)
  | concat (items : Exprs)
  | compare (first : Expr) (rest : Comparisons)
  | both (left right : Expr)
  | either (left right : Expr)
  | not (e : Expr)
  | choice (condition yes : Expr) (template : Option String) (line : Nat)
  | choiceElse (condition yes no : Expr)
  deriving Repr, DecidableEq

inductive Exprs
  | nil
  | cons (e : Expr) (rest : Exprs)
  deriving Repr, DecidableEq

inductive Entries
  | nil
  | cons (key value : Expr) (rest : Entries)
  deriving Repr, DecidableEq

/-- A bound of a slice, which may be left out. -/
inductive Bound
  | absent
  | given (e : Expr)
  deriving Repr, DecidableEq

/-- The arguments of a call, in the order in which they are evaluated. -/
inductive Args
  | nil
  | cons (passing : Passing) (e : Expr) (rest : Args)
  deriving Repr, DecidableEq

/-- The second and further operands of a chain of comparisons. -/
inductive Comparisons
  | nil
  | cons (op : Comparison) (e : Expr) (rest : Comparisons)
  deriving Repr, DecidableEq

end

mutual

/-- What a statement binds: a name, which keeps its line, the items of a sequence by position, or a
member. -/
inductive Target
  | name (name key : String) (line : Nat)
  | tuple (items : Targets)
  | member (owner key name : String)
  deriving Repr, DecidableEq

inductive Targets
  | nil
  | cons (target : Target) (rest : Targets)
  deriving Repr, DecidableEq

end

/-- What is settled where a body begins: a key has no value until it is bound, it has the
value that was given for a name, or it stands for the template itself. -/
inductive Load
  | hidden (name key : String)
  | given (name key : String)
  | self (template : Option String)
  deriving Repr, DecidableEq

mutual

/-- A statement. In the value of a captured text the empty name stands for the text. -/
inductive Node
  | text (s : String)
  | print (e : Expr)
  | assign (target : Target) (e : Expr)
  | capture (target : Target) (body : Nodes) (value : Expr)
  | branch (condition : Expr) (body otherwise : Nodes)
  | loop (target : Target) (source : Expr) (condition : Option Expr) (body otherwise : Nodes)
  | enter (loads : List Load)
  deriving Repr, DecidableEq

inductive Nodes
  | nil
  | cons (node : Node) (rest : Nodes)
  deriving Repr, DecidableEq

end

def Exprs.ofList : List Expr → Exprs
  | [] => .nil
  | e :: es => .cons e (ofList es)

def Entries.ofList : List (Expr × Expr) → Entries
  | [] => .nil
  | e :: es => .cons e.1 e.2 (ofList es)

def Args.ofList : List (Passing × Expr) → Args
  | [] => .nil
  | a :: as => .cons a.1 a.2 (ofList as)

def Comparisons.ofList : List (Comparison × Expr) → Comparisons
  | [] => .nil
  | c :: cs => .cons c.1 c.2 (ofList cs)

def Targets.ofList : List Target → Targets
  | [] => .nil
  | t :: ts => .cons t (ofList ts)

def Nodes.ofList : List Node → Nodes
  | [] => .nil
  | n :: ns => .cons n (ofList ns)

end GoScaffold.Template
