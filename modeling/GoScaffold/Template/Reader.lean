import GoScaffold.Template.Expr
import GoScaffold.Template.Scan
import GoScaffold.Text.Normal

/-!
# Reading a template

From the tokens of a template to its statements. The reader looks at the current token and takes it
when it fits; where none fits, the template is at fault there. A fault of the scan shows when the
reader gets to it, so that of two faults the first in the text is the one reported.
-/
namespace GoScaffold.Template

open GoScaffold.Text GoScaffold.Decimal

/-- The tokens not yet taken, the line of the last one taken, the fault behind them, and the name of
the template. -/
structure Cursor where
  ahead : List Lexeme
  line : Nat := 1
  stop : Option CompileFault := none
  template : Option String := none

abbrev Read (α : Type) := StateT Cursor (Except CompileFault) α

namespace Read

def current : Read Lexeme := do
  let c ← get
  return c.ahead.headD ⟨.finish, c.line⟩

def advance : Read Lexeme := do
  let c ← get
  match c.ahead, c.stop with
  | [], _ => return ⟨.finish, c.line⟩
  | [_], some f => throw f
  | l :: rest, _ =>
    set { c with ahead := rest, line := l.line }
    return l

def next : Read Token := do
  let c ← get
  match c.ahead, c.stop with
  | [_], some f => throw f
  | _ :: l :: _, _ => return l.token
  | _, _ => return .finish

def failAt {α : Type} (cause : SyntaxCause) (line : Nat) : Read α :=
  throw (.malformed ⟨cause, line⟩)

def fail {α : Type} (cause : SyntaxCause) : Read α := do failAt cause (← current).line

/-- Nothing starts with the current token. -/
def failHere {α : Type} : Read α := do
  let l ← current
  failAt (.unexpected l.token.describe) l.line

def isAt (t : Token) : Read Bool := do return (← current).token = t

/-- Takes the current token if it is the given one. -/
def skipIf (t : Token) : Read Bool := do
  if ← isAt t then
    let _ ← advance
    return true
  else return false

/-- Refuses the current token, where another one was wanted. -/
def refuse {α : Type} (wanted : String) : Read α := do
  let l ← current
  if l.token = .finish then failAt (.endExpecting wanted) l.line
  else failAt (.expected wanted l.token.describe) l.line

def expect (t : Token) : Read Lexeme := do
  if ← isAt t then advance else refuse t.describe

/-- Takes a name, whatever it is. -/
def expectName : Read (String × Nat) := do
  let l ← current
  match l.token with
  | .name s =>
    let _ ← advance
    return (s, l.line)
  | _ => refuse "name"

/-- Repeats a step as long as it changes something; the number bounds the repetitions. -/
def repeatFrom {α : Type} (step : α → Read (Option α)) : Nat → α → Read α
  | 0, a => return a
  | n + 1, a => do
    match ← step a with
    | none => return a
    | some b => repeatFrom step n b

/-- Repeats a step that takes tokens, as long as it changes something. -/
def repeating {α : Type} (step : α → Read (Option α)) (a : α) : Read α := do
  repeatFrom step ((← get).ahead.length + 1) a

end Read

namespace Expr

open Read

def word (s : String) : Token := .name s

/-- The expressions up to a closing bracket, separated by commas. -/
def items (inner : Read Expr) (closer : String) : Read (List Expr) := do
  let taken ← repeating (fun (taken : List Expr) => do
    if ← isAt (.symbol closer) then return none
    if !taken.isEmpty then
      let _ ← expect (.symbol ",")
      if ← isAt (.symbol closer) then return none
    return some ((← inner) :: taken)) []
  let _ ← expect (.symbol closer)
  return taken.reverse

/-- What is separated by commas up to the end of a tag, a closing parenthesis or one of some words;
and whether there was a comma. -/
def separated {α : Type} (operand : Read α) (endWords : List String) : Read (List α × Bool) := do
  let atEnd : Read Bool := do
    let t := (← current).token
    return t = .closePrint || t = .closeStatement || t = .symbol ")" ||
      endWords.any fun w => decide (t = word w)
  let (taken, commas) ← repeating (fun (state : List α × Bool) => do
    let (taken, commas) := state
    if !taken.isEmpty then
      if !(← isAt (.symbol ",")) then return none
      let _ ← advance
    if ← atEnd then return none
    let e ← operand
    return some (e :: taken, commas || (← isAt (.symbol ",")))) ([], false)
  return (taken.reverse, commas)

/-- A single expression, or expressions separated by commas. An empty one needs parentheses. -/
def sequence (operand : Read Expr) (parenthesized : Bool) (endWords : List String) :
    Read Expr := do
  match ← separated operand endWords with
  | ([e], false) => return e
  | ([], false) => if parenthesized then return .tuple .nil else
      fail (.noExpression (← current).token.describe)
  | (taken, _) => return .tuple (.ofList taken)

def dictEntries (inner : Read Expr) : Read (List (Expr × Expr)) := do
  let taken ← repeating (fun (taken : List (Expr × Expr)) => do
    if ← isAt (.symbol "\x7d") then return none
    if !taken.isEmpty then
      let _ ← expect (.symbol ",")
      if ← isAt (.symbol "\x7d") then return none
    let key ← inner
    let _ ← expect (.symbol ":")
    return some ((key, ← inner) :: taken)) []
  let _ ← expect (.symbol "\x7d")
  return taken.reverse

def ofName (name : String) : Expr :=
  if name = "true" ∨ name = "True" then .literal (.bool true)
  else if name = "false" ∨ name = "False" then .literal (.bool false)
  else if name = "none" ∨ name = "None" then .literal .none
  else .name name (compatible name)

/-- String literals that follow each other are one. -/
def strings (first : String) : Read Expr := do
  let s ← repeating (fun (s : String) => do
    match (← current).token with
    | .string more =>
      let _ ← advance
      return some (s ++ more)
    | _ => return none) first
  return .literal (.str s)

def primary (inner : Read Expr) : Read Expr := do
  match (← current).token with
  | .name s =>
    let _ ← advance
    return ofName s
  | .string s =>
    let _ ← advance
    strings s
  | .integer n =>
    let _ ← advance
    return .literal (.int n)
  | .fraction x =>
    let _ ← advance
    return .literal (.float x)
  | .symbol "(" =>
    let _ ← advance
    let e ← sequence inner true []
    let _ ← expect (.symbol ")")
    return e
  | .symbol "[" =>
    let _ ← advance
    return .list (.ofList (← items inner "]"))
  | .symbol "\x7b" =>
    let _ ← advance
    return .dict (.ofList (← dictEntries inner))
  | _ => failHere

/-- How the argument that starts here is given; what says so is taken. -/
def passing : Read Passing := do
  match (← current).token with
  | .symbol "*" =>
    let _ ← advance
    return .spread
  | .symbol "**" =>
    let _ ← advance
    return .spreadNamed
  | .name keyword =>
    if (← next) = .symbol "=" then
      let _ ← advance
      let _ ← advance
      return .named keyword
    else return .positional
  | _ => return .positional

/-- An argument may be given after others: nothing is given after entries that are spread out, only
keywords after spread items, and no position after a keyword. -/
def mayFollow (earlier : List Passing) (p : Passing) : Bool :=
  !earlier.contains .spreadNamed &&
    match p with
    | .positional => earlier.all (· == .positional)
    | .spread => !earlier.contains .spread
    | _ => true

/-- The arguments of a call after its opening parenthesis, in the order of their evaluation. -/
def arguments (inner : Read Expr) (line : Nat) : Read (List (Passing × Expr)) := do
  let taken ← repeating (fun (taken : List (Passing × Expr)) => do
    if ← isAt (.symbol ")") then return none
    if !taken.isEmpty then
      let _ ← expect (.symbol ",")
      if ← isAt (.symbol ")") then return none
    let p ← passing
    if !mayFollow (taken.map (·.1)) p then failAt .badArguments line
    return some ((p, ← inner) :: taken)) []
  let _ ← expect (.symbol ")")
  let taken := taken.reverse
  return (List.range 4).flatMap fun rank => taken.filter (·.1.rank == rank)

def callOf (inner : Read Expr) (callee : Expr) : Read Expr := do
  let l ← advance
  return .call callee (.ofList (← arguments inner l.line))

/-- A member after a point: a name, or a number that stands for an item. -/
def memberOf (owner : Expr) : Read Expr := do
  let _ ← advance
  let l ← advance
  match l.token with
  | .name s => return .member owner s
  | .integer n => return .item owner (.literal (.int n))
  | _ => failAt .noMemberName l.line

/-- A bound of a slice, if one stands here. -/
def bound (inner : Read Expr) : Read Bound := do
  let t := (← current).token
  if [Token.symbol ":", Token.symbol "]", Token.symbol ","].contains t then return .absent
  else return .given (← inner)

/-- A key or a slice. -/
def keyOf (inner : Read Expr) : Read Expr := do
  let start ← if ← isAt (.symbol ":") then pure Bound.absent else pure (.given (← inner))
  match start, ← skipIf (.symbol ":") with
  | .given e, false => return e
  | start, _ =>
    let stop ← bound inner
    let step ← if ← skipIf (.symbol ":") then bound inner else pure Bound.absent
    return .slice start stop step

/-- An item after an opening bracket; several keys are one. -/
def itemOf (inner : Read Expr) (owner : Expr) : Read Expr := do
  let _ ← advance
  let taken ← repeating (fun (taken : List Expr) => do
    if ← isAt (.symbol "]") then return none
    if !taken.isEmpty then
      let _ ← expect (.symbol ",")
    return some ((← keyOf inner) :: taken)) []
  let _ ← expect (.symbol "]")
  match taken with
  | [key] => return .item owner key
  | keys => return .item owner (.tuple (.ofList keys.reverse))

/-- Members, items and calls after an expression. -/
def withPostfixes (inner : Read Expr) : Expr → Read Expr :=
  repeating fun e => do
    match (← current).token with
    | .symbol "." => return some (← memberOf e)
    | .symbol "[" => return some (← itemOf inner e)
    | .symbol "(" => return some (← callOf inner e)
    | _ => return none

/-- The rest of a name with points in it. -/
def dotted (name : String) : Read String :=
  repeating (fun name => do
    if ← skipIf (.symbol ".") then return some (name ++ "." ++ (← expectName).1)
    else return none) name

def filterOf (inner : Read Expr) (base : Expr) : Read Expr := do
  let _ ← advance
  let (first, line) ← expectName
  let name ← dotted first
  let l ← current
  if ← skipIf (.symbol "(") then
    return .filter base name (.ofList (← arguments inner l.line)) line
  else return .filter base name .nil line

/-- The current token starts the operand of a test. -/
def startsOperand (t : Token) : Bool :=
  match t with
  | .name s => !(["else", "or", "and"].contains s)
  | .string _ => true
  | .integer _ => true
  | .fraction _ => true
  | .symbol s => ["[", "\x7b"].contains s
  | _ => false

def testOf (inner : Read Expr) (base : Expr) : Read Expr := do
  let line := (← advance).line
  let negated ← skipIf (word "not")
  let name ← dotted (← expectName).1
  let l ← current
  let args ← if ← skipIf (.symbol "(") then arguments inner l.line
    else if startsOperand l.token then
      if l.token = word "is" then failAt .chainedTests l.line
      pure [(.positional, ← withPostfixes inner (← primary inner))]
    else pure []
  let e : Expr := .test base name (.ofList args) line
  return if negated then .not e else e

/-- Filters, tests and calls after an expression. -/
def withFilters (inner : Read Expr) : Expr → Read Expr :=
  repeating fun e => do
    match (← current).token with
    | .symbol "|" => return some (← filterOf inner e)
    | .name "is" => return some (← testOf inner e)
    | .symbol "(" => return some (← callOf inner e)
    | _ => return none

def filters (inner : Read Expr) : Expr → Read Expr :=
  repeating fun e => do
    if ← isAt (.symbol "|") then return some (← filterOf inner e) else return none

/-- Signs in front of an expression bind tighter than filters. -/
def signed (inner : Read Expr) : Nat → Read Expr
  | 0 => failHere
  | n + 1 => do
    let e ← match (← current).token with
      | .symbol "-" => do
        let _ ← advance
        pure (.negate (← signed inner n))
      | .symbol "+" => do
        let _ ← advance
        pure (.plus (← signed inner n))
      | _ => primary inner
    withPostfixes inner e

def unary (inner : Read Expr) : Read Expr := do
  withFilters inner (← signed inner ((← get).ahead.length + 1))

/-- Operands between operators of one rank, from left to right. -/
def leftToRight (operators : List (String × Arithmetic)) (operand : Read Expr) : Read Expr := do
  repeating (fun left => do
    match (← current).token with
    | .symbol s =>
      match operators.lookup s with
      | some op =>
        let _ ← advance
        return some (.arithmetic op left (← operand))
      | none => return none
    | _ => return none) (← operand)

def power (inner : Read Expr) : Read Expr := leftToRight [("**", .pow)] (unary inner)

def product (inner : Read Expr) : Read Expr :=
  leftToRight [("*", .mul), ("/", .div), ("//", .floorDiv), ("%", .mod)] (power inner)

/-- Texts joined by tildes. -/
def joined (inner : Read Expr) : Read Expr := do
  let taken ← repeating (fun (taken : List Expr) => do
    if ← skipIf (.symbol "~") then return some ((← product inner) :: taken) else return none)
    [← product inner]
  match taken with
  | [e] => return e
  | _ => return .concat (.ofList taken.reverse)

def sum (inner : Read Expr) : Read Expr :=
  leftToRight [("+", .add), ("-", .sub)] (joined inner)

def comparisons : List (String × Comparison) :=
  [("==", .eq), ("!=", .ne), ("<", .lt), ("<=", .le), (">", .gt), (">=", .ge)]

/-- The comparison that stands here, taken. -/
def comparison? : Read (Option Comparison) := do
  match (← current).token with
  | .symbol s =>
    match comparisons.lookup s with
    | some op =>
      let _ ← advance
      return some op
    | none => return none
  | .name "in" =>
    let _ ← advance
    return some .isIn
  | .name "not" =>
    if (← next) = word "in" then
      let _ ← advance
      let _ ← advance
      return some .notIn
    else return none
  | _ => return none

def compared (inner : Read Expr) : Read Expr := do
  let first ← sum inner
  let taken ← repeating (fun (taken : List (Comparison × Expr)) => do
    match ← comparison? with
    | some op => return some ((op, ← sum inner) :: taken)
    | none => return none) []
  return if taken.isEmpty then first else .compare first (.ofList taken.reverse)

def negated (inner : Read Expr) : Nat → Read Expr
  | 0 => failHere
  | n + 1 => do
    if ← skipIf (word "not") then return .not (← negated inner n) else compared inner

def conjunction (inner : Read Expr) : Read Expr := do
  let operand : Read Expr := do negated inner ((← get).ahead.length + 1)
  repeating (fun left => do
    if ← skipIf (word "and") then return some (.both left (← operand)) else return none) (← operand)

def disjunction (inner : Read Expr) : Read Expr := do
  repeating (fun left => do
    if ← skipIf (word "or") then return some (.either left (← conjunction inner)) else return none)
    (← conjunction inner)

/-- A choice after a condition; without an alternative it may come to nothing. -/
def choices (inner : Read Expr) : Read Expr := do
  let line := (← current).line
  let (e, _) ← repeating (fun (state : Expr × Nat) => do
    let (yes, line) := state
    if ← skipIf (word "if") then
      let condition ← disjunction inner
      let e ← if ← skipIf (word "else") then pure (.choiceElse condition yes (← inner))
        else pure (.choice condition yes (← get).template line)
      return some (e, (← current).line)
    else return none) (← disjunction inner, line)
  return e

/-- Reads an expression; the number bounds how deep it is nested. -/
def read : Nat → Read Expr
  | 0 => failHere
  | n + 1 => choices (read n)

/-- Reads an expression in which a choice needs parentheses. -/
def readPlain (n : Nat) : Read Expr := disjunction (read n)

end Expr

namespace Target

open Read

/-- What an expression that cannot be bound is called. -/
def kindOf : Expr → String
  | .literal _ => "const"
  | .name .. => "name"
  | .list _ => "list"
  | .tuple _ => "tuple"
  | .dict _ => "dict"
  | .member .. => "getattr"
  | .item .. => "getitem"
  | .slice .. => "slice"
  | .call .. => "call"
  | .filter .. => "filter"
  | .test .. => "test"
  | .negate _ => "neg"
  | .plus _ => "pos"
  | .arithmetic .add .. => "add"
  | .arithmetic .sub .. => "sub"
  | .arithmetic .mul .. => "mul"
  | .arithmetic .div .. => "div"
  | .arithmetic .floorDiv .. => "floordiv"
  | .arithmetic .mod .. => "mod"
  | .arithmetic .pow .. => "pow"
  | .concat _ => "concat"
  | .compare .. => "compare"
  | .both .. => "and"
  | .either .. => "or"
  | .not _ => "not"
  | .choice .. => "condexpr"
  | .choiceElse .. => "condexpr"

mutual

/-- The target that an expression on a line is; if it is none, what it is called. -/
def ofExpr (line : Nat) : Expr → Except String Target
  | .name s key => .ok (.name s key line)
  | .tuple items =>
    match ofExprs? line items with
    | some ts => .ok (.tuple ts)
    | none => .error "tuple"
  | e => .error (kindOf e)

def ofExprs? (line : Nat) : Exprs → Option Targets
  | .nil => some .nil
  | .cons e rest =>
    match ofExpr line e, ofExprs? line rest with
    | .ok t, some ts => some (.cons t ts)
    | _, _ => none

end

/-- A part of a target; with `members`, a name may be followed by one of its members. -/
def part (n : Nat) (members : Bool) : Read (Except String Target) := do
  let line := (← current).line
  match ← Expr.primary (Expr.read n) with
  | .name s key =>
    if members && (← isAt (.symbol ".")) then
      let _ ← advance
      return .ok (.member s key (← expectName).1)
    else return .ok (.name s key line)
  | e => return ofExpr line e

def read (n : Nat) (members : Bool) (endWords : List String) : Read Target := do
  let line := (← current).line
  match ← Expr.separated (part n members) endWords with
  | ([.ok t], false) => return t
  | ([.error kind], false) => failAt (.badTarget kind) line
  | ([], false) => fail (.noExpression (← current).token.describe)
  | (parts, _) =>
    match parts.mapM Except.toOption with
    | some ts => return .tuple (.ofList ts)
    | none => failAt (.badTarget "tuple") line

end Target

namespace Node

open Read

/-- The end of the tag that opens a body, the body, and the check that something ends it. -/
def body (nodes : List OpenBlock → Read Nodes) (around : List OpenBlock) : Read Nodes := do
  let _ ← skipIf (.symbol ":")
  let _ ← expect .closeStatement
  let ns ← nodes around
  if ← isAt .finish then fail (.unfinished around) else return ns

/-- A body whose closing tag is taken too. -/
def lastBody (nodes : List OpenBlock → Read Nodes) (around : List OpenBlock) : Read Nodes := do
  let ns ← body nodes around
  let _ ← advance
  return ns

def assignment (n : Nat) (nodes : List OpenBlock → Read Nodes) (around : List OpenBlock) :
    Read Node := do
  let _ ← advance
  let target ← Target.read n true []
  if ← skipIf (.symbol "=") then
    return .assign target (← Expr.sequence (Expr.read n) false [])
  else
    let value ← Expr.filters (Expr.read n) (.name "" "")
    let around := ⟨"set", ["endset"]⟩ :: around
    return .capture target (← lastBody nodes around) value

def loopOf (n : Nat) (nodes : List OpenBlock → Read Nodes) (around : List OpenBlock) :
    Read Node := do
  let _ ← advance
  let target ← Target.read n false ["in"]
  let _ ← expect (.name "in")
  let source ← Expr.sequence (Expr.readPlain n) false ["recursive"]
  let condition ← if ← skipIf (.name "if") then pure (some (← Expr.read n)) else pure none
  let _ ← skipIf (.name "recursive")
  let ns ← body nodes (⟨"for", ["endfor", "else"]⟩ :: around)
  let l ← advance
  let otherwise ← if l.token = .name "endfor" then pure .nil
    else lastBody nodes (⟨"for", ["endfor"]⟩ :: around)
  return .loop target source condition ns otherwise

/-- The conditions and bodies of a branch from a condition on; the number bounds how many. -/
def branchFrom (depth : Nat) (nodes : List OpenBlock → Read Nodes) (around : List OpenBlock) :
    Nat → Read Node
  | 0 => fail (.unfinished around)
  | n + 1 => do
    let condition ← Expr.sequence (Expr.readPlain depth) false []
    let ns ← body nodes (⟨"if", ["elif", "else", "endif"]⟩ :: around)
    let l ← advance
    match l.token with
    | .name "elif" => return .branch condition ns (.cons (← branchFrom depth nodes around n) .nil)
    | .name "else" =>
      return .branch condition ns (← lastBody nodes (⟨"if", ["endif"]⟩ :: around))
    | _ => return .branch condition ns .nil

def statement (n : Nat) (nodes : List OpenBlock → Read Nodes) (around : List OpenBlock) :
    Read Node := do
  let l ← current
  match l.token with
  | .name "set" => assignment n nodes around
  | .name "for" => loopOf n nodes around
  | .name "if" =>
    let _ ← advance
    branchFrom n nodes around n
  | .name tag => failAt (.unknownTag tag around) l.line
  | _ => failAt .noTagName l.line

/-- The current token is a tag that ends the innermost block. -/
def endsBlock (around : List OpenBlock) (t : Token) : Bool :=
  match around, t with
  | inner :: _, .name s => inner.closing.contains s
  | _, _ => false

end Node

/-- Reads statements up to the end of the innermost block or of the template; the number bounds
how many tokens there are. -/
def Nodes.read (depth : Nat) : Nat → List OpenBlock → Read Nodes
  | 0, _ => return .nil
  | n + 1, around => do
    match (← Read.current).token with
    | .finish => return .nil
    | .text s =>
      let _ ← Read.advance
      return .cons (.text s) (← Nodes.read depth n around)
    | .openPrint =>
      let _ ← Read.advance
      let e ← Expr.sequence (Expr.read depth) false []
      let _ ← Read.expect .closePrint
      return .cons (.print e) (← Nodes.read depth n around)
    | .openStatement =>
      let _ ← Read.advance
      if Node.endsBlock around (← Read.current).token then return .nil
      let node ← Node.statement depth (Nodes.read depth n) around
      let _ ← Read.expect .closeStatement
      return .cons node (← Nodes.read depth n around)
    | _ => Read.failHere

def read (name : Option String) (template : String) : Except CompileFault Nodes :=
  let s := scan template
  match s.lexemes, s.stop with
  | [], some f => .error f
  | lexemes, stop =>
    let size := lexemes.length + 1
    (·.1) <$> (Nodes.read size size []).run { ahead := lexemes, stop, template := name }

end GoScaffold.Template
