import GoScaffold.Decimal.Number
import GoScaffold.Field.Basic
import GoScaffold.Template.Token

/-!
# Faults of templates

What can go wrong when a template is made ready and rendered, and what is said about it.
-/
namespace GoScaffold.Template

open GoScaffold.Text GoScaffold.Decimal

/-- Why a reference leads nowhere. -/
inductive Absence
  | name (name : String)
  | member (owner name : String)
  | element (owner key : String)
  | noFirst
  | noLast
  | noPrevious
  | noNext
  | noAlternative (template : Option String) (line : Nat)
  deriving Repr, DecidableEq

/-- A line, of a template if it has a name. -/
def placeText (template : Option String) (line : Nat) : String :=
  match template with
  | some name => s!"line {line} in {quoted name}"
  | none => s!"line {line}"

def Absence.message : Absence → String
  | .name n => quoted n ++ " is undefined"
  | .member owner n => quoted owner ++ " has no attribute " ++ quoted n
  | .element owner key => owner ++ " has no element " ++ key
  | .noFirst => "No first item, sequence was empty."
  | .noLast => "No last item, sequence was empty."
  | .noPrevious => "there is no previous item"
  | .noNext => "there is no next item"
  | .noAlternative template line =>
    s!"the inline if-expression on {placeText template line} evaluated to false and no else " ++
      "section was defined."

/-- A choice without an alternative comes to nothing, which may be printed and tested. -/
def Absence.isLenient : Absence → Bool
  | .noAlternative .. => true
  | _ => false

/-- Why the arguments of a call do not fit. -/
inductive ArgumentFault
  | tooMany (least most given : Nat)
  | missing (names : List String)
  | unexpected (keyword : String)
  | repeated (keyword : String)
  deriving Repr, DecidableEq

/-- What kind of thing a fault is about. -/
inductive FaultKind
  | absence
  | template
  | type
  | value
  | key
  | member
  | size
  | division
  | name
  | form
  | memory
  deriving Repr, DecidableEq

inductive RenderFault
  | undefined (a : Absence)
  | noFilter (name : String)
  | noTest (name : String)
  | noNamespace
  | noMember (type name : String)
  | unknownType (e : UnknownType)
  | badCheck (f : FieldType.CheckFault)
  | unknownKey (key : String)
  | noBlock
  | arguments (function : String) (fault : ArgumentFault)
  | badArgument (reason : String)
  | badValue (reason : String)
  | badSize (reason : String)
  | notCallable (type : String)
  | notIterable (type : String)
  | notReversible (type : String)
  | notUnpackable (type : String)
  | notSpreadable (type : String)
  | notSubscriptable (type : String)
  | tooFewItems (wanted found : Nat)
  | tooManyItems (wanted : Nat)
  | noLength (type : String)
  | unhashable (type : String)
  | badOperands (operator left right : String)
  | badOperand (operator type : String)
  | notConcatenable (left right : String)
  | notRepeatable (type : String)
  | notOrdered (operator left right : String)
  | notContainer (type : String)
  | notTextOperand (type : String)
  | number (f : NumberFault)
  | longInteger (digits : Option Nat)
  | noMemory
  | unknownConstant (name : String)
  | foreignDigit
  | repeatedKeyword (name : String)
  | misplacedSlice
  deriving Repr, DecidableEq

/-- Names in a row, the last two with an "and" between them. -/
def enumerated (names : List String) : String :=
  match names.reverse with
  | [] => ""
  | [n] => quoted n
  | [m, n] => quoted n ++ " and " ++ quoted m
  | m :: rest => join ", " (rest.reverse.map quoted) ++ ", and " ++ quoted m

def ArgumentFault.message (function : String) : ArgumentFault → String
  | .tooMany least most given =>
    let verb := if given = 1 then "was" else "were"
    let plural := if least = most ∧ most = 1 then "" else "s"
    let range := if least = most then toString most else s!"from {least} to {most}"
    let takes := s!"{range} positional argument{plural}"
    s!"{function}() takes {takes} but {given} {verb} given"
  | .missing names =>
    let plural := if names.length = 1 then "" else "s"
    s!"{function}() missing {names.length} required positional argument{plural}: {enumerated names}"
  | .unexpected keyword => s!"{function}() got an unexpected keyword argument {quoted keyword}"
  | .repeated keyword => s!"{function}() got multiple values for argument {quoted keyword}"

def RenderFault.message : RenderFault → String
  | .undefined a => a.message
  | .noFilter name => s!"No filter named {quoted name} found."
  | .noTest name => s!"No test named {quoted name} found."
  | .noNamespace => "cannot assign attribute on non-namespace object"
  | .noMember type name => s!"'{type}' object has no attribute {quoted name}"
  | .unknownType e => e.message
  | .badCheck f => f.message
  | .unknownKey key => key
  | .noBlock => "0"
  | .arguments function fault => fault.message function
  | .badArgument reason => reason
  | .badValue reason => reason
  | .badSize reason => reason
  | .notCallable type => s!"'{type}' object is not callable"
  | .notIterable type => s!"'{type}' object is not iterable"
  | .notReversible type => s!"'{type}' object is not reversible"
  | .notUnpackable type => s!"cannot unpack non-iterable {type} object"
  | .notSpreadable type => s!"Value after * must be an iterable, not {type}"
  | .notSubscriptable type => s!"'{type}' object is not subscriptable"
  | .tooFewItems wanted found => s!"not enough values to unpack (expected {wanted}, got {found})"
  | .tooManyItems wanted => s!"too many values to unpack (expected {wanted})"
  | .noLength type => s!"object of type '{type}' has no len()"
  | .unhashable type => s!"unhashable type: '{type}'"
  | .badOperands operator left right =>
    s!"unsupported operand type(s) for {operator}: '{left}' and '{right}'"
  | .badOperand operator type => s!"bad operand type for unary {operator}: '{type}'"
  | .notConcatenable left right => s!"can only concatenate {left} (not \"{right}\") to {left}"
  | .notRepeatable type => s!"can't multiply sequence by non-int of type '{type}'"
  | .notOrdered operator left right =>
    s!"'{operator}' not supported between instances of '{left}' and '{right}'"
  | .notContainer type => s!"argument of type '{type}' is not iterable"
  | .notTextOperand type => s!"'in <string>' requires string as left operand, not {type}"
  | .number f => f.message
  | .longInteger digits => longIntegerText digits
  | .noMemory => ""
  | .unknownConstant name => s!"name {quoted name} is not defined"
  | .foreignDigit => "invalid decimal literal"
  | .repeatedKeyword name => s!"keyword argument repeated: {name}"
  | .misplacedSlice => "invalid syntax"

def RenderFault.kind : RenderFault → FaultKind
  | .undefined _ => .absence
  | .noFilter _ => .template
  | .noTest _ => .template
  | .noNamespace => .template
  | .noMember .. => .member
  | .unknownType _ => .key
  | .unknownKey _ => .key
  | .noBlock => .key
  | .badCheck _ => .value
  | .badValue _ => .value
  | .tooFewItems .. => .value
  | .tooManyItems _ => .value
  | .longInteger _ => .value
  | .badSize _ => .size
  | .number (.zeroDivisor ..) => .division
  | .number .imaginary => .type
  | .number .endless => .memory
  | .number _ => .size
  | .noMemory => .memory
  | .unknownConstant _ => .name
  | .foreignDigit => .form
  | .repeatedKeyword _ => .form
  | .misplacedSlice => .form
  | _ => .type

/-- Why a template cannot be made ready: it makes no sense, or it holds a constant that has no
value. -/
inductive CompileFault
  | malformed (f : SyntaxFault)
  | failed (f : RenderFault)
  deriving Repr, DecidableEq

end GoScaffold.Template
