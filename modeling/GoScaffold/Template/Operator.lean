import GoScaffold.Template.Percent

/-!
# Operators on values

Arithmetic on numbers, and what its operators mean for texts and sequences; slices. Nothing is
computed with a reference that leads nowhere.
-/
namespace GoScaffold.Template

open GoScaffold.Text GoScaffold.Decimal

def operatorText : Arithmetic → String
  | .add => "+"
  | .sub => "-"
  | .mul => "*"
  | .div => "/"
  | .floorDiv => "//"
  | .mod => "%"
  | .pow => "** or pow()"

namespace Value

def isSequence : Value → Bool
  | .str _ => true
  | .list _ => true
  | .tuple _ => true
  | _ => false

/-- The largest number of items that a sequence may have. -/
def largestSize : Nat := Nat.pow 2 63 - 1

/-- How often a sequence can be written out, having a number of items. -/
def repetitions (size : Nat) (tooLong : RenderFault) (n : Int) : Outcome Nat :=
  if (largestSize : Int) < n ∨ n < -(largestSize : Int) - 1 then
    .error (.badSize "cannot fit 'int' into an index-sized integer")
  else if size = 0 ∨ n ≤ 0 then .ok 0
  else if largestSize < size * n.toNat then .error tooLong
  else if Nat.pow 2 36 < size * n.toNat then .error (.number .endless)
  else .ok n.toNat

/-- A text or a sequence written out a number of times. -/
def repeated? : Value → Int → Option (Outcome Value)
  | .str s, n =>
    some ((repetitions s.length (.badSize "repeated string is too long") n).map
      fun k => .str (times k s))
  | .list items, n =>
    some ((repetitions items.length (.number .endless) n).map
      fun k => .list (List.replicate k items).flatten)
  | .tuple items, n =>
    some ((repetitions items.length (.number .endless) n).map
      fun k => .tuple (List.replicate k items).flatten)
  | _, _ => Option.none

/-- The fault of operands that an operator does not take. -/
def operandFault (op : Arithmetic) (v w : Value) : RenderFault :=
  match op, v, w with
  | .add, .str _, w => .notConcatenable "str" w.typeName
  | .add, .list _, w => .notConcatenable "list" w.typeName
  | .add, .tuple _, w => .notConcatenable "tuple" w.typeName
  | .mul, v, w =>
    if v.isSequence then .notRepeatable w.typeName
    else if w.isSequence then .notRepeatable v.typeName
    else .badOperands "*" v.typeName w.typeName
  | op, v, w => .badOperands (operatorText op) v.typeName w.typeName

/-- An operator between defined values. -/
def computed (op : Arithmetic) (v w : Value) : Outcome Value :=
  match op, v, w with
  | .add, .str s, .str t => .ok (.str (s ++ t))
  | .add, .list xs, .list ys => .ok (.list (xs ++ ys))
  | .add, .tuple xs, .tuple ys => .ok (.tuple (xs ++ ys))
  | op, v, w =>
    match v.number?, w.number? with
    | some m, some n =>
      match m.apply op n with
      | .ok r => .ok (ofNumber r)
      | .error f => .error (.number f)
    | _, _ =>
      let product :=
        if op = .mul then (w.int?.bind v.repeated?).or (v.int?.bind w.repeated?) else Option.none
      product.getD (.error (operandFault op v w))

/-- An operator between values. A text with marked places takes values of any kind. -/
def arithmetic (op : Arithmetic) (v w : Value) : Outcome Value :=
  match op, v with
  | .mod, .str format => (writeAtMarks format w).map .str
  | op, v => do computed op (← v.defined) (← w.defined)

def negated (v : Value) : Outcome Value := do
  let v ← v.defined
  match v.number? with
  | some n => return ofNumber n.negate
  | Option.none => throw (.badOperand "-" v.typeName)

def unsigned (v : Value) : Outcome Value := do
  let v ← v.defined
  match v.number? with
  | some n => return ofNumber n
  | Option.none => throw (.badOperand "+" v.typeName)

/-- A bound of a slice, or nothing. -/
def boundOf (v : Value) : Outcome (Option Int) :=
  match v, v.int? with
  | .none, _ => .ok Option.none
  | _, some n => .ok (some n)
  | _, Option.none =>
    .error (.badArgument "slice indices must be integers or None or have an __index__ method")

/-- The positions from a start to a stop in steps; a bound that is negative is counted from the end,
one that is left out stands at an end of the sequence. -/
def positions (size : Nat) (start stop : Option Int) (step : Int) : List Nat :=
  let least : Int := if step < 0 then -1 else 0
  let most : Int := if step < 0 then (size : Int) - 1 else size
  let clamped (n : Int) : Int :=
    let n := if n < 0 then n + size else n
    max least (min most n)
  let first := (start.map clamped).getD (if step < 0 then most else least)
  let last := (stop.map clamped).getD (if step < 0 then least else most)
  let span := if step < 0 then first - last else last - first
  let count := if span ≤ 0 then 0 else ((span - 1) / step.natAbs + 1).toNat
  (List.range count).map fun (i : Nat) => (first + step * i).toNat

/-- The part of a value between bounds. -/
def slice (v start stop step : Value) : Outcome Value := do
  let v ← v.defined
  let part {α : Type} (items : List α) : Outcome (List α) := do
    let step := (← step.boundOf).getD 1
    if step = 0 then throw (.badValue "slice step cannot be zero")
    let start ← start.boundOf
    let stop ← stop.boundOf
    return (positions items.length start stop step).filterMap (items[·]?)
  match v with
  | .str s => return .str (.ofList (← part s.toList))
  | .list items => return .list (← part items)
  | .tuple items => return .tuple (← part items)
  | .dict _ => throw (.unhashable "slice")
  | .template _ => throw (.unhashable "slice")
  | v => throw (.notSubscriptable v.typeName)

end Value

end GoScaffold.Template
