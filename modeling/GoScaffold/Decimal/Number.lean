import GoScaffold.Decimal.Double

/-!
# Arithmetic on numbers

A number is a whole one of any size or a double. Whole numbers are computed with exactly; as soon
as a double takes part, or a quotient is asked for, the result is a double. Quotients without a rest
and remainders are rounded downwards.

An integer is read and written with a limited number of digits only.
-/
namespace GoScaffold.Decimal

/-- The largest number of digits that an integer is read or written with. -/
def longestInteger : Nat := 4300

/-- The integer has more digits than are written. Below `2 ^ 14284` it has not. -/
def isLong (n : Int) : Bool := 14284 ≤ n.natAbs.log2 && Nat.pow 10 longestInteger ≤ n.natAbs

/-- What is said of an integer that is too long; `digits` is the number of its digits when it is
read. -/
def longIntegerText (digits : Option Nat) : String :=
  let found := match digits with
    | some n => s!": value has {n} digits"
    | none => ""
  s!"Exceeds the limit ({longestInteger} digits) for integer string conversion{found}; " ++
    "use sys.set_int_max_str_digits() to increase the limit"

inductive Number
  | whole (n : Int)
  | real (x : Double)
  deriving Repr, DecidableEq

inductive Arithmetic
  | add
  | sub
  | mul
  | div
  | floorDiv
  | mod
  | pow
  deriving Repr, DecidableEq

/-- Why there is no result. -/
inductive NumberFault
  | zeroDivisor (op : Arithmetic) (ofReals : Bool)
  | tooLarge
  | quotientTooLarge
  | outOfRange
  | imaginary
  | endless
  deriving Repr, DecidableEq

def NumberFault.message : NumberFault → String
  | .zeroDivisor .div false => "division by zero"
  | .zeroDivisor .floorDiv false => "integer division or modulo by zero"
  | .zeroDivisor .mod false => "integer modulo by zero"
  | .zeroDivisor .div true => "float division by zero"
  | .zeroDivisor .floorDiv true => "float floor division by zero"
  | .zeroDivisor .mod true => "float modulo"
  | .zeroDivisor .. => "0.0 cannot be raised to a negative power"
  | .tooLarge => "int too large to convert to float"
  | .quotientTooLarge => "integer division result too large for a float"
  | .outOfRange => "(34, 'Numerical result out of range')"
  | .imaginary => "the power is no real number"
  | .endless => ""

namespace Double

/-- A finite number as `n · 2 ^ q`. -/
def signed (x : Double) : Int × Int :=
  let (m, q) := x.binary
  (if x.negative then -m else m, q)

/-- The remainder of the magnitudes of finite numbers, with the sign of the first. -/
def remainder (x y : Double) : Double :=
  let (m, q) := x.binary
  let (n, r) := y.binary
  let low := min q r
  let rest := (m * Nat.pow 2 (q - low).toNat) % (n * Nat.pow 2 (r - low).toNat)
  nearest x.negative (rest * Nat.pow 2 low.toNat) (Nat.pow 2 (-low).toNat)

/-- The remainder with the sign of the first number, whatever the numbers are. -/
def truncatedMod (x y : Double) : Double :=
  if x.isNaN || y.isNaN || x.isInfinite then nan
  else if y.isInfinite then x
  else x.remainder y

/-- The remainder with the sign of the second number. -/
def floorMod (x y : Double) : Double :=
  let r := x.truncatedMod y
  if r.isZero then zero y.negative
  else if !r.isNaN && r.negative != y.negative then ofFloat (r.toFloat + y.toFloat)
  else r

/-- The quotient rounded downwards, the remainder having been taken away first. -/
def floorDiv (x y : Double) : Double :=
  let r := x.truncatedMod y
  let quotient := (x.toFloat - r.toFloat) / y.toFloat
  let quotient := if !r.isZero && !r.isNaN && r.negative != y.negative then quotient - 1
    else quotient
  if quotient == 0 then zero (ofFloat (x.toFloat / y.toFloat)).negative
  else
    let down := quotient.floor
    ofFloat (if quotient - down > 0.5 then down + 1 else down)

def one : Double := ofInt 1

def isOdd (x : Double) : Bool :=
  match x.toInt? with
  | some n => n % 2 != 0
  | none => false

/-- The power of numbers neither of which is zero, infinite or undefined. -/
def finitePower (x y : Double) : Except NumberFault Double :=
  if x.negative ∧ y.toInt? = none then .error .imaginary
  else
    let magnitude := ofFloat (x.abs.toFloat ^ y.toFloat)
    if magnitude.isInfinite then .error .outOfRange
    else .ok (if x.negative && y.isOdd then magnitude.negate else magnitude)

def power (x y : Double) : Except NumberFault Double :=
  let magnitude := x.abs
  if y.isZero then .ok one
  else if x.isNaN then .ok x
  else if y.isNaN then .ok (if x = one then one else y)
  else if y.isInfinite then
    if magnitude = one then .ok one
    else if y.negative == decide (magnitude.toFloat < 1) then .ok (infinity false)
    else .ok (zero false)
  else if x.isInfinite then
    let negative := x.negative && y.isOdd
    .ok (if y.negative then zero negative else infinity negative)
  else if x.isZero then
    if y.negative then .error (.zeroDivisor .pow true)
    else .ok (if y.isOdd then x else zero false)
  else x.finitePower y

end Double

namespace Number

/-- The double nearest to a number. -/
def toReal : Number → Except NumberFault Double
  | .real x => .ok x
  | .whole n => if (Double.ofInt n).isInfinite then .error .tooLarge else .ok (.ofInt n)

/-- The largest exponent of which a power is computed, unless its base is 0, 1 or -1. -/
def largestExponent : Nat := Nat.pow 10 9

def wholePower (m : Int) (n : Nat) : Except NumberFault Number :=
  if n ≤ largestExponent then .ok (.whole (Int.pow m n))
  else if m.natAbs ≤ 1 then .ok (.whole (Int.pow m (n % 2 + 2)))
  else .error .endless

def onWholes (op : Arithmetic) (m n : Int) : Except NumberFault Number :=
  let divided (r : Number) : Except NumberFault Number :=
    if n = 0 then .error (.zeroDivisor op false) else .ok r
  match op with
  | .add => .ok (.whole (m + n))
  | .sub => .ok (.whole (m - n))
  | .mul => .ok (.whole (m * n))
  | .div =>
    let quotient := Double.nearest ((m < 0) != (n < 0)) m.natAbs n.natAbs
    if n = 0 then .error (.zeroDivisor op false)
    else if quotient.isInfinite then .error .quotientTooLarge
    else .ok (.real quotient)
  | .floorDiv => divided (.whole (m.fdiv n))
  | .mod => divided (.whole (m.fmod n))
  | .pow =>
    if 0 ≤ n then wholePower m n.toNat
    else do return .real (← (← toReal (.whole m)).power (← toReal (.whole n)))

def onReals (op : Arithmetic) (x y : Double) : Except NumberFault Number :=
  let computed (z : Float) : Except NumberFault Number := .ok (.real (.ofFloat z))
  match op with
  | .add => computed (x.toFloat + y.toFloat)
  | .sub => computed (x.toFloat - y.toFloat)
  | .mul => computed (x.toFloat * y.toFloat)
  | .div => if y.isZero then .error (.zeroDivisor op true) else computed (x.toFloat / y.toFloat)
  | .floorDiv =>
    if y.isZero then .error (.zeroDivisor op true) else .ok (.real (x.floorDiv y))
  | .mod => if y.isZero then .error (.zeroDivisor op true) else .ok (.real (x.floorMod y))
  | .pow => (x.power y).map .real

def apply (op : Arithmetic) : Number → Number → Except NumberFault Number
  | .whole m, .whole n => onWholes op m n
  | a, b => do onReals op (← a.toReal) (← b.toReal)

def negate : Number → Number
  | .whole n => .whole (-n)
  | .real x => .real x.negate

def isNaN : Number → Bool
  | .whole _ => false
  | .real x => x.isNaN

/-- The sign of an infinite number. -/
def infinite? : Number → Option Int
  | .whole _ => none
  | .real x => if x.isInfinite then some (if x.negative then -1 else 1) else none

/-- A finite number as `n · 2 ^ q`. -/
def signed : Number → Int × Int
  | .whole n => (n, 0)
  | .real x => x.signed

/-- A number is less than another; both are defined. -/
def isLess (a b : Number) : Bool :=
  match a.infinite?, b.infinite? with
  | some s, some t => s < t
  | some s, none => s < 0
  | none, some t => 0 < t
  | none, none =>
    let (m, q) := a.signed
    let (n, r) := b.signed
    let low := min q r
    m * Nat.pow 2 (q - low).toNat < n * Nat.pow 2 (r - low).toNat

end Number

end GoScaffold.Decimal
