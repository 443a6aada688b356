/-!
# Double-precision numbers

A number of binary64, kept as its bits so that equality is decided, with the text in which it is
written and the decimal from which it is read.

In a text a binary fraction `m · 2 ^ q` stands for every real nearer to it than to its neighbours.
Among the decimals in that interval the one with the fewest digits is chosen, and of those the
nearest.
-/
namespace GoScaffold.Decimal

/-- The number `digits · 10 ^ exponent`. -/
structure Scientific where
  digits : Nat
  exponent : Int
  deriving Repr, DecidableEq

/-- The numerator and the denominator of `n · 10 ^ s · 2 ^ t`. -/
def fraction (n : Nat) (s t : Int) : Nat × Nat :=
  (n * Nat.pow 10 s.toNat * Nat.pow 2 t.toNat, Nat.pow 10 (-s).toNat * Nat.pow 2 (-t).toNat)

def fractionLe (x y : Nat × Nat) : Bool := x.1 * y.2 ≤ y.1 * x.2

/-- The least `j ≤ limit` with `n · 10 ^ j ≥ d`, else `limit`. -/
def scaleUp (n d : Nat) : Nat → Nat → Nat
  | 0, j => j
  | fuel + 1, j => if d ≤ n then j else scaleUp (n * 10) d fuel (j + 1)

/-- The exponent of the power of ten at or below a positive fraction. -/
def leadingExponent (x : Nat × Nat) : Int :=
  if x.2 ≤ x.1 then ((Nat.toDigits 10 (x.1 / x.2)).length : Int) - 1
  else -(scaleUp x.1 x.2 400 0 : Int)

def stripZeros : Nat → Nat → Int → Scientific
  | 0, n, e => ⟨n, e⟩
  | fuel + 1, n, e => if n % 10 = 0 then stripZeros fuel (n / 10) (e + 1) else ⟨n, e⟩

/-- The reals that a binary fraction stands for, in quarters of its last place: `low` and `high`
belong to them if `closed`. -/
structure Interval where
  value : Nat
  low : Nat
  high : Nat
  closed : Bool
  place : Int

/-- The interval of `m · 2 ^ q`; `narrow` if the neighbour below is half as far as the one above. -/
def Interval.ofBinary (m : Nat) (q : Int) (narrow : Bool) : Interval :=
  ⟨4 * m, if narrow then 4 * m - 1 else 4 * m - 2, 4 * m + 2, m % 2 == 0, q - 2⟩

def Interval.contains (i : Interval) (x : Nat × Nat) : Bool :=
  let low := fraction i.low 0 i.place
  let high := fraction i.high 0 i.place
  if i.closed then fractionLe low x && fractionLe x high
  else !fractionLe x low && !fractionLe high x

/-- The best multiple of `10 ^ s` in the interval: one of the two around the value. -/
def Interval.nearest? (i : Interval) (s : Int) : Option Nat :=
  let v := fraction i.value 0 i.place
  let k := v.1 * Nat.pow 10 (-s).toNat / (v.2 * Nat.pow 10 s.toNat)
  let below := i.contains (fraction k s 0)
  let above := i.contains (fraction (k + 1) s 0)
  if below && above then
    let middle := fraction (2 * k + 1) s (-1)
    if !fractionLe middle v then some k
    else if !fractionLe v middle then some (k + 1)
    else some (if k % 2 = 0 then k else k + 1)
  else if below then some k
  else if above then some (k + 1)
  else none

/-- Tries grids of `count`, `count + 1`, … digits. -/
def Interval.search (i : Interval) (lead : Int) : Nat → Nat → Scientific
  | 0, _ => ⟨0, 0⟩
  | fuel + 1, count =>
    let s := lead - (count : Int) + 1
    match i.nearest? s with
    | some k => stripZeros 20 k s
    | none => i.search lead fuel (count + 1)

/-- The shortest decimal of a positive binary fraction of at most 53 bits. -/
def shortest (m : Nat) (q : Int) (narrow : Bool) : Scientific :=
  let i := Interval.ofBinary m q narrow
  i.search (leadingExponent (fraction m 0 q)) 17 1

structure Double where
  bits : UInt64
  deriving Repr, DecidableEq

namespace Double

def negative (x : Double) : Bool := x.bits >>> 63 == 1

def exponentBits (x : Double) : Nat := ((x.bits >>> 52) &&& 0x7FF).toNat

def fractionBits (x : Double) : Nat := (x.bits &&& 0xFFFFFFFFFFFFF).toNat

def isNaN (x : Double) : Bool := x.exponentBits == 0x7FF && x.fractionBits != 0

def isInfinite (x : Double) : Bool := x.exponentBits == 0x7FF && x.fractionBits == 0

def isZero (x : Double) : Bool := x.exponentBits == 0 && x.fractionBits == 0

def signBit (negative : Bool) : Nat := if negative then Nat.pow 2 63 else 0

def zero (negative : Bool) : Double := ⟨.ofNat (signBit negative)⟩

def infinity (negative : Bool) : Double := ⟨.ofNat (signBit negative + 0x7FF * Nat.pow 2 52)⟩

def nan : Double := ⟨0x7FF8000000000000⟩

/-- The number `m · 2 ^ q` with a sign, where `m ≤ 2 ^ 53` and `q` is the least exponent for which
this holds, but at least -1074. -/
def ofBinary (negative : Bool) (m : Nat) (q : Int) : Double :=
  let magnitude := (q + 1074).toNat * Nat.pow 2 52 + m
  if 0x7FF * Nat.pow 2 52 ≤ magnitude then infinity negative
  else ⟨.ofNat (signBit negative + magnitude)⟩

/-- The quotient rounded to the nearest whole number, to the even one of two. -/
def roundedQuotient (n d : Nat) : Nat :=
  let m := n / d
  let r := n % d
  if d < 2 * r ∨ (d = 2 * r ∧ m % 2 = 1) then m + 1 else m

/-- The double nearest to the fraction `n / d`, with a sign. -/
def nearest (negative : Bool) (n d : Nat) : Double :=
  if n = 0 then zero negative
  else
    let scaled (q : Int) : Nat × Nat := (n * Nat.pow 2 (-q).toNat, d * Nat.pow 2 q.toNat)
    let q₀ : Int := max (-1074) ((n.log2 : Int) - d.log2 - 53)
    let (a, b) := scaled q₀
    let q := if a / b < Nat.pow 2 53 then q₀ else q₀ + 1
    let (a, b) := scaled q
    ofBinary negative (roundedQuotient a b) q

/-- The double nearest to `digits · 10 ^ exponent`, with a sign. -/
def ofDecimal (negative : Bool) (digits : Nat) (exponent : Int) : Double :=
  let size := (Nat.toDigits 10 digits).length
  if digits = 0 ∨ (size : Int) + exponent < -400 then zero negative
  else if (size : Int) + exponent > 400 then infinity negative
  else nearest negative (digits * Nat.pow 10 exponent.toNat) (Nat.pow 10 (-exponent).toNat)

/-- The magnitude of a finite number as `m · 2 ^ q`. -/
def binary (x : Double) : Nat × Int :=
  if x.exponentBits = 0 then (x.fractionBits, -1074)
  else (x.fractionBits + Nat.pow 2 52, (x.exponentBits : Int) - 1075)

/-- The number as a whole number, if it is one. -/
def toInt? (x : Double) : Option Int :=
  if x.exponentBits = 0x7FF then none
  else
    let (m, q) := x.binary
    let n? : Option Nat :=
      if 0 ≤ q then some (m * Nat.pow 2 q.toNat)
      else if m % Nat.pow 2 (-q).toNat = 0 then some (m / Nat.pow 2 (-q).toNat) else none
    n?.map fun n => if x.negative then -(n : Int) else n

/-- Decimal digits with a point after the first `point` of them, zeros filled in on either side. -/
def positional (digits : List Char) (point : Int) : List Char :=
  if point ≤ 0 then '0' :: '.' :: List.replicate (-point).toNat '0' ++ digits
  else if (digits.length : Int) ≤ point then
    digits ++ List.replicate (point.toNat - digits.length) '0' ++ ['.', '0']
  else digits.take point.toNat ++ '.' :: digits.drop point.toNat

/-- An exponent with its sign and at least two digits. -/
def exponentText (exponent : Int) : List Char :=
  let power := Nat.toDigits 10 exponent.natAbs
  'e' :: (if exponent < 0 then '-' else '+') ::
    (if power.length < 2 then '0' :: power else power)

/-- One digit before the point, and an exponent. -/
def scientific (digits : List Char) (exponent : Int) : List Char :=
  let mantissa := match digits with
    | d :: e :: rest => d :: '.' :: e :: rest
    | ds => ds
  mantissa ++ exponentText exponent

/-- The fewest digits that read back, positional from a ten-thousandth up to below 10^16. -/
def finiteText (x : Double) : String :=
  let sign := if x.negative then "-" else ""
  if x.isZero then sign ++ "0.0"
  else
    let (m, q) := x.binary
    let d := shortest m q (m == Nat.pow 2 52 && x.exponentBits > 1)
    let digits := Nat.toDigits 10 d.digits
    let point := (digits.length : Int) + d.exponent
    sign ++ .ofList (if -4 < point ∧ point ≤ 16 then positional digits point
      else scientific digits (point - 1))

/-- The text of a number in a message. -/
def text (x : Double) : String :=
  if x.isNaN then "nan"
  else if x.isInfinite then (if x.negative then "-inf" else "inf")
  else x.finiteText

def toFloat (x : Double) : Float := Float.ofBits x.bits

def ofFloat (x : Float) : Double := ⟨x.toBits⟩

/-- The double nearest to a whole number. -/
def ofInt (n : Int) : Double := nearest (n < 0) n.natAbs 1

/-- The same number: the zeros are equal, and a text written twice reads the same. -/
def same (x y : Double) : Bool := x == y || (x.isZero && y.isZero)

def negate (x : Double) : Double := ⟨x.bits ^^^ 0x8000000000000000⟩

def abs (x : Double) : Double := if x.negative then x.negate else x

end Double

end GoScaffold.Decimal
