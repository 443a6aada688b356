import GoScaffold.Decimal.Number

/-!
# Doubles written with a given number of digits

The three notations of a double: with a number of places after the point, with one digit before the
point and an exponent, and the shorter of both for a number of digits. Only the magnitude is
written; it is rounded to the nearest decimal, to the even one of two.
-/
namespace GoScaffold.Decimal

namespace Double

/-- The magnitude of a finite number as a fraction. -/
def ratio (x : Double) : Nat × Nat :=
  let (m, q) := x.binary
  (m * Nat.pow 2 q.toNat, Nat.pow 2 (-q).toNat)

/-- The magnitude times a power of ten as a whole number. -/
def scaled (x : Double) (power : Int) : Nat :=
  let (n, d) := x.ratio
  roundedQuotient (n * Nat.pow 10 power.toNat) (d * Nat.pow 10 (-power).toNat)

/-- A number of digits of the magnitude and the exponent of the first one; all digits of zero are
zeros. -/
def leading (x : Double) (size : Nat) : List Char × Int :=
  if x.isZero then (List.replicate size '0', 0)
  else
    let lead := leadingExponent x.ratio
    let digits := Nat.toDigits 10 (x.scaled (size - 1 - lead))
    if size < digits.length then (digits.take size, lead + 1) else (digits, lead)

/-- The digits before and after a point, which is left out if nothing follows and it is not asked
for. -/
def pointed (whole places : List Char) (keepsPoint : Bool) : List Char :=
  if places.isEmpty ∧ !keepsPoint then whole else whole ++ '.' :: places

/-- The magnitude with a number of places after the point. -/
def fixed (x : Double) (places : Nat) (keepsPoint : Bool) : List Char :=
  let digits := Nat.toDigits 10 (x.scaled places)
  let digits := List.replicate (places + 1 - digits.length) '0' ++ digits
  let size := digits.length - places
  pointed (digits.take size) (digits.drop size) keepsPoint

def withoutFinalZeros (cs : List Char) : List Char := (cs.reverse.dropWhile (· == '0')).reverse

/-- The magnitude with one digit before the point and a number of places after it. -/
def exponential (x : Double) (places : Nat) (keepsPoint : Bool) : List Char :=
  let (digits, exponent) := x.leading (places + 1)
  pointed (digits.take 1) (digits.drop 1) keepsPoint ++ exponentText exponent

/-- The magnitude with a number of digits, in whichever notation suits it; final zeros are left out
unless they are asked for. -/
def general (x : Double) (size : Nat) (keepsZeros : Bool) : List Char :=
  let size := max 1 size
  let (digits, exponent) := x.leading size
  let kept (places : List Char) := if keepsZeros then places else withoutFinalZeros places
  if exponent < -4 ∨ (size : Int) ≤ exponent then
    pointed (digits.take 1) (kept (digits.drop 1)) keepsZeros ++ exponentText exponent
  else if exponent < 0 then
    pointed ['0'] (kept (List.replicate (exponent.natAbs - 1) '0' ++ digits)) keepsZeros
  else
    let whole := exponent.toNat + 1
    pointed (digits.take whole) (kept (digits.drop whole)) keepsZeros

end Double

end GoScaffold.Decimal
