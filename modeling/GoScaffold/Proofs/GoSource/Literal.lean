import GoScaffold.Proofs.GoSource.Outline
import GoScaffold.Proofs.GoSource.Signature
import GoScaffold.Proofs.GoSource.Struct
import GoScaffold.Proofs.Json.Scalar
import GoScaffold.Proofs.Text.Numeral
import Mathlib.Data.Rat.Cast.Order

/-!
# Literals in generated source

The value of a text or of a decimal number as it stands in generated source, and whether such a
value meets a condition that compares it with a literal.
-/
namespace GoScaffold

open GoScaffold.Text GoScaffold.FieldType

inductive GoValue
  | text (s : String)
  | number (q : ℚ)
  deriving DecidableEq

namespace GoValue

def natural? (cs : List Char) : Option Nat :=
  if cs ≠ [] ∧ cs.all Char.isDigit = true then some (Nat.ofDigitChars 10 cs 0) else none

/-- An integer, which has no zeros in front, or a number with a fraction. -/
def unsigned? (cs : List Char) : Option ℚ :=
  match cutAt? '.' cs with
  | none => if cs.head? = some '0' ∧ cs ≠ ['0'] then none else (natural? cs).map fun n : Nat => (n : ℚ)
  | some (whole, fraction) => do
    let n ← natural? whole
    let k ← natural? fraction
    return n + k / 10 ^ fraction.length

def number? : List Char → Option ℚ
  | '-' :: cs => (unsigned? cs).map fun q => -q
  | cs => unsigned? cs

/-- The value of a quoted text without escapes or of a decimal number. -/
def ofLiteral? (literal : String) : Option GoValue :=
  match behindStart? "\"" literal with
  | some rest => (beforeEnd? "\"" rest).bind fun s =>
    if Lacks ['"', '\\', '\n'] s then some (.text s) else none
  | none => (number? literal.toList).map .number

def equals? : GoValue → GoValue → Option Bool
  | .text s, .text t => some (s = t)
  | .number p, .number q => some (p = q)
  | _, _ => none

def less? : GoValue → GoValue → Option Bool
  | .text s, .text t => some (s < t)
  | .number p, .number q => some (p < q)
  | _, _ => none

/-- Whether a value meets a condition that compares it, under a name, with a literal of its sort. -/
def meets? (v : GoValue) (ref condition : String) : Option Bool := do
  let comparison ← behindStart? ref condition
  match behindStart? " == " comparison, behindStart? " < " comparison with
  | some literal, _ => v.equals? (← ofLiteral? literal)
  | none, some literal => v.less? (← ofLiteral? literal)
  | none, none => none

theorem ofLiteral?_doubleQuoted {s : String} (h : Lacks ['"', '\\', '\n'] s) :
    ofLiteral? (doubleQuoted s) = some (.text s) := by
  rw [ofLiteral?, doubleQuoted, String.append_assoc, behindStart?_append]
  simp only [beforeEnd?_append, Option.bind_some, if_pos h]

section Numbers

variable (n : Nat)

theorem natural?_zeroPadded (width : Nat) : natural? (zeroPadded width n).toList = some n := by
  have hdigits : (zeroPadded width n).toList.all Char.isDigit = true :=
    List.all_eq_true.2 fun c hc => isDigit_of_mem_zeroPadded hc
  rw [natural?, if_pos ⟨zeroPadded_ne_nil width n, hdigits⟩, ofDigitChars_zeroPadded]

/-- What starts with a digit is a number without a sign. -/
theorem ofLiteral?_of_digit {literal : String} {c : Char} {cs : List Char}
    (hliteral : literal.toList = c :: cs) (hc : c.isDigit = true) :
    ofLiteral? literal = (unsigned? (c :: cs)).map .number := by
  have hquote : c ≠ '"' := by
    rintro rfl
    cases hc
  have hminus : c ≠ '-' := by
    rintro rfl
    cases hc
  have hhead : literal.toList.head? ≠ some '"' := by
    rw [hliteral]
    simpa using hquote
  rw [ofLiteral?, behindStart?_of_head rfl hhead, hliteral]
  rw [number?]
  intro rest heq
  exact hminus (List.cons.inj heq).1

theorem exists_zeroPadded (width : Nat) :
    ∃ c cs, (zeroPadded width n).toList = c :: cs ∧ c.isDigit = true := by
  obtain ⟨c, cs, hcs⟩ := List.exists_cons_of_ne_nil (zeroPadded_ne_nil width n)
  exact ⟨c, cs, hcs, isDigit_of_mem_zeroPadded (hcs ▸ List.mem_cons_self ..)⟩

theorem not_mem_zeroPadded {c : Char} (hc : c.isDigit = false) (width : Nat) :
    c ∉ (zeroPadded width n).toList := fun hmem => by
  rw [isDigit_of_mem_zeroPadded hmem] at hc
  cases hc

theorem ofLiteral?_natural : ofLiteral? (zeroPadded 0 n) = some (.number n) := by
  obtain ⟨c, cs, hcs, hc⟩ := exists_zeroPadded n 0
  have hpoint : cutAt? '.' (c :: cs) = none :=
    cutAt?_eq_none (hcs ▸ not_mem_zeroPadded n (by decide) 0)
  have hfirst : ¬ ((c :: cs).head? = some '0' ∧ c :: cs ≠ ['0']) := by
    rw [← hcs, toList_zeroPadded, Nat.zero_sub, List.replicate_zero, List.nil_append]
    rintro ⟨hhead, hzero⟩
    by_cases hn : n = 0
    · exact hzero (hn ▸ rfl)
    · exact Json.head?_toDigits hn hhead
  have hnatural : natural? (c :: cs) = some n := hcs ▸ natural?_zeroPadded n 0
  rw [ofLiteral?_of_digit hcs hc, unsigned?, hpoint]
  simp only [if_neg hfirst, hnatural, Option.map_some]

theorem ofLiteral?_fraction (k width : Nat) :
    ofLiteral? (zeroPadded 0 n ++ "." ++ zeroPadded width k) =
      some (.number (n + k / 10 ^ (zeroPadded width k).length)) := by
  obtain ⟨c, cs, hcs, hc⟩ := exists_zeroPadded n 0
  have hliteral : (zeroPadded 0 n ++ "." ++ zeroPadded width k).toList =
      c :: (cs ++ '.' :: (zeroPadded width k).toList) := by
    simp [hcs]
  have hpoint : cutAt? '.' (c :: (cs ++ '.' :: (zeroPadded width k).toList)) =
      some (c :: cs, (zeroPadded width k).toList) :=
    cutAt?_eq_some_iff.2 ⟨rfl, hcs ▸ not_mem_zeroPadded n (by decide) 0⟩
  have hnatural : natural? (c :: cs) = some n := hcs ▸ natural?_zeroPadded n 0
  rw [ofLiteral?_of_digit hliteral hc, unsigned?, hpoint]
  simp [hnatural, natural?_zeroPadded, String.length_toList]

end Numbers

theorem meets?_emptyText (s ref : String) :
    (text s).meets? ref (ref ++ " == \"\"") = some (decide (s = "")) := by
  have hequal : behindStart? " == " " == \"\"" = some "\"\"" := by decide
  have hempty : ofLiteral? "\"\"" = some (.text "") := ofLiteral?_doubleQuoted (s := "") (by decide)
  simp [meets?, behindStart?_append, hequal, hempty, equals?]

theorem meets?_negative (q : ℚ) (ref : String) :
    (number q).meets? ref (ref ++ " < 0") = some (decide (q < 0)) := by
  have hequal : behindStart? " == " " < 0" = none := by decide
  have hless : behindStart? " < " " < 0" = some "0" := by decide
  have hzero : ofLiteral? "0" = some (.number 0) := ofLiteral?_natural 0
  simp [meets?, behindStart?_append, hequal, hless, hzero, less?]

end GoValue

end GoScaffold
