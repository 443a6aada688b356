import GoScaffold.Decimal.Written
import GoScaffold.Template.Relation

/-!
# Texts with marked places

A text in which a percent sign marks the places of values: `%s` for the text of a value, `%d` for an
integer, `%.2f` for a number. A mark may tell how wide the value is written and with how many
digits, and may take its value from a dictionary by a key.
-/
namespace GoScaffold.Template

open GoScaffold.Text GoScaffold.Decimal

/-- How a value is written at its place. -/
structure Mark where
  left : Bool := false
  plus : Bool := false
  blank : Bool := false
  alternate : Bool := false
  zero : Bool := false
  width : Nat := 0
  precision : Option Nat := none
  deriving Repr, DecidableEq

/-- A written value: its sign or none, the mark of its base, and the rest; `filled` if zeros may
stand in front of it. -/
structure Written where
  sign : List Char := []
  base : List Char := []
  body : List Char
  filled : Bool := false
  deriving Repr, DecidableEq

namespace Mark

/-- Puts a written value on its side of the width. -/
def place (m : Mark) (w : Written) : List Char :=
  let size := w.sign.length + w.base.length + w.body.length
  let free := m.width - size
  if w.filled ∧ m.zero then
    if m.left then w.sign ++ w.base ++ w.body ++ List.replicate free ' '
    else w.sign ++ w.base ++ List.replicate free '0' ++ w.body
  else
    let all := w.sign ++ w.base ++ w.body
    if m.left then all ++ List.replicate free ' ' else List.replicate free ' ' ++ all

/-- The sign of a number that is negative or not. -/
def signOf (m : Mark) (negative : Bool) : List Char :=
  if negative then ['-'] else if m.plus then ['+'] else if m.blank then [' '] else []

/-- The characters of a text, as many of them as the precision allows. -/
def textual (m : Mark) (s : String) : Written :=
  let cs := s.toList
  { body := cs.take (m.precision.getD cs.length) }

/-- An integer in the notation of a letter. -/
def integral (m : Mark) (letter : Char) (n : Int) : Outcome Written :=
  let base := if letter = 'o' then 8 else if letter = 'x' ∨ letter = 'X' then 16 else 10
  if base = 10 ∧ isLong n then .error (.longInteger none)
  else
    let digits := Nat.toDigits base n.natAbs
    let digits := if letter = 'X' then digits.map Char.toUpper else digits
    .ok {
      sign := m.signOf (n < 0)
      base := if m.alternate ∧ base ≠ 10 then ['0', letter] else []
      body := List.replicate (m.precision.getD 0 - digits.length) '0' ++ digits
      filled := true }

/-- A double in the notation of a letter. -/
def fractional (m : Mark) (letter : Char) (x : Double) : Written :=
  let places := m.precision.getD 6
  let body :=
    if x.isNaN then ['n', 'a', 'n']
    else if x.isInfinite then ['i', 'n', 'f']
    else match letter.toLower with
      | 'e' => x.exponential places m.alternate
      | 'f' => x.fixed places m.alternate
      | _ => x.general places m.alternate
  { sign := m.signOf (x.negative && !x.isNaN)
    body := if letter.isUpper then body.map Char.toUpper else body
    filled := true }

end Mark

/-- The integer that a value is cut off to. -/
def wholePart (letter : Char) (v : Value) : Outcome Int :=
  let based := letter = 'o' ∨ letter = 'x' ∨ letter = 'X'
  let wanted := if based then "an integer" else "a real number"
  match v.int?, v with
  | some n, _ => .ok n
  | none, .float x =>
    if based then .error (.badArgument s!"%{letter} format: {wanted} is required, not float")
    else if x.isNaN then .error (.badValue "cannot convert float NaN to integer")
    else if x.isInfinite then .error (.badSize "cannot convert float infinity to integer")
    else
      let (m, q) := x.binary
      let n : Int := m * Nat.pow 2 q.toNat / Nat.pow 2 (-q).toNat
      .ok (if x.negative then -n else n)
  | none, .undefined a =>
    if based then
      .error (.badArgument s!"%{letter} format: {wanted} is required, not {v.typeName}")
    else .error (.undefined a)
  | none, v => .error (.badArgument s!"%{letter} format: {wanted} is required, not {v.typeName}")

/-- The double nearest to a value. -/
def realPart (v : Value) : Outcome Double :=
  match v.number?, v with
  | some n, _ => n.toReal.mapError .number
  | none, .undefined a => .error (.undefined a)
  | none, v => .error (.badArgument s!"must be real number, not {v.typeName}")

/-- The character that a value is or numbers. -/
def characterOf (v : Value) : Outcome Char :=
  match v, v.int? with
  | .str s, _ =>
    match s.toList with
    | [c] => .ok c
    | _ => .error (.badArgument "%c requires int or char")
  | _, some n =>
    if 0 ≤ n ∧ n < 0x110000 then .ok (.ofNat n.toNat)
    else .error (.badSize "%c arg not in range(0x110000)")
  | _, none => .error (.badArgument "%c requires int or char")

/-- Writes a value in the notation of a letter; the position is that of the letter. -/
def writeMarked (m : Mark) (letter : Char) (position : Nat) (v : Value) :
    Outcome (List Char) := do
  let w ← match letter with
    | 's' => do pure (m.textual (← v.text))
    | 'r' => do pure (m.textual (← v.quotedText))
    | 'a' => do pure (m.textual (.ofList (inAscii (← v.quotedText).toList)))
    | 'c' => do pure { body := [← characterOf v] }
    | letter =>
      if "diuoxX".contains letter then do m.integral letter (← wholePart letter v)
      else if "eEfFgG".contains letter then do pure (m.fractional letter (← realPart v))
      else
        let shown := if 31 ≤ letter.toNat ∧ letter.toNat < 0x7F then letter else '?'
        let number := String.ofList (Nat.toDigits 16 letter.toNat)
        throw (.badValue
          s!"unsupported format character '{shown}' (0x{number}) at index {position}")
  return m.place w

/-- The format that is left, the values that are left, and the value in which keys are looked up. -/
structure Marking where
  rest : List Char
  values : List Value
  source : Option Value := none

abbrev Marked (α : Type) := StateT Marking (Except RenderFault) α

namespace Marked

def nextValue : Marked Value := do
  let s ← get
  match s.values with
  | [] => throw (.badArgument "not enough arguments for format string")
  | v :: vs =>
    set { s with values := vs }
    return v

def peek : Marked Char := do
  match (← get).rest with
  | [] => throw (.badValue "incomplete format")
  | c :: _ => return c

def skip : Marked Unit := modify fun s => { s with rest := s.rest.drop 1 }

/-- The characters up to the parenthesis that closes an open one, and the rest after it. -/
def keyAt? : Nat → List Char → Option (List Char × List Char)
  | _, [] => none
  | depth, ')' :: cs =>
    if depth = 0 then some ([], cs) else (keyAt? (depth - 1) cs).map fun r => (')' :: r.1, r.2)
  | depth, c :: cs =>
    (keyAt? (if c = '(' then depth + 1 else depth) cs).map fun r => (c :: r.1, r.2)

/-- The entry under a key of a dictionary. -/
def entryOf (key : String) : Value → Outcome Value
  | .dict entries =>
    match Value.lookup (.str key) entries with
    | some v => .ok v
    | none => .error (.unknownKey key)
  | .undefined a => .error (.undefined a)
  | v => .error (.badArgument s!"{v.typeName} indices must be integers or slices, not str")

/-- Takes the key of a place, if it has one; its entry is the next value. -/
def takeKey : Marked Unit := do
  let s ← get
  if s.rest.head? = some '(' then
    match s.source with
    | none => throw (.badArgument "format requires a mapping")
    | some source =>
      match keyAt? 0 (s.rest.drop 1) with
      | none => throw (.badValue "incomplete format key")
      | some (key, rest) =>
        let v ← entryOf (.ofList key) source
        set { s with rest, values := [v] }

def takeFlags : Nat → Mark → Marked Mark
  | 0, m => return m
  | n + 1, m => do
    let c ← peek
    let next (m : Mark) : Marked Mark := do
      skip
      takeFlags n m
    match c with
    | '-' => next { m with left := true }
    | '+' => next { m with plus := true }
    | ' ' => next { m with blank := true }
    | '#' => next { m with alternate := true }
    | '0' => next { m with zero := true }
    | _ => return m

/-- A number written out, or given by the next value for a star. -/
def takeNumber (limit : Nat) (tooBig unfit : String) : Marked (Option Int) := do
  if (← peek) = '*' then
    match ← nextValue with
    | v =>
      match v.int? with
      | none => throw (.badArgument "* wants int")
      | some n =>
        if (limit : Int) < n ∨ n < -(limit : Int) - 1 then throw (.badSize unfit)
        skip
        return some n
  else
    let digits := (← get).rest.takeWhile (·.isDigit)
    if digits.isEmpty then return none
    else
      let n := decimalValue digits
      if limit < n then throw (.badValue tooBig)
      modify fun s => { s with rest := s.rest.drop digits.length }
      return some n

def takeWidth (m : Mark) : Marked Mark := do
  match ← takeNumber (Nat.pow 2 63 - 1) "width too big"
      "Python int too large to convert to C ssize_t" with
  | none => return m
  | some n => return { m with width := n.natAbs, left := m.left || n < 0 }

def takePrecision (m : Mark) : Marked Mark := do
  if (← peek) = '.' then
    skip
    let n ← takeNumber (Nat.pow 2 31 - 1) "precision too big"
      "Python int too large to convert to C int"
    return { m with precision := some (n.getD 0).toNat }
  else return m

/-- Writes the value of one place; the format has `size` characters. -/
def writePlace (size : Nat) : Marked (List Char) := do
  takeKey
  let m ← takeFlags size {}
  let m ← takeWidth m
  let m ← takePrecision m
  if "hlL".contains (← peek) then skip
  let letter ← peek
  let position := size - (← get).rest.length
  skip
  if letter = '%' then return ['%']
  else writeMarked m letter position (← nextValue)

/-- Writes the rest of the format; the first argument bounds the number of places. -/
def write (size : Nat) : Nat → Marked (List Char)
  | 0 => return []
  | n + 1 => do
    let s ← get
    let before := s.rest.takeWhile (· != '%')
    match s.rest.drop before.length with
    | [] =>
      if !s.values.isEmpty ∧ s.source.isNone then
        throw (.badArgument "not all arguments converted during string formatting")
      return before
    | _ :: rest =>
      set { s with rest }
      let written ← writePlace size
      return before ++ written ++ (← write size n)

end Marked

/-- A value in which the places of a format may look up their keys. -/
def Value.isSource : Value → Bool
  | .dict _ => true
  | .list _ => true
  | .undefined _ => true
  | .template _ => true
  | _ => false

/-- Writes values at the marked places of a text; a tuple gives one value for each place. -/
def writeAtMarks (format : String) (v : Value) : Outcome String := do
  let cs := format.toList
  let values := match v with
    | .tuple items => items
    | v => [v]
  let source := if v.isSource then some v else none
  let (written, _) ← (Marked.write cs.length (cs.length + 1)).run { rest := cs, values, source }
  return .ofList written

end GoScaffold.Template
