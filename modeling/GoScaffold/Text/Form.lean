import GoScaffold.Text.Placeholder
import GoScaffold.Text.Split

/-!
# Forms of written values

How wide a value is written, on which side it stands, how many of its characters or digits are
shown, and in which notation: `>8`, `*^9.2`, `+,.2f`.
-/
namespace GoScaffold.Text

/-- What is wrong with a form, for a value of some kind. -/
inductive FormFault
  | malformed (form kind : String)
  | unknownStyle (style : Char) (kind : String)
  | noPrecision
  | tooManyDigits
  | tooWide
  | separated (separator style : Char)
  | twoSeparators
  | signedText
  | spacedText
  | zeroSignText
  | alternateText
  | paddedText
  deriving Repr, DecidableEq

def FormFault.message : FormFault → String
  | .malformed form kind => s!"Invalid format specifier '{form}' for object of type '{kind}'"
  | .unknownStyle c kind =>
    s!"Unknown format code '{shownOrNumber 128 c}' for object of type '{kind}'"
  | .noPrecision => "Format specifier missing precision"
  | .tooManyDigits => "Too many decimal digits in format string"
  | .tooWide => ""
  | .separated s c => s!"Cannot specify '{s}' with '{shownOrNumber 128 c}'."
  | .twoSeparators => "Cannot specify both ',' and '_'."
  | .signedText => "Sign not allowed in string format specifier"
  | .spacedText => "Space not allowed in string format specifier"
  | .zeroSignText => "Negative zero coercion (z) not allowed in string format specifier"
  | .alternateText => "Alternate form (#) not allowed in string format specifier"
  | .paddedText => "'=' alignment not allowed in string format specifier"

/-- A form; the notation is a character that each kind of value reads in its own way. -/
structure Form where
  fill : Char := ' '
  align : Char
  sign : Option Char := none
  noNegativeZero : Bool := false
  alternate : Bool := false
  width : Option Nat := none
  separator : Option Char := none
  precision : Option Nat := none
  style : Option Char := none
  deriving Repr, DecidableEq

namespace Form

def isAlign (c : Char) : Bool := c == '<' || c == '>' || c == '=' || c == '^'

def isSign (c : Char) : Bool := c == ' ' || c == '+' || c == '-'

/-- A character that stands first or not at all. -/
def readMark (p : Char → Bool) : List Char → Option Char × List Char
  | [] => (none, [])
  | c :: cs => if p c then (some c, cs) else (none, c :: cs)

/-- The fill and the side that a form starts with. -/
def readAlign : List Char → Option Char × Option Char × List Char
  | [] => (none, none, [])
  | [c] => if isAlign c then (none, some c, []) else (none, none, [c])
  | c :: d :: cs =>
    if isAlign d then (some c, some d, cs)
    else if isAlign c then (none, some c, d :: cs)
    else (none, none, c :: d :: cs)

/-- A number that stands first or not at all. -/
def readNumber (cs : List Char) : Except FormFault (Option Nat × List Char) :=
  let digits := cs.takeWhile isDecimalDigit
  match readIndex? digits with
  | .ok n => .ok (n, cs.drop digits.length)
  | .error _ => .error .tooManyDigits

/-- The separators of thousands, of which there may be one. -/
def readSeparator (cs : List Char) : Except FormFault (Option Char × List Char) :=
  match cs with
  | ',' :: '_' :: _ => .error .twoSeparators
  | '_' :: ',' :: _ => .error .twoSeparators
  | ',' :: cs => .ok (some ',', cs)
  | '_' :: cs => .ok (some '_', cs)
  | cs => .ok (none, cs)

def readPrecision : List Char → Except FormFault (Option Nat × List Char)
  | '.' :: cs => do
    match ← readNumber cs with
    | (none, _) => throw .noPrecision
    | r => return r
  | cs => .ok (none, cs)

/-- Notations that may separate thousands: decimal ones, and with an underscore also binary ones. -/
def separates (separator : Char) (style : Option Char) : Bool :=
  match style with
  | none => true
  | some c => "deEfFgG%".contains c || (separator == '_' && "boxX".contains c)

/-- Reads a form. A value of the given kind stands on the side `align` and is written in the notation
`usual` if the form does not say otherwise. -/
def read (kind : String) (align : Char) (usual : Option Char) (form : List Char) :
    Except FormFault Form := do
  let (fill, side, cs) := readAlign form
  let (sign, cs) := readMark isSign cs
  let (noNegativeZero, cs) := readMark (· == 'z') cs
  let (alternate, cs) := readMark (· == '#') cs
  let (zero, cs) := if fill.isSome then (none, cs) else readMark (· == '0') cs
  let (width, cs) ← readNumber cs
  let (separator, cs) ← readSeparator cs
  let (precision, cs) ← readPrecision cs
  let style ← match cs with
    | [] => pure usual
    | [c] => pure (some c)
    | _ => throw (.malformed (.ofList form) kind)
  if let some s := separator then
    if !separates s style then throw (.separated s (style.getD 's'))
  let padded := zero.isSome && align == '>'
  return {
    fill := fill.getD (if zero.isSome then '0' else ' ')
    align := side.getD (if padded then '=' else align)
    sign, noNegativeZero := noNegativeZero.isSome, alternate := alternate.isSome, width, separator,
    precision, style }

/-- The widest text that can be written. -/
def widest : Nat := 100000000000

/-- Puts a text on its side of the width. -/
def place (f : Form) (cs : List Char) : List Char :=
  let free := f.width.getD 0 - cs.length
  let left := if f.align = '>' then free else if f.align = '^' then free / 2 else 0
  List.replicate left f.fill ++ cs ++ List.replicate (free - left) f.fill

/-- What a text cannot be written in. -/
def textFault? (f : Form) : Option FormFault :=
  if f.style ≠ some 's' then some (.unknownStyle (f.style.getD 's') "str")
  else if f.sign = some ' ' then some .spacedText
  else if f.sign.isSome then some .signedText
  else if f.noNegativeZero then some .zeroSignText
  else if f.alternate then some .alternateText
  else if f.align = '=' then some .paddedText
  else if widest < f.width.getD 0 then some .tooWide
  else none

/-- Writes a text in a form; an empty form changes nothing. -/
def writeText (form cs : List Char) : Except FormFault (List Char) :=
  if form.isEmpty then .ok cs
  else match read "str" '<' (some 's') form with
    | .error e => .error e
    | .ok f =>
      match f.textFault? with
      | some e => .error e
      | none => .ok (f.place (cs.take (f.precision.getD cs.length)))

end Form

end GoScaffold.Text
