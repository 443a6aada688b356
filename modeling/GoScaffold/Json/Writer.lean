import GoScaffold.Decimal.Number
import GoScaffold.Json.Basic

/-!
# Writing JSON

Writes a value on one line or indented, with characters beyond ASCII as they are or escaped.
-/
namespace GoScaffold.Json

open GoScaffold.Decimal GoScaffold.Text

/-- How a value is laid out. -/
structure Layout where
  /-- The blanks per level of nesting; without it all stands on one line. -/
  indent : Option Nat
  asciiOnly : Bool

/-- Configuration files are indented by two and keep every character. -/
def Layout.file : Layout := ⟨some 2, false⟩

def Layout.line : Layout := ⟨none, true⟩

def unicodeEscaped (n : Nat) : List Char := '\\' :: 'u' :: hexDigits 4 n

def writtenChar (asciiOnly : Bool) (c : Char) : List Char :=
  if c = '"' ∨ c = '\\' then ['\\', c]
  else if c = '\n' then ['\\', 'n']
  else if c = '\r' then ['\\', 'r']
  else if c = '\t' then ['\\', 't']
  else if c = '\x08' then ['\\', 'b']
  else if c = '\x0c' then ['\\', 'f']
  else if c.toNat < 0x20 then unicodeEscaped c.toNat
  else if asciiOnly && c.toNat ≥ 0x7F then
    if c.toNat < 0x10000 then unicodeEscaped c.toNat
    else unicodeEscaped (0xD800 + (c.toNat - 0x10000) / 0x400) ++
      unicodeEscaped (0xDC00 + (c.toNat - 0x10000) % 0x400)
  else [c]

def writtenString (asciiOnly : Bool) (s : String) : String :=
  .ofList ('"' :: s.toList.flatMap (writtenChar asciiOnly) ++ ['"'])

def writtenFloat (x : Double) : String :=
  if x.isNaN then "NaN"
  else if x.isInfinite then (if x.negative then "-Infinity" else "Infinity")
  else x.text

namespace Layout

/-- The break before an item at a level of nesting. -/
def lineBreak (l : Layout) (level : Nat) : String :=
  match l.indent with
  | none => ""
  | some n => "\n" ++ times (level * n) " "

def separator (l : Layout) (level : Nat) : String :=
  match l.indent with
  | none => ", "
  | some _ => "," ++ l.lineBreak level

end Layout

mutual

def write (l : Layout) (level : Nat) : Json → String
  | .null => "null"
  | .bool b => if b then "true" else "false"
  | .int n => toString n
  | .float x => writtenFloat x
  | .str s => writtenString l.asciiOnly s
  | .array [] => "[]"
  | .array (x :: xs) =>
    "[" ++ l.lineBreak (level + 1) ++
      join (l.separator (level + 1)) (writeItems l (level + 1) (x :: xs)) ++
      l.lineBreak level ++ "]"
  | .object [] => "\x7b\x7d"
  | .object (f :: fs) =>
    "\x7b" ++ l.lineBreak (level + 1) ++
      join (l.separator (level + 1)) (writeFields l (level + 1) (f :: fs)) ++
      l.lineBreak level ++ "\x7d"

def writeItems (l : Layout) (level : Nat) : List Json → List String
  | [] => []
  | x :: xs => write l level x :: writeItems l level xs

def writeFields (l : Layout) (level : Nat) : List (String × Json) → List String
  | [] => []
  | (k, x) :: xs =>
    (writtenString l.asciiOnly k ++ ": " ++ write l level x) :: writeFields l level xs

end

/-- Why a value is not written. -/
inductive Unwritable
  | numberTooLong
  | nestedTooDeep
  deriving Repr, DecidableEq

/-- The largest number of arrays and objects that are written in each other. -/
def deepestWritten : Nat := 490

def Unwritable.message : Unwritable → String
  | .numberTooLong => longIntegerText none
  | .nestedTooDeep => "maximum recursion depth exceeded"

mutual

/-- What keeps a value from being written where `room` arrays and objects may stand in each
other. -/
def unwritable? (room : Nat) : Json → Option Unwritable
  | .int n => if isLong n then some .numberTooLong else none
  | .array xs => if room = 0 then some .nestedTooDeep else unwritableItem? (room - 1) xs
  | .object fs => if room = 0 then some .nestedTooDeep else unwritableField? (room - 1) fs
  | _ => none

def unwritableItem? (room : Nat) : List Json → Option Unwritable
  | [] => none
  | x :: xs => unwritable? room x <|> unwritableItem? room xs

def unwritableField? (room : Nat) : List (String × Json) → Option Unwritable
  | [] => none
  | (_, x) :: xs => unwritable? room x <|> unwritableField? room xs

end

/-- The text of a configuration file. -/
def toFile (j : Json) : String := write .file 0 j

def toLine (j : Json) : String := write .line 0 j

end GoScaffold.Json
