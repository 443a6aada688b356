import GoScaffold.Decimal.Number
import GoScaffold.Json.Basic
import GoScaffold.Text.Digit

/-!
# Reading JSON

Reads a text as one JSON value, or says what is wrong and where: at which character, counted from
zero, and in which line and column, counted from one. Beyond the standard it reads the names of
the numbers that are not finite. A field given twice keeps its first place and its last value.
-/
namespace GoScaffold.Json

open GoScaffold.Decimal
open GoScaffold.Text (hexValue?)

inductive Cause
  | byteOrderMark
  | value
  | name
  | colon
  | comma
  | extraData
  | controlCharacter
  | unterminatedString (start : Nat)
  | escape
  | unicodeEscape
  | numberTooLong (digits : Nat)
  | nestedTooDeep (kind : String)
  deriving Repr, DecidableEq

/-- The largest number of arrays and objects that may stand in each other. -/
def deepestNesting : Nat := 985

def Cause.text : Cause → String
  | .byteOrderMark => "Unexpected UTF-8 BOM (decode using utf-8-sig)"
  | .value => "Expecting value"
  | .name => "Expecting property name enclosed in double quotes"
  | .colon => "Expecting ':' delimiter"
  | .comma => "Expecting ',' delimiter"
  | .extraData => "Extra data"
  | .controlCharacter => "Invalid control character at"
  | .unterminatedString _ => "Unterminated string starting at"
  | .escape => "Invalid \\escape"
  | .unicodeEscape => "Invalid \\uXXXX escape"
  | .numberTooLong digits => longIntegerText (some digits)
  | .nestedTooDeep kind =>
    s!"maximum recursion depth exceeded while decoding a JSON {kind} from a unicode string"

/-- What is wrong, with the number of characters that were left when it was met. -/
structure Stop where
  cause : Cause
  left : Nat

/-- What is wrong, at a character counted from zero. -/
structure Fault where
  cause : Cause
  position : Nat
  deriving Repr, DecidableEq

def Fault.line (f : Fault) (text : List Char) : Nat := (text.take f.position).count '\n' + 1

def Fault.column (f : Fault) (text : List Char) : Nat :=
  ((text.take f.position).reverse.takeWhile (· != '\n')).length + 1

def Fault.message (f : Fault) (text : List Char) : String :=
  s!"{f.cause.text}: line {f.line text} column {f.column text} (char {f.position})"

def isSpace (c : Char) : Bool := c == ' ' || c == '\t' || c == '\n' || c == '\r'

def skipSpace (cs : List Char) : List Char := cs.dropWhile isSpace

def stop {α : Type} (cause : Cause) (rest : List Char) : Except Stop α :=
  .error ⟨cause, rest.length⟩

/-- The number that four hexadecimal digits give, if another character follows them. -/
def fourHex? : List Char → Option (Nat × List Char)
  | a :: b :: c :: d :: e :: rest => do
    let a ← hexValue? a
    let b ← hexValue? b
    let c ← hexValue? c
    let d ← hexValue? d
    return (((a * 16 + b) * 16 + c) * 16 + d, e :: rest)
  | _ => none

def simpleEscape? (c : Char) : Option Char :=
  match c with
  | '"' => some '"'
  | '\\' => some '\\'
  | '/' => some '/'
  | 'b' => some '\x08'
  | 'f' => some '\x0c'
  | 'n' => some '\n'
  | 'r' => some '\r'
  | 't' => some '\t'
  | _ => none

/-- The code point after `\u`, a surrogate pair joined to one. -/
def unicodeEscape (rest : List Char) : Except Stop (Char × List Char) :=
  match fourHex? rest with
  | none => .error ⟨.unicodeEscape, rest.length + 1⟩
  | some (high, after) =>
    if 0xD800 ≤ high ∧ high < 0xDC00 then
      match after with
      | '\\' :: 'u' :: rest' =>
        match rest', fourHex? rest' with
        | _ :: _ :: _ :: _ :: _ :: _, none => .error ⟨.unicodeEscape, rest'.length + 1⟩
        | _, some (low, after') =>
          if 0xDC00 ≤ low ∧ low < 0xE000 then
            .ok (Char.ofNat (0x10000 + (high - 0xD800) * 0x400 + (low - 0xDC00)), after')
          else .ok ('\ufffd', after)
        | _, none => .ok ('\ufffd', after)
      | _ => .ok ('\ufffd', after)
    else if 0xDC00 ≤ high ∧ high < 0xE000 then .ok ('\ufffd', after)
    else .ok (Char.ofNat high, after)

/-- The rest of a string whose opening quote had `start` characters from it to the end. -/
def readString (start : Nat) : Nat → List Char → List Char → Except Stop (String × List Char)
  | 0, _, rest => .error ⟨.unterminatedString start, rest.length⟩
  | fuel + 1, seen, rest =>
    match rest with
    | [] => .error ⟨.unterminatedString start, start⟩
    | '"' :: rest => .ok (.ofList seen.reverse, rest)
    | '\\' :: [] => .error ⟨.unterminatedString start, start⟩
    | '\\' :: 'u' :: rest => do
      let (c, rest) ← unicodeEscape rest
      readString start fuel (c :: seen) rest
    | '\\' :: c :: rest' =>
      match simpleEscape? c with
      | some d => readString start fuel (d :: seen) rest'
      | none => stop .escape rest
    | c :: rest' =>
      if c.toNat < 0x20 then stop .controlCharacter rest
      else readString start fuel (c :: seen) rest'

def digitsValue (cs : List Char) : Nat :=
  cs.foldl (fun n c => n * 10 + (c.toNat - '0'.toNat)) 0

/-- The digits after a point, if there are any. -/
def fractionPart : List Char → List Char × List Char
  | '.' :: c :: rest =>
    if c.isDigit then ((c :: rest).takeWhile Char.isDigit, (c :: rest).dropWhile Char.isDigit)
    else ([], '.' :: c :: rest)
  | rest => ([], rest)

/-- The power of ten after an `e`, if there is one. -/
def exponentPart (cs : List Char) : Option (Int × List Char) :=
  match cs with
  | e :: rest =>
    if e = 'e' ∨ e = 'E' then
      let (negative, rest) := match rest with
        | '-' :: rest => (true, rest)
        | '+' :: rest => (false, rest)
        | rest => (false, rest)
      let digits := rest.takeWhile Char.isDigit
      if digits.isEmpty then none
      else
        let n : Int := digitsValue digits
        some (if negative then -n else n, rest.dropWhile Char.isDigit)
    else none
  | [] => none

/-- A number: without fraction and exponent it is an integer. -/
def readNumber (cs : List Char) : Except Stop (Json × List Char) :=
  let (negative, body) := match cs with
    | '-' :: rest => (true, rest)
    | rest => (false, rest)
  let whole := match body with
    | '0' :: _ => ['0']
    | _ => body.takeWhile Char.isDigit
  if whole.isEmpty then stop .value cs
  else
    let rest := body.drop whole.length
    let (fraction, rest) := fractionPart rest
    match fraction, exponentPart rest with
    | [], none =>
      let n : Int := digitsValue whole
      if longestInteger < whole.length then stop (.numberTooLong whole.length) cs
      else .ok (.int (if negative then -n else n), rest)
    | _, e =>
      let (power, rest) := e.getD (0, rest)
      .ok (.float (Double.ofDecimal negative (digitsValue (whole ++ fraction))
        (power - fraction.length)), rest)

/-- The value names, each with its value. -/
def namedValues : List (String × Json) :=
  [("null", .null), ("true", .bool true), ("false", .bool false), ("NaN", .float .nan),
   ("Infinity", .float (.infinity false)), ("-Infinity", .float (.infinity true))]

def readNamed? (cs : List Char) : Option (Json × List Char) :=
  namedValues.findSome? fun (name, v) =>
    if name.toList.isPrefixOf cs then some (v, cs.drop name.length) else none

mutual

/-- Reads a value in which `room` arrays and objects may stand in each other. -/
def readValue (room : Nat) : Nat → List Char → Except Stop (Json × List Char)
  | 0, cs => stop .value cs
  | fuel + 1, cs =>
    match cs with
    | [] => stop .value cs
    | '"' :: rest => do
      let (s, rest) ← readString cs.length (rest.length + 1) [] rest
      return (.str s, rest)
    | '[' :: rest =>
      if room = 0 then stop (.nestedTooDeep "array") cs
      else match skipSpace rest with
      | ']' :: rest => .ok (.array [], rest)
      | rest => readItems (room - 1) fuel [] rest
    | '\x7b' :: rest =>
      if room = 0 then stop (.nestedTooDeep "object") cs
      else match skipSpace rest with
      | '\x7d' :: rest => .ok (.object [], rest)
      | rest => readFields (room - 1) fuel [] rest
    | _ =>
      match readNamed? cs with
      | some r => .ok r
      | none => readNumber cs

def readItems (room : Nat) : Nat → List Json → List Char → Except Stop (Json × List Char)
  | 0, _, cs => stop .value cs
  | fuel + 1, seen, cs => do
    let (v, rest) ← readValue room fuel cs
    match skipSpace rest with
    | ']' :: rest => return (.array (v :: seen).reverse, rest)
    | ',' :: rest => readItems room fuel (v :: seen) (skipSpace rest)
    | rest => stop .comma rest

def readFields (room : Nat) :
    Nat → List (String × Json) → List Char → Except Stop (Json × List Char)
  | 0, _, cs => stop .value cs
  | fuel + 1, seen, cs =>
    match cs with
    | '"' :: rest => do
      let (k, rest) ← readString cs.length (rest.length + 1) [] rest
      match skipSpace rest with
      | ':' :: rest => do
        let (v, rest) ← readValue room fuel (skipSpace rest)
        let seen := OrderedMap.insert k v seen
        match skipSpace rest with
        | '\x7d' :: rest => return (.object seen, rest)
        | ',' :: rest => readFields room fuel seen (skipSpace rest)
        | rest => stop .comma rest
      | rest => stop .colon rest
    | _ => stop .name cs

end

def readDocument (cs : List Char) : Except Stop Json :=
  match cs with
  | '\ufeff' :: _ => stop .byteOrderMark cs
  | _ => do
    let (v, rest) ← readValue deepestNesting (2 * cs.length + 2) (skipSpace cs)
    match skipSpace rest with
    | [] => return v
    | rest => stop .extraData rest

def read (s : String) : Except Fault Json :=
  let cs := s.toList
  match readDocument cs with
  | .ok v => .ok v
  | .error e =>
    .error ⟨e.cause, cs.length - match e.cause with
      | .unterminatedString start => start
      | _ => e.left⟩

end GoScaffold.Json
