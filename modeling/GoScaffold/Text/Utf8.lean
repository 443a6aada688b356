/-!
# Reading bytes as text

Bytes are read as UTF-8 without tolerance. Where they are not, the fault names the first bytes
that cannot start or continue a character.
-/
namespace GoScaffold.Text

inductive Utf8Cause
  | invalidStart
  | invalidContinuation
  | unexpectedEnd
  deriving Repr, DecidableEq

/-- The bytes from `start` up to `stop` are at fault, `byte` being the first of them. -/
structure Utf8Fault where
  cause : Utf8Cause
  byte : UInt8
  start : Nat
  stop : Nat
  deriving Repr, DecidableEq

def Utf8Cause.text : Utf8Cause → String
  | .invalidStart => "invalid start byte"
  | .invalidContinuation => "invalid continuation byte"
  | .unexpectedEnd => "unexpected end of data"

private def twoHex (b : UInt8) : String :=
  .ofList [Nat.digitChar (b.toNat / 16), Nat.digitChar (b.toNat % 16)]

def Utf8Fault.message (f : Utf8Fault) : String :=
  if f.stop = f.start + 1 then
    s!"'utf-8' codec can't decode byte 0x{twoHex f.byte} in position {f.start}: {f.cause.text}"
  else
    s!"'utf-8' codec can't decode bytes in position {f.start}-{f.stop - 1}: {f.cause.text}"

def isContinuation (b : UInt8) : Bool := 0x80 ≤ b && b < 0xC0

/-- The least and the greatest byte that may follow a first byte. -/
def secondRange (first : UInt8) : UInt8 × UInt8 :=
  if first = 0xE0 then (0xA0, 0xBF)
  else if first = 0xED then (0x80, 0x9F)
  else if first = 0xF0 then (0x90, 0xBF)
  else if first = 0xF4 then (0x80, 0x8F)
  else (0x80, 0xBF)

/-- How many bytes follow a first byte, if it is one. -/
def followers? (first : UInt8) : Option Nat :=
  if first < 0x80 then some 0
  else if first < 0xC2 then none
  else if first < 0xE0 then some 1
  else if first < 0xF0 then some 2
  else if first < 0xF5 then some 3
  else none

/-- How many of the next bytes, at most `n`, continue the character that `first` starts. -/
def continued (first : UInt8) (n : Nat) (rest : List UInt8) : Nat :=
  match n, rest with
  | 0, _ => 0
  | _ + 1, [] => 0
  | n + 1, b :: rest =>
    let (low, high) := secondRange first
    if low ≤ b && b ≤ high then 1 + ((rest.take n).takeWhile isContinuation).length else 0

/-- The first fault from position `pos` on; `skip` bytes still belong to a good character. -/
def firstFault (pos skip : Nat) : List UInt8 → Option Utf8Fault
  | [] => none
  | b :: rest =>
    match skip with
    | skip + 1 => firstFault (pos + 1) skip rest
    | 0 =>
      match followers? b with
      | none => some ⟨.invalidStart, b, pos, pos + 1⟩
      | some n =>
        let k := continued b n rest
        if k = n then firstFault (pos + 1) n rest
        else if rest.length = k then some ⟨.unexpectedEnd, b, pos, pos + 1 + k⟩
        else some ⟨.invalidContinuation, b, pos, pos + 1 + k⟩

/-- The text that the bytes encode, or the first fault in them. -/
def decodeUtf8 (bytes : ByteArray) : Except Utf8Fault String :=
  match String.fromUTF8? bytes with
  | some s => .ok s
  | none =>
    .error ((firstFault 0 0 bytes.toList).getD ⟨.unexpectedEnd, 0, bytes.size, bytes.size⟩)

end GoScaffold.Text
