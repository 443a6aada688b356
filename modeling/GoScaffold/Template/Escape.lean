import GoScaffold.Text.CharacterName
import GoScaffold.Text.Quoted

/-!
# Escapes in string literals

What a string literal of a template stands for. A backslash before a character that starts no
escape stands for itself.
-/
namespace GoScaffold.Template

open GoScaffold.Text

def plainEscape? (c : Char) : Option (List Char) :=
  match c with
  | '\n' => some []
  | '\\' => some ['\\']
  | '\'' => some ['\'']
  | '"' => some ['"']
  | 'a' => some ['\x07']
  | 'b' => some ['\x08']
  | 'f' => some ['\x0c']
  | 'n' => some ['\n']
  | 'r' => some ['\r']
  | 't' => some ['\t']
  | 'v' => some ['\x0b']
  | _ => none

/-- The kinds of hexadecimal escape: their letter, their number of digits, and their model. -/
def hexEscape? (c : Char) : Option (Nat × String) :=
  match c with
  | 'x' => some (2, "truncated \\xXX escape")
  | 'u' => some (4, "truncated \\uXXXX escape")
  | 'U' => some (8, "truncated \\UXXXXXXXX escape")
  | _ => none

def isOctal (c : Char) : Bool := '0' ≤ c && c ≤ '7'

def octalValue (cs : List Char) : Nat := cs.foldl (fun n c => 8 * n + (c.toNat - '0'.toNat)) 0

/-- The name in braces that follows, and the rest behind it. -/
def nameEscape? : List Char → Option (String × List Char)
  | '\x7b' :: cs =>
    let name := cs.takeWhile (· ≠ '\x7d')
    match cs.drop name.length with
    | _ :: rest => if name.isEmpty then none else some (.ofList name, rest)
    | [] => none
  | _ => none

/-- Resolves the escapes; the first argument bounds the number of steps. -/
def unescapeFrom : Nat → List Char → Except String (List Char)
  | 0, _ => .ok []
  | _ + 1, [] => .ok []
  | n + 1, '\\' :: c :: cs =>
    match plainEscape? c, hexEscape? c with
    | some e, _ => (unescapeFrom n cs).map (e ++ ·)
    | none, some (width, truncated) =>
      let digits := (cs.take width).takeWhile isHexDigit
      if digits.length < width then .error truncated
      else if 0x10FFFF < hexNumber digits then .error "illegal Unicode character"
      else (unescapeFrom n (cs.drop width)).map (Char.ofNat (hexNumber digits) :: ·)
    | none, none =>
      if isOctal c then
        let digits := ((c :: cs).take 3).takeWhile isOctal
        (unescapeFrom n ((c :: cs).drop digits.length)).map (Char.ofNat (octalValue digits) :: ·)
      else if c = 'N' then do
        let (name, rest) ← nameEscape? cs |>.elim (.error "malformed \\N character escape") .ok
        match characterNamed? name with
        | some code => (unescapeFrom n rest).map (Char.ofNat code :: ·)
        | none => .error "unknown Unicode character name"
      else (unescapeFrom n (c :: cs)).map ('\\' :: ·)
  | n + 1, c :: cs => (unescapeFrom n cs).map (c :: ·)

/-- The text of a string literal between its quotes. -/
def unescape (cs : List Char) : Except String String :=
  let ascii := inAscii cs
  (unescapeFrom ascii.length ascii).map .ofList

end GoScaffold.Template
