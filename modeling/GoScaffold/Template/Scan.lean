import GoScaffold.Template.Escape
import GoScaffold.Template.Fault
import GoScaffold.Text.Identifier
import GoScaffold.Text.Newline

/-!
# From the text of a template to its tokens

Text is cut at its tags. A minus at an edge of a tag takes the white space next to it; otherwise a
statement or comment takes the blanks before it on its line and the newline after it, and a plus
keeps them. Inside a tag the text is cut into words, literals and symbols, whose brackets have to
match; the end of the tag is looked for outside brackets only.
-/
namespace GoScaffold.Template

open GoScaffold.Text GoScaffold.Decimal

/-- Tokens up to the end of the template, or up to where it stops making sense. -/
structure Scan where
  lexemes : List Lexeme := []
  stop : Option CompileFault := none
  deriving Repr, DecidableEq

namespace Scan

def fault (f : CompileFault) : Scan := { stop := some f }

def malformed (cause : SyntaxCause) (line : Nat) : Scan := fault (.malformed ⟨cause, line⟩)

def after (token : Token) (line : Nat) (rest : Scan) : Scan :=
  { rest with lexemes := ⟨token, line⟩ :: rest.lexemes }

/-- Empty text is no token. -/
def afterText (text : List Char) (line : Nat) (rest : Scan) : Scan :=
  if text.isEmpty then rest else after (.text (.ofList text)) line rest

end Scan

inductive TagKind
  | statement
  | print
  | comment
  deriving Repr, DecidableEq

/-- The kind of tag that a character after an open brace starts. -/
def tagKind? (c : Char) : Option TagKind :=
  if c = '%' then some .statement
  else if c = '\x7b' then some .print
  else if c = '#' then some .comment
  else none

/-- The text before the first tag, the kind of the tag, and what follows its mark. -/
def cutAtTag? : List Char → Option (List Char × TagKind × List Char)
  | c :: d :: cs =>
    match if c = '\x7b' then tagKind? d else none with
    | some kind => some ([], kind, cs)
    | none => (cutAtTag? (d :: cs)).map fun r => (c :: r.1, r.2)
  | _ => none

def isSign (c : Char) : Bool := c == '-' || c == '+'

/-- The sign at the front, if there is one, and the rest. -/
def takeSign : List Char → Option Char × List Char
  | c :: cs => if isSign c then (some c, cs) else (none, c :: cs)
  | [] => (none, [])

/-- The text without the blanks after its last newline, if there is nothing else after it. -/
def withoutIndent (atLineStart : Bool) (text : List Char) : List Char :=
  let (before, last) := cutAtLastNewline text
  if (!before.isEmpty || atLineStart) && last.all isBlank then before else text

/-- What is left of the text before a tag. -/
def textBefore (sign : Option Char) (keepsIndent atLineStart : Bool) (text : List Char) :
    List Char :=
  if sign = some '-' then trimEndWhile isBlank text
  else if sign = some '+' ∨ keepsIndent then text
  else withoutIndent atLineStart text

/-- The rest after a given start. -/
def afterStart? (start : List Char) (cs : List Char) : Option (List Char) :=
  if start.isPrefixOf cs then some (cs.drop start.length) else none

def skipBlanks (cs : List Char) : List Char := cs.dropWhile isBlank

def skipNewline : List Char → List Char
  | '\n' :: cs => cs
  | cs => cs

def statementEnd : List Char := ['%', '\x7d']

def printEnd : List Char := ['\x7d', '\x7d']

def commentEnd : List Char := ['#', '\x7d']

/-- The rest after the end of a statement or comment. -/
def afterEnd? (mark : List Char) (cs : List Char) : Option (List Char) :=
  match afterStart? ('+' :: mark) cs, afterStart? ('-' :: mark) cs with
  | some rest, _ => some rest
  | none, some rest => some (skipBlanks rest)
  | none, none => (afterStart? mark cs).map skipNewline

/-- The rest after the end of a printed expression. -/
def afterPrintEnd? (cs : List Char) : Option (List Char) :=
  match afterStart? ('-' :: printEnd) cs with
  | some rest => some (skipBlanks rest)
  | none => afterStart? printEnd cs

/-- The rest after a comment. -/
def afterComment? : List Char → Option (List Char)
  | [] => none
  | c :: cs =>
    match afterEnd? commentEnd (c :: cs) with
    | some rest => some rest
    | none => afterComment? cs

/-- After the mark of a statement: the sign and the rest, if the statement opens raw text. -/
def rawOpening? (cs : List Char) : Option (Option Char × List Char) :=
  let (sign, cs) := takeSign cs
  match afterStart? ['r', 'a', 'w'] (skipBlanks cs) with
  | none => none
  | some rest =>
    let rest := skipBlanks rest
    match afterStart? ('-' :: statementEnd) rest with
    | some rest => some (sign, skipBlanks rest)
    | none => (afterStart? statementEnd rest).map (sign, ·)

/-- The sign and the rest after a statement that closes raw text, if one stands here. -/
def rawClosing? (cs : List Char) : Option (Option Char × List Char) :=
  match afterStart? ['\x7b', '%'] cs with
  | none => none
  | some rest =>
    let (sign, rest) := takeSign rest
    match afterStart? ['e', 'n', 'd', 'r', 'a', 'w'] (skipBlanks rest) with
    | none => none
    | some rest => (afterEnd? statementEnd (skipBlanks rest)).map (sign, ·)

/-- The raw text, the sign of the statement that closes it, and the rest. -/
def cutRaw? : List Char → Option (List Char × Option Char × List Char)
  | [] => none
  | c :: cs =>
    match rawClosing? (c :: cs) with
    | some (sign, rest) => some ([], sign, rest)
    | none => (cutRaw? cs).map fun r => (c :: r.1, r.2)

/-- Digits of a kind, each of which may have an underscore before it. -/
def groupedDigits (isDigit : Char → Bool) : List Char → List Char
  | [] => []
  | c :: cs =>
    if isDigit c then c :: groupedDigits isDigit cs
    else if c = '_' ∧ cs.head?.any isDigit then c :: groupedDigits isDigit cs
    else []

/-- Decimal digits of any script, with single underscores between them. -/
def decimalDigits (cs : List Char) : List Char :=
  if cs.head?.any isDecimalDigit then groupedDigits isDecimalDigit cs else []

/-- The digits that may follow a zero and a letter, with the base in which they count. -/
def baseOf? (c : Char) : Option (Nat × (Char → Bool)) :=
  match c.toLower with
  | 'b' => some (2, fun d => d == '0' || d == '1')
  | 'o' => some (8, isOctal)
  | 'x' => some (16, isHexDigit)
  | _ => none

/-- An integer in another base than ten, and its number of characters. -/
def basedAt? (cs : List Char) : Option (Nat × Nat) :=
  match cs with
  | '0' :: letter :: rest =>
    (baseOf? letter).bind fun (base, isDigit) =>
      let digits := groupedDigits isDigit rest
      if digits.isEmpty then none
      else
        let value (n : Nat) (d : Char) : Nat := match hexValue? d with
          | some v => base * n + v
          | none => n
        some (digits.foldl value 0, digits.length + 2)
  | _ => none

/-- The characters of an integer in base ten: a zero is followed by zeros only. -/
def wholeNumber (cs : List Char) : List Char :=
  match cs with
  | '0' :: _ => groupedDigits (· == '0') cs
  | c :: cs => if c.isDigit then c :: groupedDigits isDecimalDigit cs else []
  | [] => []

/-- The integer at the front and its number of characters. -/
def integerAt? (cs : List Char) : Option (Except RenderFault Nat × Nat) :=
  match basedAt? cs with
  | some (n, size) => some (.ok n, size)
  | none =>
    let whole := wholeNumber cs
    let digits := whole.countP (· != '_')
    if whole.isEmpty then none
    else if longestInteger < digits then some (.error (.longInteger digits), whole.length)
    else some (.ok (decimalValue whole), whole.length)

/-- The exponent at the front and its number of characters. -/
def exponentAt? (cs : List Char) : Option (Int × Nat) :=
  match cs with
  | e :: rest =>
    if e = 'e' ∨ e = 'E' then
      let (sign, digits) := takeSign rest
      let power := decimalDigits digits
      if power.isEmpty then none
      else
        let n : Int := decimalValue power
        some (if sign = some '-' then -n else n, 1 + sign.toList.length + power.length)
    else none
  | [] => none

/-- A number with a fraction or an exponent, and its number of characters. It has to be written in
the digits of ASCII. -/
def fractionAt? (cs : List Char) : Option (Except RenderFault Double × Nat) :=
  let whole := decimalDigits cs
  if whole.isEmpty then none
  else
    let places := match cs.drop whole.length with
      | '.' :: more => decimalDigits more
      | _ => []
    let size := whole.length + if places.isEmpty then 0 else places.length + 1
    let (exponent, extra) := (exponentAt? (cs.drop size)).getD (0, 0)
    if places.isEmpty ∧ extra = 0 then none
    else if (cs.take (size + extra)).any (0x80 ≤ ·.toNat) then
      some (.error .foreignDigit, size + extra)
    else
      let shift : Int := places.countP (· != '_')
      some (.ok (Double.ofDecimal false (decimalValue (whole ++ places)) (exponent - shift)),
        size + extra)

/-- The content of a string literal whose opening quote has been read, and the rest after it. -/
def literalBody? (quote : Char) : List Char → Option (List Char × List Char)
  | [] => none
  | '\\' :: c :: cs => (literalBody? quote cs).map fun r => ('\\' :: c :: r.1, r.2)
  | c :: cs =>
    if c = quote then some ([], cs)
    else if c = '\\' then none
    else (literalBody? quote cs).map fun r => (c :: r.1, r.2)

def longSymbols : List String := ["//", "**", "==", "!=", ">=", "<="]

def shortSymbols : List String :=
  ["+", "-", "/", "*", "%", "~", "[", "]", "(", ")", "\x7b", "\x7d", ">", "<", "=", ".", ":", "|",
    ",", ";"]

/-- The longest symbol at the front. -/
def symbolAt? (cs : List Char) : Option String :=
  (longSymbols ++ shortSymbols).find? fun s => s.toList.isPrefixOf cs

/-- The closer that an opening bracket waits for. -/
def closerOf? (s : String) : Option String :=
  if s = "(" then some ")"
  else if s = "[" then some "]"
  else if s = "\x7b" then some "\x7d"
  else none

def isCloser (s : String) : Bool := s == ")" || s == "]" || s == "\x7d"

/-- The closers still waited for after a symbol. -/
def closersAfter (closers : List String) (s : String) : Except SyntaxCause (List String) :=
  match closerOf? s with
  | some closer => .ok (closer :: closers)
  | none =>
    if !isCloser s then .ok closers
    else match closers with
      | [] => .error (.strayCloser s)
      | wanted :: outer => if wanted = s then .ok outer else .error (.wrongCloser s wanted)

/-- What stands at the front inside a tag on a line, with its number of characters; white space is
no token. After a point a number has no fraction. -/
def wordAt (afterPoint : Bool) (line position : Nat) (cs : List Char) :
    Except CompileFault (Option Token × Nat) :=
  let blanks := cs.takeWhile isBlank
  let name := cs.takeWhile isNameChar
  let refuse (cause : SyntaxCause) : Except CompileFault (Option Token × Nat) :=
    .error (.malformed ⟨cause, line⟩)
  match cs with
  | [] => .ok (none, 0)
  | c :: rest =>
    if !blanks.isEmpty then .ok (none, blanks.length)
    else match if afterPoint then none else fractionAt? cs, integerAt? cs with
      | some (.ok x, size), _ => .ok (some (.fraction x), size)
      | some (.error f, _), _ => .error (.failed f)
      | none, some (.ok n, size) => .ok (some (.integer n), size)
      | none, some (.error f, _) => .error (.failed f)
      | none, none =>
        if !name.isEmpty then
          if isIdentifier name then .ok (some (.name (.ofList name)), name.length)
          else refuse .badName
        else match if c = '\'' ∨ c = '"' then literalBody? c rest else none with
          | some (body, _) =>
            match unescape body with
            | .ok s => .ok (some (.string s), body.length + 2)
            | .error reason => refuse (.badEscape reason)
          | none =>
            match symbolAt? cs with
            | some s => .ok (some (.symbol s), s.length)
            | none => refuse (.strayCharacter c position)

/-- Where the scan stands: in text, or inside a tag with the closers waited for. -/
inductive Place
  | text (atLineStart : Bool)
  | tag (isPrint : Bool) (closers : List String) (afterPoint : Bool)
  deriving Repr, DecidableEq

def newlines (cs : List Char) : Nat := cs.count '\n'

/-- The characters that were read to get from one rest to a later one. -/
def consumed (cs rest : List Char) : List Char := cs.take (cs.length - rest.length)

/-- Text goes on after `rest`, the characters of `cs` before it having been read. -/
def textAfter (cs rest : List Char) : Place := .text ((consumed cs rest).getLast? == some '\n')

/-- Scans from a place on; the first argument bounds the number of steps. -/
def scanFrom : Nat → Place → (line position : Nat) → List Char → Scan
  | 0, _, _, _, _ => {}
  | _ + 1, _, _, _, [] => {}
  | n + 1, .text atLineStart, line, position, c :: cs =>
    let all := c :: cs
    match cutAtTag? all with
    | none => .afterText all line {}
    | some (text, kind, rest) =>
      let goOn (place : Place) (rest : List Char) : Scan :=
        let read := consumed all rest
        scanFrom n place (line + newlines read) (position + read.length) rest
      match if kind = .statement then rawOpening? rest else none with
      | some (sign, raw) =>
        .afterText (textBefore sign false atLineStart text) line <|
          match cutRaw? raw with
          | some (body, sign, after) =>
            let opened := consumed all raw
            .afterText (textBefore sign false (opened.getLast? == some '\n') body)
              (line + newlines opened) (goOn (textAfter all after) after)
          | none =>
            if raw.isEmpty then {} else .malformed .unclosedRaw (line + newlines (consumed all raw))
      | none =>
        let (sign, inside) := takeSign rest
        let tagLine := line + newlines text
        .afterText (textBefore sign (kind = .print) atLineStart text) line <|
          match kind with
          | .comment =>
            match afterComment? inside with
            | some after => goOn (textAfter all after) after
            | none => if inside.isEmpty then {} else .malformed .unclosedComment tagLine
          | .statement => .after .openStatement tagLine (goOn (.tag false [] false) inside)
          | .print => .after .openPrint tagLine (goOn (.tag true [] false) inside)
  | n + 1, .tag isPrint closers afterPoint, line, position, c :: cs =>
    let all := c :: cs
    let goOn (place : Place) (rest : List Char) : Scan :=
      let read := consumed all rest
      scanFrom n place (line + newlines read) (position + read.length) rest
    let ended := if !closers.isEmpty then none
      else if isPrint then afterPrintEnd? all else afterEnd? statementEnd all
    match ended with
    | some rest =>
      .after (if isPrint then .closePrint else .closeStatement) line
        (goOn (textAfter all rest) rest)
    | none =>
      match wordAt afterPoint line position all with
      | .error f => .fault f
      | .ok (none, size) => goOn (.tag isPrint closers false) (all.drop size)
      | .ok (some token, size) =>
        match token with
        | .symbol s =>
          match closersAfter closers s with
          | .error cause => .malformed cause line
          | .ok closers => .after token line (goOn (.tag isPrint closers (s = ".")) (all.drop size))
        | _ => .after token line (goOn (.tag isPrint closers false) (all.drop size))

/-- The tokens of a template. -/
def scan (template : String) : Scan :=
  let cs := normalizeNewlines template.toList
  scanFrom (cs.length + 1) (.text true) 1 0 cs

end GoScaffold.Template
