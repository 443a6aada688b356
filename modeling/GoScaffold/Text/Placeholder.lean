import GoScaffold.Text.Digit

/-!
# Texts with places

A text with places in braces, each for a value: `{name}`, `{name!r}`, `{name:>8}`. A name starts
with a word or a number and goes on with attributes and indices; a brace written twice stands for
itself. What stands behind the colon may hold places of its own. The parts in front of a mistake
count: a value that is missing there is noticed first.
-/
namespace GoScaffold.Text

/-- What is wrong with a text with places. -/
inductive PlaceFault
  | loneOpen
  | loneClose
  | openInName
  | unclosed
  | noConversion
  | afterConversion
  | unclosedForm
  | unclosedIndex
  | emptyName
  | afterIndex
  | tooManyDigits
  | unknownConversion (c : Char)
  | tooDeep
  | fromNumbered
  | toNumbered
  deriving Repr, DecidableEq

/-- A character in a message: itself if it can be shown, else its number in hexadecimal digits. -/
def shownOrNumber (limit : Nat) (c : Char) : String :=
  if 32 < c.toNat && c.toNat < limit then .singleton c
  else "\\x" ++ .ofList (Nat.toDigits 16 c.toNat)

def PlaceFault.message : PlaceFault → String
  | .loneOpen => "Single '\x7b' encountered in format string"
  | .loneClose => "Single '\x7d' encountered in format string"
  | .openInName => "unexpected '\x7b' in field name"
  | .unclosed => "expected '\x7d' before end of string"
  | .noConversion => "end of string while looking for conversion specifier"
  | .afterConversion => "expected ':' after conversion specifier"
  | .unclosedForm => "unmatched '\x7b' in format spec"
  | .unclosedIndex => "Missing ']' in format string"
  | .emptyName => "Empty attribute in format string"
  | .afterIndex => "Only '.' or '[' may follow ']' in format field specifier"
  | .tooManyDigits => "Too many decimal digits in format string"
  | .unknownConversion c => "Unknown conversion specifier " ++ shownOrNumber 127 c
  | .tooDeep => "Max string recursion exceeded"
  | .fromNumbered =>
    "cannot switch from manual field specification to automatic field numbering"
  | .toNumbered =>
    "cannot switch from automatic field numbering to manual field specification"

def openBrace : Char := '\x7b'

def closeBrace : Char := '\x7d'

def isBrace (c : Char) : Bool := c == openBrace || c == closeBrace

/-- A place; `form` says how the value is written. -/
structure Place where
  name : List Char
  conversion : Option Char := none
  form : List Char := []
  deriving Repr, DecidableEq

inductive Part
  | text (cs : List Char)
  | place (p : Place)
  deriving Repr, DecidableEq

/-- The parts of a text up to a mistake, if there is one. -/
structure Parts where
  list : List Part := []
  fault : Option PlaceFault := none
  deriving Repr, DecidableEq

namespace Place

/-- The name of a place, the character that ends it, and what follows. In square brackets anything
may stand. -/
def readName (bracketed : Bool) : List Char → Except PlaceFault (List Char × Char × List Char)
  | [] => .error .unclosed
  | c :: cs =>
    let go (bracketed : Bool) := (readName bracketed cs).map fun r => (c :: r.1, r.2)
    if bracketed then go (c != ']')
    else if c = openBrace then .error .openInName
    else if c = '[' then go true
    else if c = closeBrace || c = ':' || c = '!' then .ok ([], c, cs)
    else go false

/-- The form up to the brace that closes the place; `depth` braces are open in it. -/
def readForm (depth : Nat) : List Char → Except PlaceFault (List Char × List Char)
  | [] => .error .unclosedForm
  | c :: cs =>
    let go (depth : Nat) := (readForm depth cs).map fun r => (c :: r.1, r.2)
    if c = openBrace then go (depth + 1)
    else if c = closeBrace then
      match depth with
      | 0 => .ok ([], cs)
      | depth + 1 => go depth
    else go depth

/-- A conversion and what follows it. -/
def readConversion : List Char → Except PlaceFault (Char × List Char × List Char)
  | [] => .error .noConversion
  | c :: [] => (readForm 0 []).map (c, ·)
  | c :: d :: cs =>
    if d = closeBrace then .ok (c, [], cs)
    else if d = ':' then (readForm 0 cs).map (c, ·)
    else .error .afterConversion

/-- Reads a place behind its open brace. -/
def read (cs : List Char) : Except PlaceFault (Place × List Char) :=
  match readName false cs with
  | .error f => .error f
  | .ok (name, ':', cs) => (readForm 0 cs).map fun r => ({ name, form := r.1 }, r.2)
  | .ok (name, '!', cs) =>
    (readConversion cs).map fun r => ({ name, conversion := some r.1, form := r.2.1 }, r.2.2)
  | .ok (name, _, cs) => .ok ({ name }, cs)

end Place

namespace Parts

def cons (p : Part) (ps : Parts) : Parts := { ps with list := p :: ps.list }

def mistake (f : PlaceFault) : Parts := { fault := some f }

/-- The parts of a text of at most `size` characters. -/
def readUpTo : Nat → List Char → Parts
  | 0, _ => {}
  | size + 1, cs =>
    let start := cs.takeWhile (!isBrace ·)
    match cs.dropWhile (!isBrace ·) with
    | [] => cons (.text start) {}
    | c :: [] => mistake (if c = openBrace then .loneOpen else .loneClose)
    | c :: d :: rest =>
      if c = d then cons (.text (start ++ [c])) (readUpTo size rest)
      else if c = closeBrace then mistake .loneClose
      else match Place.read (d :: rest) with
        | .error f => cons (.text start) (mistake f)
        | .ok (p, rest) => cons (.text start) (cons (.place p) (readUpTo size rest))

def ofChars (cs : List Char) : Parts := readUpTo (cs.length + 1) cs

end Parts

/-- One step from a value to a part of it. -/
inductive NameStep
  | attribute (name : String)
  | index (n : Nat)
  | key (name : String)
  deriving Repr, DecidableEq

/-- The largest number that counts as one. -/
def largestIndex : Nat := 9223372036854775807

/-- A number in decimal digits of any script, if the characters are such digits up to where the
number grows too large. -/
def readIndex? (cs : List Char) : Except PlaceFault (Option Nat) :=
  match cs with
  | [] => .ok none
  | cs => go 0 cs
where
  go (n : Nat) : List Char → Except PlaceFault (Option Nat)
    | [] => .ok (some n)
    | c :: cs =>
      match digitValue? c with
      | none => .ok none
      | some d => if largestIndex < 10 * n + d then .error .tooManyDigits else go (10 * n + d) cs

def isStepMark (c : Char) : Bool := c == '.' || c == '['

/-- The steps behind the first part of a name of at most `size` characters, up to a mistake. -/
def stepsUpTo : Nat → List Char → List NameStep × Option PlaceFault
  | 0, _ => ([], none)
  | _, [] => ([], none)
  | size + 1, c :: cs =>
    let more (s : NameStep) (rest : List Char) :=
      let r := stepsUpTo size rest
      (s :: r.1, r.2)
    if c = '.' then
      match cs.takeWhile (!isStepMark ·) with
      | [] => ([], some .emptyName)
      | name => more (.attribute (.ofList name)) (cs.dropWhile (!isStepMark ·))
    else if c = '[' then
      let name := cs.takeWhile (· != ']')
      match cs.dropWhile (· != ']'), readIndex? name with
      | [], _ => ([], some .unclosedIndex)
      | _, .error f => ([], some f)
      | _ :: rest, .ok (some n) => more (.index n) rest
      | _ :: rest, .ok none =>
        if name.isEmpty then ([], some .emptyName) else more (.key (.ofList name)) rest
    else ([], some .afterIndex)

/-- The first part of a name, and the steps behind it. -/
def Place.path (p : Place) : List Char × List NameStep × Option PlaceFault :=
  let first := p.name.takeWhile (!isStepMark ·)
  (first, stepsUpTo (p.name.length + 1) (p.name.drop first.length))

/-- What the values are that fill places, and how they are written; `ε` is what may go wrong. -/
structure Filling (α ε : Type) where
  named : String → Except ε α
  numbered : Nat → Except ε α
  step : α → NameStep → Except ε α
  convert : Char → Option (α → Except ε α)
  write : α → List Char → Except ε (List Char)
  fault : PlaceFault → ε

/-- How far places without a name have been counted; `counting` once there was a place that decides
between numbers that are written and numbers that are counted. -/
structure Numbering where
  counting : Option Bool := none
  next : Nat := 0
  deriving Repr, DecidableEq

namespace Filling

variable {α ε : Type}

def raise {β : Type} (f : Filling α ε) : Except PlaceFault β → Except ε β
  | .ok b => .ok b
  | .error e => .error (f.fault e)

/-- The value that the first part of a name stands for. -/
def first (f : Filling α ε) (k : Numbering) (name : List Char) : Except ε (α × Numbering) := do
  match name, ← f.raise (readIndex? name) with
  | [], _ =>
    if k.counting = some false then throw (f.fault .fromNumbered)
    return (← f.numbered k.next, { counting := some true, next := k.next + 1 })
  | _, some n =>
    if k.counting = some true then throw (f.fault .toNumbered)
    return (← f.numbered n, { k with counting := some false })
  | _, none => return (← f.named (.ofList name), k)

/-- The value at a place before it is written. -/
def value (f : Filling α ε) (k : Numbering) (p : Place) : Except ε (α × Numbering) := do
  let (name, steps, mistake) := p.path
  let (v, k) ← f.first k name
  let v ← steps.foldlM f.step v
  match mistake with
  | some m => throw (f.fault m)
  | none => pure ()
  match p.conversion with
  | none => return (v, k)
  | some c =>
    match f.convert c with
    | some convert => return (← convert v, k)
    | none => throw (f.fault (.unknownConversion c))

/-- Writes parts one after another; `form` writes out what stands behind a colon. -/
def fillParts (f : Filling α ε)
    (form : Numbering → List Char → Except ε (List Char × Numbering))
    (mistake : Option PlaceFault) (k : Numbering) :
    List Part → Except ε (List Char × Numbering)
  | [] => match mistake with
    | none => .ok ([], k)
    | some m => .error (f.fault m)
  | .text cs :: rest => (fillParts f form mistake k rest).map fun r => (cs ++ r.1, r.2)
  | .place p :: rest => do
    let (v, k) ← f.value k p
    let (written, k) ← form k p.form
    let cs ← f.write v written
    let (more, k) ← fillParts f form mistake k rest
    return (cs ++ more, k)

/-- Writes a text with places that may hold places down to `depth`. -/
def fillTo (f : Filling α ε) :
    (depth : Nat) → Numbering → List Char → Except ε (List Char × Numbering)
  | 0, _, _ => .error (f.fault .tooDeep)
  | depth + 1, k, cs =>
    let form (k : Numbering) (form : List Char) : Except ε (List Char × Numbering) :=
      if form.contains openBrace then fillTo f depth k form else .ok (form, k)
    let parts := Parts.ofChars cs
    f.fillParts form parts.fault k parts.list

/-- Writes a text with places, and places in what stands behind their colons. -/
def fill (f : Filling α ε) (cs : List Char) : Except ε (List Char) :=
  (f.fillTo 2 {} cs).map (·.1)

end Filling

end GoScaffold.Text
