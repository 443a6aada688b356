import GoScaffold.Text.Digit
import GoScaffold.Text.Quoted
import GoScaffold.Text.Split

/-!
# Grammars of command lines

A grammar lists the options of a program and at most one argument of its own. A command line is read
in two steps: each word is classified without regard to its neighbours, then the words are taken
from left to right, an option with the value that belongs to it. Words that nothing takes are left
over. Reading has an effect on a record of type `σ`.
-/
namespace GoScaffold.CommandLine

open GoScaffold.Text

variable {σ : Type}

/-- The value of an option: a text, or nothing where a separator stands in its place. -/
inductive OptionValue
  | nothing
  | text (s : String)
  deriving Repr, DecidableEq

def OptionValue.ofWord (s : String) : OptionValue := if s = "--" then .nothing else .text s

/-- What an option does. With `choices`, a value is one of them. -/
inductive Effect (σ : Type) where
  | set (f : σ → σ)
  | assign (f : OptionValue → σ → σ) (choices : List String)
  | help
  | version

/-- An option with its spellings. -/
structure Opt (σ : Type) where
  spellings : List String
  effect : Effect σ

/-- The argument that is no option: a single word, or a word with everything that follows. -/
inductive Argument (σ : Type) where
  | word (name : String) (choices : List String) (f : String → σ → σ)
  | rest (name : String) (choices : List String) (f : List String → σ → σ)

structure Grammar (σ : Type) where
  program : String
  options : List (Opt σ)
  argument : Option (Argument σ) := none

/-- What is wrong with a command line. -/
inductive Misuse
  | ambiguous (word : String) (spellings : List String)
  | noValue (argument : String)
  | unwanted (argument value : String)
  | notChoice (argument value : String) (choices : List String)
  | missing (argument : String)
  | leftOver (words : List String)
  deriving Repr, DecidableEq

def Misuse.message : Misuse → String
  | .ambiguous word spellings =>
    s!"ambiguous option: {word} could match " ++ join ", " spellings
  | .noValue argument => s!"argument {argument}: expected one argument"
  | .unwanted argument value =>
    s!"argument {argument}: ignored explicit argument " ++ quoted value
  | .notChoice argument value choices =>
    s!"argument {argument}: invalid choice: {quoted value} (choose from " ++
      join ", " (choices.map quoted) ++ ")"
  | .missing argument => s!"the following arguments are required: {argument}"
  | .leftOver words => "unrecognized arguments: " ++ join " " words

/-- Why reading ends early. -/
inductive Stop
  | help
  | version
  | misuse (program : String) (m : Misuse)
  deriving Repr, DecidableEq

namespace Opt

/-- How a message speaks of the option. -/
def label (o : Opt σ) : String := join "/" o.spellings

def takesValue (o : Opt σ) : Bool :=
  match o.effect with
  | .assign .. => true
  | _ => false

end Opt

/-- A word of a command line by itself; `attached` is the value that is part of an option's word. -/
inductive Word (σ : Type) where
  | separator
  | plain (text : String)
  | unknown (text : String)
  | option (text : String) (o : Opt σ) (spelling : String) (attached : Option (List Char))

def Word.text : Word σ → String
  | .separator => "--"
  | .plain text => text
  | .unknown text => text
  | .option text .. => text

/-- The option that a word was read as. -/
def Word.spelling : Word σ → String
  | .option _ _ spelling _ => spelling
  | w => w.text

/-- The word is a negative number and not an option. -/
def isNegativeNumber (cs : List Char) : Bool :=
  match cs with
  | '-' :: rest =>
    let rest := if rest.getLast? = some '\n' then rest.dropLast else rest
    let whole := rest.takeWhile isDecimalDigit
    match rest.dropWhile isDecimalDigit with
    | [] => !whole.isEmpty
    | '.' :: part => !part.isEmpty && part.all isDecimalDigit
    | _ => false
  | _ => false

namespace Grammar

/-- Each spelling with its option. -/
def spellings (g : Grammar σ) : List (String × Opt σ) :=
  g.options.flatMap fun o => o.spellings.map fun s => (s, o)

def spelled? (g : Grammar σ) (spelling : String) : Option (Opt σ) := g.spellings.lookup spelling

/-- The readings of a word as a shortened long option, or as a short option with its value. -/
def shortened (g : Grammar σ) (text : String) : List (Word σ) :=
  if startsWith text "--" then
    let (start, attached) := match cutAt? '=' text.toList with
      | some (start, value) => (String.ofList start, some value)
      | none => (text, none)
    (g.spellings.filter fun s => startsWith s.1 start).map fun s => .option text s.2 s.1 attached
  else
    let (start, value) := text.toList.splitAt 2
    (g.spellings.filter fun s => s.1 == .ofList start).map fun s =>
      .option text s.2 s.1 (some value)

/-- What a word is that no spelling explains. -/
def unspelled (text : String) : Word σ :=
  if isNegativeNumber text.toList || text.contains ' ' then .plain text else .unknown text

/-- The option that stands before the first equals sign, with its value. -/
def marked? (g : Grammar σ) (text : String) : Option (Word σ) := do
  let (start, value) ← cutAt? '=' text.toList
  let o ← g.spelled? (.ofList start)
  return .option text o (.ofList start) (some value)

def classify (g : Grammar σ) (text : String) : Except Misuse (Word σ) :=
  if !startsWith text "-" then .ok (.plain text)
  else match g.spelled? text with
    | some o => .ok (.option text o text none)
    | none =>
      if text = "-" then .ok (.plain text)
      else match g.marked? text with
        | some w => .ok w
        | none =>
          match g.shortened text with
          | [] => .ok (unspelled text)
          | [w] => .ok w
          | ws => .error (.ambiguous text (ws.map Word.spelling))

/-- Classifies the words; after a separator all are plain. -/
def classifyAll (g : Grammar σ) : List String → Except Misuse (List (Word σ))
  | [] => .ok []
  | text :: rest =>
    if text = "--" then .ok (.separator :: rest.map .plain)
    else do
      let w ← g.classify text
      return w :: (← g.classifyAll rest)

end Grammar

/-- What one word of options asks for: options in their order, each with a value that is attached.
`awaits` is an option whose value is the next word. -/
structure Demand (σ : Type) where
  given : List (Opt σ × OptionValue) := []
  awaits : Option (Opt σ) := none

/-- What an option asks for that ends its word. -/
def alone (o : Opt σ) : Demand σ :=
  if o.takesValue then { awaits := some o } else { given := [(o, .nothing)] }

namespace Grammar

/-- Takes a word of options apart: short options without values may stand together, and the last of
them may have the rest of the word as its value. -/
def demand (g : Grammar σ) (o : Opt σ) (short : Bool) (value : List Char) :
    Except Misuse (Demand σ) :=
  if o.takesValue then .ok { given := [(o, .ofWord (.ofList value))] }
  else
    let refused : Except Misuse (Demand σ) := .error (.unwanted o.label (.ofList value))
    match value with
    | [] => refused
    | c :: rest =>
      if !short then refused
      else match g.spelled? (.ofList ['-', c]) with
        | none => refused
        | some next =>
          let more : Except Misuse (Demand σ) := match rest with
            | [] => .ok (alone next)
            | rest => g.demand next true rest
          more.map fun d => { d with given := (o, .nothing) :: d.given }
termination_by value.length

/-- What an option asks for, with its attached value if there is one. -/
def demandOf (g : Grammar σ) (o : Opt σ) (spelling : String) (attached : Option (List Char)) :
    Except Misuse (Demand σ) :=
  match attached with
  | some value => g.demand o (!startsWith spelling "--") value
  | none => .ok (alone o)

end Grammar

/-- A value that has to be one of some choices, if there are any. -/
def chosen (name : String) (choices : List String) (value : String) : Except Misuse Unit :=
  if choices.isEmpty || choices.contains value then .ok ()
  else .error (.notChoice name value choices)

/-- Where reading stands. -/
structure Reading (σ : Type) where
  record : σ
  /-- The argument that has not been read yet. -/
  argument : Option (Argument σ)
  leftOver : List String := []

namespace Grammar

def misuse {α : Type} (g : Grammar σ) : Except Misuse α → Except Stop α
  | .ok a => .ok a
  | .error m => .error (.misuse g.program m)

/-- Does what an option says. -/
def apply (g : Grammar σ) (record : σ) (given : Opt σ × OptionValue) : Except Stop σ :=
  match given.1.effect, given.2 with
  | .help, _ => .error .help
  | .version, _ => .error .version
  | .set f, _ => .ok (f record)
  | .assign f _, .nothing => .ok (f .nothing record)
  | .assign f choices, .text s =>
    (g.misuse (chosen given.1.label choices s)).map fun _ => f (.text s) record

def applyAll (g : Grammar σ) (r : Reading σ) (given : List (Opt σ × OptionValue)) :
    Except Stop (Reading σ) :=
  (given.foldlM g.apply r.record).map fun record => { r with record }

/-- Reads the single word that is the argument. -/
def applyWord (g : Grammar σ) (r : Reading σ) (name : String) (choices : List String)
    (f : String → σ → σ) (value : String) : Except Stop (Reading σ) :=
  (g.misuse (chosen name choices value)).map fun _ =>
    { r with record := f value r.record, argument := none }

/-- Reads the words from the argument on, the first being one of the choices. -/
def applyRest (g : Grammar σ) (r : Reading σ) (name : String) (choices : List String)
    (f : List String → σ → σ) (values : List String) : Except Stop (Reading σ) :=
  (g.misuse (chosen name choices (values.headD ""))).map fun _ =>
    { r with record := f values r.record, argument := none }

/-- Takes the words from left to right. -/
def take (g : Grammar σ) (r : Reading σ) : List (Word σ) → Except Stop (Reading σ)
  | [] => .ok r
  | .plain value :: rest =>
    match r.argument, rest with
    | none, rest => take g { r with leftOver := r.leftOver ++ [value] } rest
    | some (.rest name choices f), rest =>
      g.applyRest r name choices f (value :: rest.map Word.text)
    | some (.word name choices f), .separator :: rest =>
      match g.applyWord r name choices f value with
      | .ok r => take g r rest
      | .error s => .error s
    | some (.word name choices f), rest =>
      match g.applyWord r name choices f value with
      | .ok r => take g r rest
      | .error s => .error s
  | .separator :: rest =>
    match r.argument, rest with
    | some (.word name choices f), value :: rest =>
      match g.applyWord r name choices f value.text with
      | .ok r => take g r rest
      | .error s => .error s
    | some (.rest name choices f), value :: rest =>
      g.applyRest r name choices f ("--" :: value.text :: rest.map Word.text)
    | _, rest => take g { r with leftOver := r.leftOver ++ ["--"] } rest
  | .unknown text :: rest => take g { r with leftOver := r.leftOver ++ [text] } rest
  | .option _ o spelling attached :: rest =>
    match g.demandOf o spelling attached with
    | .error m => .error (.misuse g.program m)
    | .ok d =>
      match d.awaits, rest with
      | none, rest =>
        match g.applyAll r d.given with
        | .ok r => take g r rest
        | .error s => .error s
      | some o, .plain value :: rest =>
        match g.applyAll r (d.given ++ [(o, .text value)]) with
        | .ok r => take g r rest
        | .error s => .error s
      | some o, _ => .error (.misuse g.program (.noValue o.label))

/-- Reads a command line: the record, and the words that nothing takes. A single word that the
grammar asks for has to be there. -/
def read (g : Grammar σ) (start : σ) (words : List String) : Except Stop (σ × List String) := do
  let words ← g.misuse (g.classifyAll words)
  let r ← g.take { record := start, argument := g.argument } words
  match r.argument with
  | some (.word name _ _) => throw (.misuse g.program (.missing name))
  | _ => return (r.record, r.leftOver)

end Grammar

end GoScaffold.CommandLine
