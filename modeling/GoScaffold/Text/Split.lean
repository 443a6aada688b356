import GoScaffold.Text.Blank

/-!
# Cutting and joining

Cutting a text at a character or into lines, joining pieces with a separator, and finding one
text inside another. Cutting loses nothing: the lines of a text, put together again, are the text.
-/
namespace GoScaffold.Text

/-- The pieces between the occurrences of `d`; there is always at least one. -/
def piecesAt (d : Char) : List Char → List (List Char)
  | [] => [[]]
  | c :: cs =>
    if c = d then [] :: piecesAt d cs
    else match piecesAt d cs with
      | [] => [[c]]
      | w :: ws => (c :: w) :: ws

def splitAt (d : Char) (s : String) : List String := (piecesAt d s.toList).map .ofList

/-- The text before the first `d` and the text after it. -/
def cutAt? (d : Char) : List Char → Option (List Char × List Char)
  | [] => none
  | c :: cs => if c = d then some ([], cs) else (cutAt? d cs).map fun p => (c :: p.1, p.2)

/-- The lines of a text, each with its newline; the last one may lack it. -/
def lines : List Char → List (List Char)
  | [] => []
  | c :: cs =>
    if c = '\n' then [c] :: lines cs
    else match lines cs with
      | [] => [[c]]
      | l :: ls => (c :: l) :: ls

theorem flatten_lines (cs : List Char) : (lines cs).flatten = cs := by
  induction cs with
  | nil => rfl
  | cons c cs ih =>
    by_cases h : c = '\n'
    · simp [lines, h, ih]
    · cases hl : lines cs with
      | nil => simp_all [lines]
      | cons l ls => simp_all [lines]

/-- The part up to the last newline, and the part after it. -/
def cutAtLastNewline (cs : List Char) : List Char × List Char :=
  let last := (cs.reverse.takeWhile (· != '\n')).reverse
  (cs.take (cs.length - last.length), last)

/-- The pieces with `sep` between neighbours. -/
def join (sep : String) : List String → String
  | [] => ""
  | [s] => s
  | s :: t :: rest => s ++ sep ++ join sep (t :: rest)

def concat : List String → String
  | [] => ""
  | s :: rest => s ++ concat rest

@[simp] theorem concat_append (xs ys : List String) :
    concat (xs ++ ys) = concat xs ++ concat ys := by
  induction xs with
  | nil => simp [concat]
  | cons x xs ih => simp [concat, ih, String.append_assoc]

def occursIn (needle : List Char) : List Char → Bool
  | [] => needle.isEmpty
  | c :: cs => needle.isPrefixOf (c :: cs) || occursIn needle cs

theorem occursIn_iff (needle text : List Char) :
    occursIn needle text = true ↔ needle <:+: text := by
  induction text with
  | nil => simp [occursIn]
  | cons c cs ih =>
    simp only [occursIn, Bool.or_eq_true, List.isPrefixOf_iff_prefix, ih]
    exact (List.infix_cons_iff).symm

def contains (text needle : String) : Bool := occursIn needle.toList text.toList

def startsWith (text start : String) : Bool := start.toList.isPrefixOf text.toList

def endsWith (text tail : String) : Bool := tail.toList.isSuffixOf text.toList

/-- Replaces the occurrences of a non-empty `old` from left to right, the first `skip` characters
being the rest of an occurrence already replaced. -/
def replaceFrom (old new : List Char) (skip : Nat) : List Char → List Char
  | [] => []
  | c :: cs =>
    match skip with
    | skip + 1 => replaceFrom old new skip cs
    | 0 =>
      if old.isPrefixOf (c :: cs) then new ++ replaceFrom old new (old.length - 1) cs
      else c :: replaceFrom old new 0 cs

/-- Replaces every occurrence of `old`; an empty `old` occurs around every character. -/
def replace (old new text : String) : String :=
  if old.isEmpty then new ++ concat (text.toList.map fun c => String.singleton c ++ new)
  else .ofList (replaceFrom old.toList new.toList 0 text.toList)

/-- Replaces the first `count` occurrences of a non-empty `old`, the first `skip` characters being
the rest of an occurrence already replaced. -/
def replaceUpTo (old new : List Char) (count skip : Nat) : List Char → List Char
  | [] => []
  | c :: cs =>
    match skip, count with
    | skip + 1, count => replaceUpTo old new count skip cs
    | 0, 0 => c :: cs
    | 0, count + 1 =>
      if old.isPrefixOf (c :: cs) then new ++ replaceUpTo old new count (old.length - 1) cs
      else c :: replaceUpTo old new (count + 1) 0 cs

/-- Puts `new` in front of the first `count` characters, and behind the last one if all have it. -/
def insertAround (new : List Char) : Nat → List Char → List Char
  | 0, cs => cs
  | _ + 1, [] => new
  | n + 1, c :: cs => new ++ c :: insertAround new n cs

def replaceFirst (count : Nat) (old new text : String) : String :=
  .ofList (if old.isEmpty then insertAround new.toList count text.toList
    else replaceUpTo old.toList new.toList count 0 text.toList)

def times (n : Nat) (s : String) : String := concat (List.replicate n s)

/-- The number in decimal digits, with zeros after the sign up to a width of `width`. -/
def zeroPadded (width : Nat) (n : Int) : String :=
  let sign := if n < 0 then "-" else ""
  let digits := toString n.natAbs
  sign ++ times (width - sign.length - digits.length) "0" ++ digits

end GoScaffold.Text
