import GoScaffold.Template.Helper

/-!
# Methods of plain values

What may be asked of texts, dictionaries, loops and numbers by the name of a member. Some members of
a value are known by name only: they count as defined, but are not called.
-/
namespace GoScaffold.Template

open GoScaffold.Text

def textMethods : List String := [
  "capitalize", "casefold", "center", "count", "encode", "endswith", "expandtabs", "find", "format",
  "format_map", "index", "isalnum", "isalpha", "isascii", "isdecimal", "isdigit", "isidentifier",
  "islower", "isnumeric", "isprintable", "isspace", "istitle", "isupper", "join", "ljust", "lower",
  "lstrip", "maketrans", "partition", "removeprefix", "removesuffix", "replace", "rfind", "rindex",
  "rjust", "rpartition", "rsplit", "rstrip", "split", "splitlines", "startswith", "strip",
  "swapcase", "title", "translate", "upper", "zfill"]

def Value.methods : Value → List String
  | .str _ => textMethods
  | .bool _ => ["as_integer_ratio", "bit_count", "bit_length", "conjugate", "from_bytes", "to_bytes"]
  | .int _ => ["as_integer_ratio", "bit_count", "bit_length", "conjugate", "from_bytes", "to_bytes"]
  | .float _ => ["as_integer_ratio", "conjugate", "fromhex", "hex", "is_integer"]
  | .list _ => ["append", "clear", "copy", "count", "extend", "index", "insert", "pop", "remove",
    "reverse", "sort"]
  | .tuple _ => ["count", "index"]
  | .dict _ => ["clear", "copy", "fromkeys", "get", "items", "keys", "pop", "popitem", "setdefault",
    "update", "values"]
  | .view .values _ => ["mapping"]
  | .view _ _ => ["isdisjoint", "mapping"]
  | .loop .. => ["changed", "cycle"]
  | _ => []

inductive TextMethod
  | startsWith
  | endsWith
  | upper
  | lower
  | replace
  | strip
  | stripStart
  | stripEnd
  | join
  deriving Repr, DecidableEq

namespace TextMethod

def ofName? : String → Option TextMethod
  | "startswith" => some .startsWith
  | "endswith" => some .endsWith
  | "upper" => some .upper
  | "lower" => some .lower
  | "replace" => some .replace
  | "strip" => some .strip
  | "lstrip" => some .stripStart
  | "rstrip" => some .stripEnd
  | "join" => some .join
  | _ => none

def name : TextMethod → String
  | .startsWith => "startswith"
  | .endsWith => "endswith"
  | .upper => "upper"
  | .lower => "lower"
  | .replace => "replace"
  | .strip => "strip"
  | .stripStart => "lstrip"
  | .stripEnd => "rstrip"
  | .join => "join"

/-- The text has one of the affixes that a value gives. -/
def hasAffix (m : TextMethod) (has : List Char → Bool) (v : Value) : Outcome Bool :=
  match v with
  | .str t => .ok (has t.toList)
  | .tuple items => items.anyM fun
    | .str t => .ok (has t.toList)
    | w => .error (.badArgument s!"tuple for {m.name} must only contain str, not {w.typeName}")
  | v =>
    .error (.badArgument s!"{m.name} first arg must be str or a tuple of str, not {v.typeName}")

/-- The part of a text in which an affix is looked for has the affix at its start, or at its end.
The part goes from a start to a stop, both counted from the end of the text if they are negative. -/
def hasWithin (atEnd : Bool) (cs : List Char) (start stop : Option Int) (affix : List Char) :
    Bool :=
  let size : Int := cs.length
  let first : Int := match start with
    | some n => if n < 0 then max 0 (n + size) else n
    | none => 0
  let last : Int := match stop with
    | some n => if n < 0 then max 0 (n + size) else min n size
    | none => size
  let part := (cs.take last.toNat).drop first.toNat
  decide (first ≤ last - affix.length) &&
    (if atEnd then affix.isSuffixOf part else affix.isPrefixOf part)

/-- Looks for an affix. -/
def affixed (m : TextMethod) (atEnd : Bool) (s : String) (v start stop : Value) :
    Outcome Value := do
  let start ← start.boundOf
  let stop ← stop.boundOf
  return .bool (← m.hasAffix (hasWithin atEnd s.toList start stop) v)

/-- A text without some characters at its ends, or at one of them. -/
def trimmed (m : TextMethod) (p : Char → Bool) (s : String) : String :=
  .ofList <| match m with
    | .stripStart => s.toList.dropWhile p
    | .stripEnd => trimEndWhile p s.toList
    | _ => trimWhile p s.toList

/-- A text without the characters of another one at its ends. -/
def stripped (s chars : String) : String := trimmed .strip (fun c => chars.contains c) s

/-- Replaces in a text; a count that is not negative bounds the replacements. -/
def replaced (s old new : String) (count : Int) : String :=
  if count < 0 then Text.replace old new s else replaceFirst count.toNat old new s

def textArgument (m : TextMethod) (number : Nat) (v : Value) : Outcome String :=
  match v with
  | .str t => .ok t
  | v => .error (.badArgument s!"{m.name}() argument {number} must be str, not {v.typeName}")

/-- The texts that are joined; the number is the position of the first. -/
def joinable (position : Nat) : List Value → Outcome (List String)
  | [] => .ok []
  | .str s :: vs => do return s :: (← joinable (position + 1) vs)
  | v :: _ => .error (.badArgument
      s!"sequence item {position}: expected str instance, {v.typeName} found")

def joined (s : String) (v : Value) : Outcome Value := do
  match v.members with
  | .error (.notIterable _) => throw (.badArgument "can only join an iterable")
  | .error f => throw f
  | .ok items => return .str (Text.join s (← joinable 0 items))

/-- How many arguments do not fit. -/
def countFault (m : TextMethod) (given : Nat) : RenderFault :=
  .badArgument <| match m with
    | .upper => s!"str.upper() takes no arguments ({given} given)"
    | .lower => s!"str.lower() takes no arguments ({given} given)"
    | .join => s!"str.join() takes exactly one argument ({given} given)"
    | .replace => if given < 2 then s!"replace expected at least 2 arguments, got {given}"
      else s!"replace expected at most 3 arguments, got {given}"
    | .strip => s!"strip expected at most 1 argument, got {given}"
    | .stripStart => s!"lstrip expected at most 1 argument, got {given}"
    | .stripEnd => s!"rstrip expected at most 1 argument, got {given}"
    | m => if given < 1 then s!"{m.name}() takes at least 1 argument ({given} given)"
      else s!"{m.name}() takes at most 3 arguments ({given} given)"

/-- Applies a method of the text `s`. -/
def apply (m : TextMethod) (s : String) (a : Arguments) : Outcome Value := do
  if !a.named.isEmpty then throw (.badArgument s!"str.{m.name}() takes no keyword arguments")
  match m, a.positional with
  | .startsWith, [v] => m.affixed false s v .none .none
  | .startsWith, [v, start] => m.affixed false s v start .none
  | .startsWith, [v, start, stop] => m.affixed false s v start stop
  | .endsWith, [v] => m.affixed true s v .none .none
  | .endsWith, [v, start] => m.affixed true s v start .none
  | .endsWith, [v, start, stop] => m.affixed true s v start stop
  | .upper, [] => return .str (Text.upper s)
  | .lower, [] => return .str (Text.lower s)
  | .join, [v] => joined s v
  | .replace, [old, new] =>
    return .str (replaced s (← m.textArgument 1 old) (← m.textArgument 2 new) (-1))
  | .replace, [old, new, count] =>
    let old ← m.textArgument 1 old
    let new ← m.textArgument 2 new
    match count.int? with
    | some n => return .str (replaced s old new n)
    | none => throw (.badArgument
        s!"'{count.typeName}' object cannot be interpreted as an integer")
  | m, arguments =>
    if m = .strip ∨ m = .stripStart ∨ m = .stripEnd then
      match arguments with
      | [] => return .str (m.trimmed isBlank s)
      | [.none] => return .str (m.trimmed isBlank s)
      | [.str chars] => return .str (m.trimmed (fun c => chars.contains c) s)
      | [_] => throw (.badArgument s!"{m.name} arg must be None or str")
      | arguments => throw (m.countFault arguments.length)
    else throw (m.countFault arguments.length)

end TextMethod

/-- The views of a dictionary by the names of its methods. -/
def View.ofName? : String → Option View
  | "keys" => some .keys
  | "values" => some .values
  | "items" => some .items
  | _ => none

namespace Value

/-- The entry under a key that may be missing. -/
def entryOr (entries : List (Value × Value)) (key default : Value) : Outcome Value := do
  key.hashable
  return (lookup key entries).getD default

def callEntries (entries : List (Value × Value)) (name : String) (a : Arguments) :
    Outcome Value := do
  if !a.named.isEmpty then throw (.badArgument s!"dict.{name}() takes no keyword arguments")
  let given := a.positional.length
  match View.ofName? name, name, a.positional with
  | some v, _, [] => return .view v entries
  | some _, _, _ => throw (.badArgument s!"dict.{name}() takes no arguments ({given} given)")
  | Option.none, "get", [key] => entryOr entries key .none
  | Option.none, "get", [key, default] => entryOr entries key default
  | Option.none, "get", arguments =>
    let bound := if arguments.isEmpty then "at least 1 argument" else "at most 2 arguments"
    throw (.badArgument s!"get expected {bound}, got {given}")
  | _, _, _ => throw (.badArgument s!"dict.{name}() is not available")

def callMethod (owner : Value) (name : String) (a : Arguments) : Outcome Value :=
  match owner, name, TextMethod.ofName? name with
  | .str s, _, some m => m.apply s a
  | .dict entries, _, _ => callEntries entries name a
  | .loop position .., "cycle", _ =>
    match a.positional[position % max 1 a.positional.length]? with
    | some v => .ok v
    | Option.none => .error (.badArgument "no items for cycling given")
  | owner, name, _ => .error (.badArgument s!"{owner.typeName}.{name}() is not available")

end Value

end GoScaffold.Template
