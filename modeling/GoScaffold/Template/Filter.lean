import GoScaffold.Template.Member

/-!
# Filters and tests

What may stand after a bar or after `is` in an expression.
-/
namespace GoScaffold.Template

open GoScaffold.Text

inductive Filter
  | helper (h : Helper)
  | comment
  | upper
  | lower
  | replace
  | join
  | length
  | default
  | first
  | last
  | trim
  deriving Repr, DecidableEq

namespace Filter

def ofName? (name : String) : Option Filter :=
  match name with
  | "comment" => some .comment
  | "upper" => some .upper
  | "lower" => some .lower
  | "replace" => some .replace
  | "join" => some .join
  | "length" => some .length
  | "count" => some .length
  | "default" => some .default
  | "d" => some .default
  | "first" => some .first
  | "last" => some .last
  | "trim" => some .trim
  | name => (Helper.ofName? name).map .helper

/-- The parameters of a filter, the filtered value first. -/
def signature : Filter → Signature
  | .helper h => h.signature
  | .comment =>
    { name := "TemplateEngine._comment_filter",
      parameters := [("value", none), ("style", some (.str "//"))], bound := 1 }
  | .upper => { name := "do_upper", parameters := [("s", none)] }
  | .lower => { name := "do_lower", parameters := [("s", none)] }
  | .replace =>
    { name := "do_replace",
      parameters := [("s", none), ("old", none), ("new", none), ("count", some .none)], bound := 1 }
  | .join =>
    { name := "sync_do_join",
      parameters := [("value", none), ("d", some (.str "")), ("attribute", some .none)],
      bound := 1 }
  | .length => { name := "len", parameters := [("obj", none)] }
  | .default =>
    { name := "do_default",
      parameters := [("value", none), ("default_value", some (.str "")),
        ("boolean", some (.bool false))] }
  | .first => { name := "sync_do_first", parameters := [("seq", none)], bound := 1 }
  | .last => { name := "do_last", parameters := [("seq", none)], bound := 1 }
  | .trim => { name := "do_trim", parameters := [("value", none), ("chars", some .none)] }

/-- A comment mark in front of every line that is not blank; without such lines there is none. -/
def commented (style : Value) (text : String) : Outcome String := do
  let lines ← (splitAt '\n' text).mapM fun l => do
    if isBlankText l then return l else return (← style.text) ++ " " ++ l
  return Text.join "\n" lines

/-- The keys on the way to a member that is given by its path. -/
def pathTo (v : Value) : List Value :=
  match v with
  | .str s => (splitAt '.' s).map fun p =>
    if !p.isEmpty ∧ p.toList.all isDecimalDigit then .int (decimalValue p.toList) else .str p
  | v => [v]

/-- The texts of the items, or of what a path leads to in each of them, with a separator between.
Along a path the value is looked at before the separator. -/
def joined (v separator path : Value) : Outcome Value := do
  match path with
  | .none =>
    let separator ← separator.text
    return .str (Text.join separator (← (← v.members).mapM Value.text))
  | path =>
    let items ← v.members
    let separator ← separator.text
    let texts ← items.mapM fun item => do ((← (pathTo path).foldlM Value.item item)).text
    return .str (Text.join separator texts)

def lastOf (v : Value) : Outcome Value :=
  match v.members with
  | .error (.notIterable type) => .error (.notReversible type)
  | .error .noBlock => .error (.noLength v.typeName)
  | .error f => .error f
  | .ok items => .ok (items.getLastD (.undefined .noLast))

def replaced (v old new count : Value) : Outcome Value := do
  let s ← v.text
  let old ← old.text
  let new ← new.text
  match count, count.int? with
  | .none, _ => return .str (Text.replace old new s)
  | _, some n => return .str (TextMethod.replaced s old new n)
  | count, none =>
    throw (.badArgument s!"'{count.typeName}' object cannot be interpreted as an integer")

def trimmed (v chars : Value) : Outcome Value := do
  let s ← v.text
  match chars with
  | .none => return .str (Text.trim s)
  | .str chars => return .str (TextMethod.stripped s chars)
  | _ => throw (.badArgument "strip arg must be None or str")

def applyTo (f : Filter) (values : List Value) : Outcome Value :=
  match f, values with
  | .helper h, values => h.apply values
  | .comment, [v, style] => do return .str (← commented style (← v.text))
  | .upper, [v] => do return .str (Text.upper (← v.text))
  | .lower, [v] => do return .str (Text.lower (← v.text))
  | .replace, [v, old, new, count] => replaced v old new count
  | .join, [v, separator, path] => joined v separator path
  | .length, [v] => do return .int (← v.length)
  | .default, [.undefined _, d, _] => .ok d
  | .default, [v, d, boolean] => do
    if (← boolean.truth) && !(← v.truth) then return d else return v
  | .first, [v] => do return (← v.members).headD (.undefined .noFirst)
  | .last, [v] => lastOf v
  | .trim, [v, chars] => trimmed v chars
  | _, _ => .ok .none

def apply (f : Filter) (v : Value) (a : Arguments) : Outcome Value :=
  match f with
  | .length =>
    if !a.named.isEmpty then .error (.badArgument "len() takes no keyword arguments")
    else if !a.positional.isEmpty then
      let given := a.positional.length + 1
      .error (.badArgument s!"len() takes exactly one argument ({given} given)")
    else f.applyTo [v]
  | f => do f.applyTo (← f.signature.bind { a with positional := v :: a.positional })

end Filter

inductive Test
  | defined
  | undefined
  | none
  | boolean
  | integer
  | float
  | number
  | string
  | mapping
  | true
  | false
  deriving Repr, DecidableEq

namespace Test

def all : List (String × Test) :=
  [("defined", .defined), ("undefined", .undefined), ("none", .none), ("boolean", .boolean),
    ("integer", .integer), ("float", .float), ("number", .number), ("string", .string),
    ("mapping", .mapping), ("true", .true), ("false", .false)]

def ofName? (name : String) : Option Test := all.lookup name

def holds (t : Test) (v : Value) : Bool :=
  match t, v with
  | .defined, .undefined _ => Bool.false
  | .defined, _ => Bool.true
  | .undefined, .undefined _ => Bool.true
  | .none, .none => Bool.true
  | .boolean, .bool _ => Bool.true
  | .integer, .int _ => Bool.true
  | .float, .float _ => Bool.true
  | .number, .bool _ => Bool.true
  | .number, .int _ => Bool.true
  | .number, .float _ => Bool.true
  | .string, .str _ => Bool.true
  | .mapping, .dict _ => Bool.true
  | .true, .bool b => b
  | .false, .bool b => !b
  | _, _ => Bool.false

def apply (t : Test) (name : String) (v : Value) (a : Arguments) : Outcome Value := do
  let s : Signature := { name := "test_" ++ name, parameters := [("value", Option.none)] }
  let _ ← s.bind { a with positional := v :: a.positional }
  return .bool (t.holds v)

end Test

end GoScaffold.Template
