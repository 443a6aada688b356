import GoScaffold.Template.Expr
import GoScaffold.Template.Value

/-!
# Texts and relations of values

What a value prints as, whether it counts as true, what it consists of, and how it compares with
another one. A reference that leads nowhere is refused wherever it is used, one that comes from a
choice without an alternative only where something is asked of it.
-/
namespace GoScaffold.Template

open GoScaffold.Text GoScaffold.Decimal

abbrev Outcome (α : Type) := Except RenderFault α

/-- What a view shows of an entry. -/
def View.of (v : View) (entry : Value × Value) : Value :=
  match v with
  | .keys => entry.1
  | .values => entry.2
  | .items => .tuple [entry.1, entry.2]

namespace Value

mutual

/-- What keeps a value from being written: an integer that is too long, or the end of a loop whose
length is written. -/
def writingFault? : Value → Option RenderFault
  | .int n => if isLong n then some (.longInteger Option.none) else Option.none
  | .list items => itemFault? items
  | .tuple items => itemFault? items
  | .dict entries => entryFault? entries
  | .view _ entries => entryFault? entries
  | .loop _ _ fault => fault
  | _ => Option.none

def itemFault? : List Value → Option RenderFault
  | [] => Option.none
  | x :: xs => x.writingFault?.or (itemFault? xs)

def entryFault? : List (Value × Value) → Option RenderFault
  | [] => Option.none
  | (k, x) :: xs => (k.writingFault?.or x.writingFault?).or (entryFault? xs)

end

/-- What a value prints as. -/
def text (v : Value) : Outcome String :=
  match v with
  | .undefined a => if a.isLenient then .ok "" else .error (.undefined a)
  | .str s => .ok s
  | v =>
    match v.writingFault? with
    | some f => .error f
    | Option.none => .ok v.plainText

/-- What a value is written as inside another one. -/
def quotedText (v : Value) : Outcome String :=
  match v.writingFault? with
  | some f => .error f
  | Option.none => .ok v.literal

def truth (v : Value) : Outcome Bool :=
  match v with
  | .undefined a => if a.isLenient then .ok false else .error (.undefined a)
  | .loop _ _ (some f) => .error f
  | v => .ok v.plainTruth

/-- The members of a value in a loop: the characters of a text, the keys of a dictionary. A template
would have its blocks, but has none. -/
def members (v : Value) : Outcome (List Value) :=
  match v with
  | .undefined a => if a.isLenient then .ok [] else .error (.undefined a)
  | .list items => .ok items
  | .tuple items => .ok items
  | .str s => .ok (s.toList.map fun c => .str (.singleton c))
  | .dict entries => .ok (entries.map (·.1))
  | .view v entries => .ok (entries.map (View.of v))
  | .template _ => .error .noBlock
  | v => .error (.notIterable v.typeName)

def length (v : Value) : Outcome Nat :=
  match v with
  | .loop _ _ (some f) => .error f
  | .loop _ items Option.none => .ok items.length
  | .undefined a => if a.isLenient then .ok 0 else .error (.undefined a)
  | .list items => .ok items.length
  | .tuple items => .ok items.length
  | .str s => .ok s.length
  | .dict entries => .ok entries.length
  | .view _ entries => .ok entries.length
  | v => .error (.noLength v.typeName)

/-- A truth value or an integer as an integer. -/
def int? : Value → Option Int
  | .bool b => some (if b then 1 else 0)
  | .int n => some n
  | _ => Option.none

/-- A value as a number; truth values count as zero and one. -/
def number? : Value → Option Number
  | .float x => some (.real x)
  | v => v.int?.map .whole

def ofNumber : Number → Value
  | .whole n => .int n
  | .real x => .float x

/-- A number as a whole one, if it is. -/
def whole? : Value → Option Int
  | .float x => x.toInt?
  | v => v.int?

mutual

/-- Equality of defined values: numbers by value, dictionaries whatever their order. -/
def same : Value → Value → Bool
  | .none, .none => true
  | .str s, .str t => s == t
  | .list xs, .list ys => sameItems xs ys
  | .tuple xs, .tuple ys => sameItems xs ys
  | .dict xs, .dict ys => xs.length == ys.length && sameEntries xs ys
  | .view v xs, .view w ys => v == w && xs.length == ys.length && sameEntries xs ys
  | .field f, .field g => f == g
  | .plan p, .plan q => p == q
  | .accessor a, .accessor b => a == b
  | .type t, .type u => t == u
  | .kind k, .kind l => k == l
  | .cardinality c, .cardinality d => c == d
  | .loop i xs _, .loop j ys _ => i == j && sameItems xs ys
  | .template n, .template m => n == m
  | .callable c, .callable d => c == d
  | .method v n, .method w m => n == m && v.same w
  | .undefined a, .undefined b => a.isLenient && b.isLenient
  | .float x, .float y => x.same y
  | v, w => match v.whole?, w.whole? with
    | some m, some n => m == n
    | _, _ => false

def sameItems : List Value → List Value → Bool
  | [], [] => true
  | x :: xs, y :: ys => x.same y && sameItems xs ys
  | _, _ => false

def sameEntries : List (Value × Value) → List (Value × Value) → Bool
  | [], _ => true
  | (k, x) :: xs, ys => ys.any (fun e => k.same e.1 && x.same e.2) && sameEntries xs ys

end

/-- A value of which something is asked. -/
def defined (v : Value) : Outcome Value :=
  match v with
  | .undefined a => .error (.undefined a)
  | v => .ok v

def isNaN : Value → Bool
  | .float x => x.isNaN
  | _ => false

/-- The fault of asking whether values are equal: a strict reference that leads nowhere. -/
def absenceFault? (v w : Value) : Option RenderFault :=
  match v, w with
  | .undefined a, .undefined b =>
    if a.isLenient then (if b.isLenient then Option.none else some (.undefined b))
    else some (.undefined a)
  | .undefined a, _ => if a.isLenient then Option.none else some (.undefined a)
  | _, .undefined b => if b.isLenient then Option.none else some (.undefined b)
  | _, _ => Option.none

/-- Equality; what leads nowhere equals nothing that can be named, and what is no number equals no
number. -/
def equal (v w : Value) : Outcome Bool :=
  match absenceFault? v w with
  | some f => .error f
  | Option.none => .ok (!v.isNaN && same v w)

end Value

def Comparison.text : Comparison → String
  | .eq => "=="
  | .ne => "!="
  | .lt => "<"
  | .le => "<="
  | .gt => ">"
  | .ge => ">="
  | .isIn => "in"
  | .notIn => "not in"

/-- An order comparison from the two strict ones. -/
def Comparison.holds (op : Comparison) (less greater : Bool) : Bool :=
  match op with
  | .lt => less
  | .le => !greater
  | .gt => greater
  | .ge => !less
  | _ => !less && !greater

namespace Value

mutual

/-- Whether the order comparison holds: numbers by size, texts and sequences by their first
difference. -/
def ordered (op : Comparison) : Value → Value → Outcome Bool
  | .undefined a, .undefined b =>
    .error (.undefined (if a.isLenient && !b.isLenient then b else a))
  | .undefined a, _ => .error (.undefined a)
  | _, .undefined b => .error (.undefined b)
  | .str s, .str t => .ok (op.holds (decide (s < t)) (decide (t < s)))
  | .list xs, .list ys => orderedItems op xs ys
  | .tuple xs, .tuple ys => orderedItems op xs ys
  | v, w =>
    match v.number?, w.number? with
    | some m, some n =>
      .ok (!m.isNaN && !n.isNaN && op.holds (m.isLess n) (n.isLess m))
    | _, _ => .error (.notOrdered op.text v.typeName w.typeName)

def orderedItems (op : Comparison) : List Value → List Value → Outcome Bool
  | [], [] => .ok (op.holds false false)
  | [], _ :: _ => .ok (op.holds true false)
  | _ :: _, [] => .ok (op.holds false true)
  | x :: xs, y :: ys => if x.same y then orderedItems op xs ys else ordered op x y

end

def isAmong (v : Value) : List Value → Outcome Bool
  | [] => .ok false
  | x :: xs => do if ← x.equal v then return true else isAmong v xs

mutual

/-- A value may be a key: what it consists of does not change. -/
def hashable : Value → Outcome Unit
  | .undefined a => if a.isLenient then .ok () else .error (.undefined a)
  | .list _ => .error (.unhashable "list")
  | .dict _ => .error (.unhashable "dict")
  | .view .values _ => .ok ()
  | .view v _ => .error (.unhashable v.typeName)
  | .tuple items => hashableItems items
  | _ => .ok ()

def hashableItems : List Value → Outcome Unit
  | [] => .ok ()
  | x :: xs => do
    x.hashable
    hashableItems xs

end

def lookup (key : Value) (entries : List (Value × Value)) : Option Value :=
  (entries.find? fun e => e.1.same key).map (·.2)

def isIn (v container : Value) : Outcome Bool :=
  match container with
  | .undefined a => if a.isLenient then .ok false else .error (.undefined a)
  | .list items => v.isAmong items
  | .tuple items => v.isAmong items
  | .dict entries => do
    v.hashable
    return (lookup v entries).isSome
  | .view .keys entries => do
    v.hashable
    return (lookup v entries).isSome
  | .view w entries => v.isAmong (entries.map (View.of w))
  | .template _ => .error .noBlock
  | .str s =>
    match v with
    | .str needle => .ok (contains s needle)
    | v => .error (.notTextOperand v.typeName)
  | c => .error (.notContainer c.typeName)

def compare (op : Comparison) (v w : Value) : Outcome Bool :=
  match op with
  | .eq => v.equal w
  | .ne => (v.equal w).map (!·)
  | .isIn => v.isIn w
  | .notIn => (v.isIn w).map (!·)
  | op => ordered op v w

end Value

end GoScaffold.Template
