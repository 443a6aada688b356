import GoScaffold.Decimal.Double
import GoScaffold.OrderedMap
import GoScaffold.Text.Quoted

/-!
# JSON values

Settings are JSON values. Object fields keep their order. A value has a truth value and two texts:
the plain one shown inside a message and the literal one, in which strings are quoted.
-/
namespace GoScaffold

open GoScaffold.Decimal GoScaffold.Text

inductive Json where
  | null
  | bool (b : Bool)
  | int (n : Int)
  | float (x : Double)
  | str (s : String)
  | array (items : List Json)
  | object (fields : List (String × Json))
  deriving Repr, Inhabited

namespace Json

/-- Null, false, zero and everything empty are false. -/
def truthy : Json → Bool
  | .null => false
  | .bool b => b
  | .int n => n != 0
  | .float x => !x.isZero
  | .str s => !s.isEmpty
  | .array items => !items.isEmpty
  | .object fields => !fields.isEmpty

mutual

/-- The literal form, with strings quoted. -/
def literal : Json → String
  | .null => "None"
  | .bool b => if b then "True" else "False"
  | .int n => toString n
  | .float x => x.text
  | .str s => quoted s
  | .array items => "[" ++ join ", " (itemLiterals items) ++ "]"
  | .object fields => "\x7b" ++ join ", " (fieldLiterals fields) ++ "\x7d"

def itemLiterals : List Json → List String
  | [] => []
  | x :: rest => x.literal :: itemLiterals rest

def fieldLiterals : List (String × Json) → List String
  | [] => []
  | (k, x) :: rest => (quoted k ++ ": " ++ x.literal) :: fieldLiterals rest

end

/-- The plain form: a string stands for itself. -/
def text : Json → String
  | .str s => s
  | x => x.literal

/-- A number as an integer, truth values counting as zero and one. -/
def toInt? : Json → Option Int
  | .bool b => some (if b then 1 else 0)
  | .int n => some n
  | .float x => x.toInt?
  | _ => none

mutual

/-- The same setting: numbers by value, objects whatever the order of their fields. -/
def same : Json → Json → Bool
  | .null, .null => true
  | .str s, .str t => s == t
  | .array xs, .array ys => sameItems xs ys
  | .object xs, .object ys => xs.length == ys.length && sameFields xs ys
  | .float x, .float y => x.same y
  | x, y => match x.toInt?, y.toInt? with
    | some m, some n => m == n
    | _, _ => false

def sameItems : List Json → List Json → Bool
  | [], [] => true
  | x :: xs, y :: ys => x.same y && sameItems xs ys
  | _, _ => false

/-- Every field of the first object is in the second with the same value. -/
def sameFields : List (String × Json) → List (String × Json) → Bool
  | [], _ => true
  | (k, x) :: xs, ys =>
    (match OrderedMap.get? k ys with
      | some y => x.same y
      | none => false) && sameFields xs ys

end

end Json

end GoScaffold
