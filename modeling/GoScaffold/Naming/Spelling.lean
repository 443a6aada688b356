import GoScaffold.Text.Casing
import GoScaffold.Text.Split

/-!
# Spellings of a name

The ways to spell the words of a name as one identifier.

White space, underscores and hyphens separate words, and so does every ASCII capital that follows
a small ASCII letter or a digit. Runs of capitals stay together.
-/
namespace GoScaffold.Naming

open GoScaffold.Text

def isSeparator (c : Char) : Bool := isBlank c || c == '_' || c == '-'

/-- A word starts at the second of two neighbouring characters. -/
def startsWord (c d : Char) : Bool := (c.isLower || c.isDigit) && d.isUpper

/-- The stretches between separators and word starts; the first is empty if a separator or
nothing stands first, and so is each one between two separators. -/
def stretches : List Char → List (List Char)
  | [] => [[]]
  | c :: cs =>
    if isSeparator c then [] :: stretches cs
    else match stretches cs with
      | (d :: w) :: ws => if startsWord c d then [c] :: (d :: w) :: ws else (c :: d :: w) :: ws
      | [] :: ws => [c] :: ws
      | [] => [[c]]

/-- The words of a name, spelled as they are. -/
def wordsOf (cs : List Char) : List (List Char) := (stretches cs).filter (!·.isEmpty)

def words (name : String) : List String := (wordsOf name.toList).map .ofList

theorem stretches_ne_nil (cs : List Char) : stretches cs ≠ [] := by
  cases cs with
  | nil => simp [stretches]
  | cons c cs =>
    unfold stretches
    repeat' split
    all_goals simp

theorem flatten_stretches (cs : List Char) :
    (stretches cs).flatten = cs.filter fun c => !isSeparator c := by
  induction cs with
  | nil => rfl
  | cons c cs ih =>
    by_cases h : isSeparator c = true
    · simp [stretches, h, ih]
    · simp only [stretches, h, Bool.false_eq_true, if_false]
      split <;> rename_i hs <;> rw [hs] at ih
      · split <;> simp_all
      · simp_all
      · exact absurd hs (stretches_ne_nil cs)

theorem flatten_wordsOf (cs : List Char) :
    (wordsOf cs).flatten = cs.filter fun c => !isSeparator c := by
  rw [← flatten_stretches, wordsOf]
  induction stretches cs with
  | nil => rfl
  | cons w ws ih => cases w <;> simp_all

/-- The first character in upper case, the rest as written. -/
def capitalize : List Char → List Char
  | [] => []
  | c :: cs => upperChars [c] ++ cs

/-- `OrderItem`: each word capitalized, its tail kept as written. -/
def pascal (name : String) : String := .ofList ((wordsOf name.toList).flatMap capitalize)

/-- `orderItem`: the first word in lower case, the others capitalized. -/
def camel (name : String) : String :=
  match wordsOf name.toList with
  | [] => ""
  | w :: ws => .ofList (lowerChars w ++ ws.flatMap capitalize)

def lowerWords (name : String) : List String := (words name).map lower

/-- `order_item`. -/
def snake (name : String) : String := join "_" (lowerWords name)

/-- `order-item`. -/
def kebab (name : String) : String := join "-" (lowerWords name)

/-- `ORDER_ITEM`. -/
def screamingSnake (name : String) : String := upper (snake name)

/-- `order item`: how a message speaks of the name. -/
def label (name : String) : String := join " " (lowerWords name)

/-- A snake-case name that is one of the terms or ends in an underscore and one of them. -/
def isCalled (column : String) (terms : List String) : Bool :=
  terms.any fun t => column == t || endsWith column ("_" ++ t)

inductive Spelling
  | snake
  | camel
  | pascal
  | kebab
  | screamingSnake
  deriving Repr, DecidableEq

def Spelling.apply : Spelling → String → String
  | .snake => Naming.snake
  | .camel => Naming.camel
  | .pascal => Naming.pascal
  | .kebab => Naming.kebab
  | .screamingSnake => Naming.screamingSnake

/-- The spelling with a given name. -/
def Spelling.ofName? : String → Option Spelling
  | "snake" => some .snake
  | "camel" => some .camel
  | "pascal" => some .pascal
  | "kebab" => some .kebab
  | "screaming_snake" => some .screamingSnake
  | _ => none

end GoScaffold.Naming
