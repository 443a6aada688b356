/-!
# Close matches

How alike two texts are: twice the number of characters in matching blocks over the number of all
characters. The blocks are found greedily, the longest one first, then on either side of it. In a
searched word of two hundred characters or more, characters that make up over a hundredth of it
start no block.
-/
namespace GoScaffold.Text

/-- The lengths of the matching runs that end at `x` and at each character of `b`, given those one
character earlier, the first of which stands before the start of `b`. -/
def runLengths (common : Char → Bool) (x : Char) : List Char → List Nat → List Nat
  | y :: b, n :: earlier =>
    (if x = y ∧ !common y then n + 1 else 0) :: runLengths common x b earlier
  | _, _ => []

/-- A block of `size` characters at `left` in one text and at `right` in the other. -/
structure Block where
  left : Nat
  right : Nat
  size : Nat
  deriving Repr, DecidableEq

/-- The longer of the best block so far and the runs that end at position `i`; the earlier of two
that are equally long. -/
def Block.improve (best : Block) (i : Nat) (runs : List Nat) : Block :=
  (runs.zipIdx).foldl
    (fun best (k, j) => if k > best.size then ⟨i + 1 - k, j + 1 - k, k⟩ else best) best

def longestRun (common : Char → Bool) (b : List Char) :
    Nat → List Nat → Block → List Char → Block
  | _, _, best, [] => best
  | i, earlier, best, x :: a =>
    let runs := runLengths common x b (0 :: earlier)
    longestRun common b (i + 1) runs (best.improve i runs) a

/-- How many characters two texts have in common at their start. -/
def commonStart : List Char → List Char → Nat
  | x :: a, y :: b => if x = y then commonStart a b + 1 else 0
  | _, _ => 0

/-- The longest matching block, widened on both sides over characters that start no block. -/
def longestBlock (common : Char → Bool) (a b : List Char) : Block :=
  let best := longestRun common b 0 (b.map fun _ => 0) ⟨0, 0, 0⟩ a
  let back := commonStart (a.take best.left).reverse (b.take best.right).reverse
  let on := commonStart (a.drop (best.left + best.size)) (b.drop (best.right + best.size))
  ⟨best.left - back, best.right - back, best.size + back + on⟩

/-- The number of characters in matching blocks, at most `fuel` blocks deep. -/
def matchedWithin (common : Char → Bool) : Nat → List Char → List Char → Nat
  | 0, _, _ => 0
  | fuel + 1, a, b =>
    let m := longestBlock common a b
    if m.size = 0 then 0
    else m.size + matchedWithin common fuel (a.take m.left) (b.take m.right) +
      matchedWithin common fuel (a.drop (m.left + m.size)) (b.drop (m.right + m.size))

/-- The characters that are too frequent in a long searched word to start a block. -/
def tooCommon (word : List Char) (c : Char) : Bool :=
  200 ≤ word.length && word.length / 100 + 1 < word.count c

/-- The number of characters that a candidate and the searched word have in matching blocks. -/
def matched (word candidate : List Char) : Nat :=
  matchedWithin (tooCommon word) (candidate.length + 1) candidate word

/-- A likeness as a fraction `twice / total`; two empty texts are alike. -/
structure Likeness where
  twice : Nat
  total : Nat
  deriving Repr, DecidableEq

def Likeness.le (x y : Likeness) : Bool := x.twice * y.total ≤ y.twice * x.total

def likeness (word candidate : List Char) : Likeness :=
  if word.length + candidate.length = 0 then ⟨1, 1⟩
  else ⟨2 * matched word candidate, word.length + candidate.length⟩

/-- The candidates that are at least half like the word, the most alike first; of two equally
alike, the later in the order of texts first. -/
def closeMatches (limit : Nat) (word : String) (candidates : List String) : List String :=
  let scored := candidates.map fun c => (likeness word.toList c.toList, c)
  let close := scored.filter fun (l, _) => Likeness.le ⟨1, 2⟩ l
  let before (x y : Likeness × String) : Bool :=
    if x.1.le y.1 && y.1.le x.1 then decide (y.2 ≤ x.2) else y.1.le x.1
  ((close.mergeSort before).take limit).map (·.2)

end GoScaffold.Text
