/-!
# White space and trimming

Which characters count as white space, and what is left of a text once they are taken from its ends.
-/
namespace GoScaffold.Text

/-- White space: the ASCII controls from tab to carriage return, the four ASCII separators, the
next-line control, and the space separators of Unicode. -/
def isBlank (c : Char) : Bool :=
  let n := c.toNat
  (9 ≤ n && n ≤ 13) || (28 ≤ n && n ≤ 32) || n == 0x85 || n == 0xA0 || n == 0x1680 ||
  (0x2000 ≤ n && n ≤ 0x200A) || n == 0x2028 || n == 0x2029 || n == 0x202F || n == 0x205F ||
  n == 0x3000

/-- The text without the characters of the class at its end. -/
def trimEndWhile (p : Char → Bool) (cs : List Char) : List Char :=
  (cs.reverse.dropWhile p).reverse

def trimWhile (p : Char → Bool) (cs : List Char) : List Char :=
  trimEndWhile p (cs.dropWhile p)

def trimEnd (s : String) : String := .ofList (trimEndWhile isBlank s.toList)

/-- The text without the white space at both ends. -/
def trim (s : String) : String := .ofList (trimWhile isBlank s.toList)

def isBlankText (s : String) : Bool := s.toList.all isBlank

@[simp] theorem trimEndWhile_nil (p : Char → Bool) : trimEndWhile p [] = [] := rfl

end GoScaffold.Text
