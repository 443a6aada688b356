/-!
# Classes of code points given by their boundaries

A class is an ascending list of boundaries: it is entered at the first, left at the second,
entered again at the third, and so on.
-/
namespace GoScaffold.Text

/-- Membership in the class: an odd number of boundaries are at or below `n`. -/
def inside (boundaries : Array Nat) (n : Nat) : Bool :=
  boundaries.countP (· ≤ n) % 2 == 1

end GoScaffold.Text
