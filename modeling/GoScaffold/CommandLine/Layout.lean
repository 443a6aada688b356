import GoScaffold.CommandLine.Command
import GoScaffold.CommandLine.Display

/-!
# Plain layout

What the console shows, as lines without styles.
-/
namespace GoScaffold.CommandLine

open GoScaffold.Text

/-- The name of a style, or its end. -/
def isStyleName (cs : List Char) : Bool :=
  !cs.isEmpty && cs.all fun c => c.isLower || c == ' ' || c == '/'

/-- The text without style names in square brackets; `inside` is what has been read since an open
bracket, the last character first. -/
def withoutStyles (inside : Option (List Char)) : List Char → List Char
  | [] => match inside with
    | none => []
    | some seen => '[' :: seen.reverse
  | c :: cs =>
    match inside with
    | none => if c = '[' then withoutStyles (some []) cs else c :: withoutStyles none cs
    | some seen =>
      if c = '[' then '[' :: seen.reverse ++ withoutStyles (some []) cs
      else if c = ']' then
        if isStyleName seen then withoutStyles none cs
        else '[' :: seen.reverse ++ ']' :: withoutStyles none cs
      else withoutStyles (some (c :: seen)) cs

def plain (s : String) : String := .ofList (withoutStyles none s.toList)

def padded (width : Nat) (s : String) : String := s ++ times (width - s.length) " "

/-- The rows with the columns below each other. -/
def aligned (rows : List (List String)) : List String :=
  let columns := (rows.map List.length).foldl Nat.max 0
  let widths := (List.range columns).map fun i =>
    (rows.map fun row => (row.getD i "").length).foldl Nat.max 0
  rows.map fun row => join "  " ((row.zip widths).map fun c => padded c.2 c.1)

namespace Display

def lines : Display → List String
  | .text s => [plain s]
  | .status s => [plain s]
  | .code s => [s]
  | .panel title s => [title, plain s]
  | .table title columns rows => title :: aligned ((columns :: rows).map (·.map plain))

end Display

def usage : String :=
  "usage: " ++ programName ++ " [-h] [--version] [--log-level LEVEL] (" ++
    join "|" commandNames ++ ") ...\n"

end GoScaffold.CommandLine
