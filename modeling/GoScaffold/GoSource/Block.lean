import GoScaffold.Text.Split

/-!
# Blocks of Go source

Source whose shape depends on the fields is put together from lines, raw lines and nested blocks.
A writer keeps the current indentation and the lines so far; the lines of a block can also be given
at once for an explicit depth.
-/
namespace GoScaffold

open GoScaffold.Text

/-- A piece of source: a line, or lines one level deeper, between an opening and a closing line or
on their own. -/
inductive Source where
  | line (text : String)
  | raw (text : String)
  | blank
  | comment (text : String)
  | block (opening closing : String) (body : List Source)
  | func (signature : String) (body : List Source)
  | indented (body : List Source)
  deriving Repr, Inhabited

namespace Source

def braces (opening : String) (body : List Source) : Source := .block opening "\x7d" body

def funcOpening (signature : String) : String := "func " ++ signature ++ " \x7b"

/-- The lines written so far, the last one first, and the indentation of the next one. -/
structure Writer where
  indent : Int
  written : List String := []
  deriving Repr, DecidableEq

/-- An empty line is not indented. -/
def indentedLine (depth : Int) (text : String) : String :=
  if text = "" then "" else times depth.toNat "\t" ++ text

namespace Writer

def line (w : Writer) (text : String) : Writer :=
  { w with written := indentedLine w.indent text :: w.written }

def raw (w : Writer) (text : String) : Writer := { w with written := text :: w.written }

def deeper (w : Writer) : Writer := { w with indent := w.indent + 1 }

def shallower (w : Writer) : Writer := { w with indent := w.indent - 1 }

/-- The text of the lines, with a newline at the end unless there are none. -/
def text (w : Writer) : String :=
  if w.written.isEmpty then "" else join "\n" w.written.reverse ++ "\n"

end Writer

mutual

def run (w : Writer) : Source → Writer
  | .line text => w.line text
  | .raw text => w.raw text
  | .blank => w.line ""
  | .comment text => w.line ("// " ++ text)
  | .block opening closing body => ((runAll (w.line opening).deeper body).shallower).line closing
  | .func signature body =>
    ((runAll (w.line (funcOpening signature)).deeper body).shallower).line "\x7d"
  | .indented body => (runAll w.deeper body).shallower

def runAll (w : Writer) : List Source → Writer
  | [] => w
  | s :: rest => runAll (run w s) rest

end

mutual

/-- The lines of a piece that stands at a depth. -/
def linesAt (depth : Int) : Source → List String
  | .line text => [indentedLine depth text]
  | .raw text => [text]
  | .blank => [""]
  | .comment text => [indentedLine depth ("// " ++ text)]
  | .block opening closing body =>
    indentedLine depth opening :: allLinesAt (depth + 1) body ++ [indentedLine depth closing]
  | .func signature body =>
    indentedLine depth (funcOpening signature) :: allLinesAt (depth + 1) body ++
      [indentedLine depth "\x7d"]
  | .indented body => allLinesAt (depth + 1) body

def allLinesAt (depth : Int) : List Source → List String
  | [] => []
  | s :: rest => linesAt depth s ++ allLinesAt depth rest

end

/-- The text of the pieces, written from an indentation on. -/
def build (pieces : List Source) (indent : Int := 0) : String := (runAll { indent } pieces).text

end Source

end GoScaffold
