import GoScaffold.GoSource.Block
import GoScaffold.GoSource.Imports
import GoScaffold.Proofs.Text.Lines
import GoScaffold.Proofs.Text.Numeral
import GoScaffold.Template.Builtin

/-!
# Source as lines

A writer puts down the lines that the pieces have at its depth, and is left at that depth. It counts
up and down as it enters and leaves a scope, where the tree of the pieces tells the depth of each line
at once; both give the same text. The head of a file consists of lines too.
-/
namespace GoScaffold

open GoScaffold.Text GoScaffold.Template

theorem textOf_append (xs ys : List String) : textOf (xs ++ ys) = textOf xs ++ textOf ys := by
  simp [textOf]

theorem lines_textOf {ls : List String} (h : ∀ l ∈ ls, '\n' ∉ l.toList) :
    lines (textOf ls).toList = ls.map (·.toList ++ ['\n']) := by
  have htext : (textOf ls).toList = (ls.map (·.toList ++ ['\n'])).flatten := by
    simp [textOf, toList_concat, Function.comp_def]
  rw [htext, lines_flatten]
  exact List.forall_mem_map.2 fun l hl => ⟨l.toList, h l hl, rfl⟩

/-- An import block behind a blank line, or nothing if nothing is imported. -/
def importLines (imports : List String) : List String :=
  if imports.isEmpty then []
  else "" :: "import (" :: imports.map (fun i => "\t\"" ++ i ++ "\"") ++ [")"]

def headerLines (package : String) (imports : List String) : List String :=
  ("package " ++ package) :: importLines imports ++ [""]

theorem goHeader_eq (package : String) (imports : List String) :
    goHeader package imports = textOf (headerLines package imports) := by
  have hentries : (imports.map fun i => "\t\"" ++ i ++ "\"" ++ "\n") = imports.map importEntry := by
    refine List.map_congr_left fun i _ => ?_
    simp [importEntry, ← String.toList_inj]
  rw [goHeader, headerLines, importLines, importBlock, ← String.toList_inj]
  split
  · simp [textOf, concat]
  · simp [textOf, concat, Function.comp_def, hentries]

theorem head_headerLines (package : String) (imports : List String) :
    ∀ l ∈ headerLines package imports, l.toList.head?.all (['p', 'i', '\t', ')'].contains ·) = true := by
  simp only [headerLines, importLines]
  split
  · simp
  · simp only [List.cons_append, List.forall_mem_append, List.forall_mem_cons, List.forall_mem_map]
    simp

theorem lacks_importLines {cs : List Char}
    (hcs : ∀ s ∈ ["", "import (", "\t\"", "\"", ")"], Lacks cs s) {imports : List String}
    (hi : ∀ i ∈ imports, Lacks cs i) : ∀ l ∈ importLines imports, Lacks cs l := by
  simp only [List.forall_mem_cons] at hcs
  rw [importLines]
  split
  · simp
  · simp only [List.cons_append, List.forall_mem_append, List.forall_mem_cons, List.forall_mem_map,
      lacks_append, hcs, true_and, and_true]
    exact ⟨hi, by simp⟩

theorem lacks_headerLines {cs : List Char}
    (hcs : ∀ s ∈ ["", "import (", "\t\"", "\"", ")"], Lacks cs s) {package : String}
    (hpackage : Lacks cs ("package " ++ package)) {imports : List String}
    (hi : ∀ i ∈ imports, Lacks cs i) : ∀ l ∈ headerLines package imports, Lacks cs l := by
  simp only [headerLines, List.cons_append, List.forall_mem_append, List.forall_mem_cons]
  exact ⟨hpackage, lacks_importLines hcs hi, hcs "" (by simp), by simp⟩

namespace Source

mutual

theorem run_eq (w : Writer) (s : Source) :
    run w s = { w with written := (linesAt w.indent s).reverse ++ w.written } := by
  match s with
  | .line text | .raw text | .blank | .comment text => rfl
  | .block opening closing body | .func signature body =>
    rw [run, runAll_eq]
    simp [linesAt, Writer.line, Writer.deeper, Writer.shallower]
  | .indented body =>
    rw [run, runAll_eq]
    simp [linesAt, Writer.deeper, Writer.shallower]

theorem runAll_eq (w : Writer) (pieces : List Source) :
    runAll w pieces = { w with written := (allLinesAt w.indent pieces).reverse ++ w.written } := by
  match pieces with
  | [] => rfl
  | s :: rest =>
    rw [runAll, run_eq, runAll_eq]
    simp [allLinesAt]

end

theorem join_newline {ls : List String} (h : ls ≠ []) : join "\n" ls ++ "\n" = textOf ls := by
  induction ls with
  | nil => exact absurd rfl h
  | cons l ls ih =>
    cases ls with
    | nil => simp [join, textOf, concat]
    | cons m ls =>
      have ih := ih (List.cons_ne_nil m ls)
      rw [join, String.append_assoc, ih]
      simp [textOf, concat]

/-- The text of the pieces consists of their lines. -/
theorem build_eq (pieces : List Source) (indent : Int) :
    build pieces indent = textOf (allLinesAt indent pieces) := by
  rw [build, runAll_eq, Writer.text]
  by_cases h : allLinesAt indent pieces = []
  · simp [h, textOf, concat]
  · simp [h, join_newline]

end Source

/-- A line with the number of scopes around it, or one that is put down as it is. -/
inductive NestedLine where
  | nested (depth : Nat) (text : String)
  | raw (text : String)
  deriving Repr, DecidableEq

namespace NestedLine

/-- The line in a text that is indented as a whole. An empty line stays empty. -/
def render (indent : Nat) : NestedLine → String
  | .nested depth text =>
    if text = "" then "" else .ofList (List.replicate (indent + depth) '\t') ++ text
  | .raw text => text

/-- The lines of a block: its first and its last line stand as deep as the block itself. -/
def enclose (depth : Nat) (opening closing : String) (inner : List NestedLine) : List NestedLine :=
  .nested depth opening :: inner ++ [.nested depth closing]

end NestedLine

namespace Source

open NestedLine

mutual

/-- The lines of a piece with a number of scopes around it. -/
def nestedLines (depth : Nat) : Source → List NestedLine
  | .line text => [.nested depth text]
  | .raw text => [.raw text]
  | .blank => [.nested depth ""]
  | .comment text => [.nested depth ("// " ++ text)]
  | .block opening closing body => enclose depth opening closing (allNestedLines (depth + 1) body)
  | .func signature body =>
    enclose depth ("func " ++ signature ++ " \x7b") "\x7d" (allNestedLines (depth + 1) body)
  | .indented body => allNestedLines (depth + 1) body

def allNestedLines (depth : Nat) : List Source → List NestedLine
  | [] => []
  | s :: rest => nestedLines depth s ++ allNestedLines depth rest

end

theorem times_tab (n : Nat) : times n "\t" = .ofList (List.replicate n '\t') := by
  rw [← String.toList_inj, toList_times (c := '\t') rfl, String.toList_ofList]

theorem indentedLine_eq (indent depth : Nat) (text : String) :
    indentedLine ↑(indent + depth) text = (NestedLine.nested depth text).render indent := by
  rw [indentedLine, Int.toNat_natCast, times_tab, render]

theorem depth_succ (indent depth : Nat) :
    ((indent + depth : Nat) : Int) + 1 = ↑(indent + (depth + 1)) := by
  rw [← Nat.add_assoc, Int.natCast_succ]

/-! The depth at which a writer stands is its first indentation and the number of open scopes. -/

mutual

theorem linesAt_eq_render (indent depth : Nat) (s : Source) :
    linesAt ↑(indent + depth) s = (nestedLines depth s).map (render indent) := by
  match s with
  | .line text | .comment text =>
    rw [linesAt, nestedLines, List.map_singleton, ← indentedLine_eq]
  | .raw text | .blank => rfl
  | .block opening closing body | .func signature body =>
    rw [linesAt, nestedLines, depth_succ, allLinesAt_eq_render, indentedLine_eq, indentedLine_eq]
    simp [enclose, funcOpening]
  | .indented body => rw [linesAt, nestedLines, depth_succ, allLinesAt_eq_render]

theorem allLinesAt_eq_render (indent depth : Nat) (pieces : List Source) :
    allLinesAt ↑(indent + depth) pieces = (allNestedLines depth pieces).map (render indent) := by
  match pieces with
  | [] => rfl
  | s :: rest =>
    rw [allLinesAt, allNestedLines, List.map_append, linesAt_eq_render, allLinesAt_eq_render]

end

/-- A writer that starts at an indentation puts down the lines of the tree, each as much deeper as
scopes stand around it, and each piece leaves a writer at the indentation where it found it. -/
theorem build_nested (pieces : List Source) (indent : Nat) :
    (build pieces indent =
        if allNestedLines 0 pieces = [] then ""
        else join "\n" ((allNestedLines 0 pieces).map (render indent)) ++ "\n") ∧
      ∀ (w : Writer) (s : Source), (run w s).indent = w.indent := by
  have hlines : allLinesAt indent pieces = (allNestedLines 0 pieces).map (render indent) :=
    allLinesAt_eq_render indent 0 pieces
  refine ⟨?_, fun w s => by rw [run_eq]⟩
  rw [build, runAll_eq, Writer.text, hlines]
  simp

example : build [.func "f()" [.indented [.line "x", .line ""], .raw " y"]] 1 =
    "\tfunc f() \x7b\n\t\t\tx\n\n y\n\t\x7d\n" := by decide

end Source

end GoScaffold
