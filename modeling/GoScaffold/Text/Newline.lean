import GoScaffold.Text.Split

/-!
# Line ends

Every line end read from a file becomes a newline, and the wider set of line breaks that cuts a
module file into lines.
-/
namespace GoScaffold.Text

/-- A carriage return with its newline, or alone, becomes a newline. -/
def normalizeNewlines : List Char → List Char
  | [] => []
  | '\r' :: '\n' :: cs => '\n' :: normalizeNewlines cs
  | c :: cs => (if c = '\r' then '\n' else c) :: normalizeNewlines cs

def withNewlines (s : String) : String := .ofList (normalizeNewlines s.toList)

/-- A line break of plain text, newline and carriage return included. -/
def isLineBreak (c : Char) : Bool :=
  let n := c.toNat
  (10 ≤ n && n ≤ 13) || (28 ≤ n && n ≤ 30) || n == 0x85 || n == 0x2028 || n == 0x2029

/-- The lines of plain text without their breaks; a break at the end opens no further line. -/
def plainLines : List Char → List (List Char)
  | [] => []
  | '\r' :: '\n' :: cs => [] :: plainLines cs
  | c :: cs =>
    if isLineBreak c then [] :: plainLines cs
    else match cs with
      | [] => [[c]]
      | _ :: _ =>
        match plainLines cs with
        | [] => [[c]]
        | l :: ls => (c :: l) :: ls

theorem normalizeNewlines_of_no_return {cs : List Char} (h : '\r' ∉ cs) :
    normalizeNewlines cs = cs := by
  fun_induction normalizeNewlines cs with
  | case1 => rfl
  | case2 => simp at h
  | case3 c cs _ ih =>
    simp only [List.mem_cons, not_or] at h
    simp [ih h.2, Ne.symm h.1]

theorem no_return_normalizeNewlines (cs : List Char) : '\r' ∉ normalizeNewlines cs := by
  fun_induction normalizeNewlines cs with
  | case1 => simp
  | case2 cs ih => simp [ih]
  | case3 c cs _ ih => by_cases h : c = '\r' <;> simp_all [eq_comm]

end GoScaffold.Text
