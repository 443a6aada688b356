import GoScaffold.Proofs.Text.Lines
import Mathlib

/-!
# Occurrences of a text in another

How often a text starts somewhere in another one. Across lines the occurrences of a text of one line
add up; in a line they are decided by its words.
-/
namespace GoScaffold.Text

/-- The number of places at which a text starts. -/
def occurrences (n : List Char) : List Char → Nat
  | [] => if n.isEmpty then 1 else 0
  | c :: cs => (if n.isPrefixOf (c :: cs) then 1 else 0) + occurrences n cs

section Occurrences

variable {n : List Char}

theorem occurrences_cons (n : List Char) (c : Char) (cs : List Char) :
    occurrences n (c :: cs) = (if n <+: c :: cs then 1 else 0) + occurrences n cs := by
  rw [occurrences]
  simp [List.isPrefixOf_iff_prefix]

theorem occurrences_nil (hne : n ≠ []) : occurrences n [] = 0 := by
  simp [occurrences, hne]

theorem occurrences_eq_zero_iff (hne : n ≠ []) (cs : List Char) :
    occurrences n cs = 0 ↔ ¬ n <:+: cs := by
  induction cs with
  | nil => simp [occurrences_nil hne, hne]
  | cons c cs ih =>
    rw [occurrences_cons, Nat.add_eq_zero_iff, ih, List.infix_cons_iff, not_or]
    simp

theorem occurrences_append_cons {c : Char} (hc : c ∉ n) (hne : n ≠ []) (a b : List Char) :
    occurrences n (a ++ c :: b) = occurrences n a + occurrences n b := by
  induction a with
  | nil =>
    have hp : ¬ n <+: c :: b := by
      rw [← List.nil_append (c :: b), prefix_append_cons hc, List.prefix_nil]
      exact hne
    rw [List.nil_append, occurrences_cons, if_neg hp, occurrences_nil hne]
  | cons d a ih =>
    have hp : n <+: d :: (a ++ c :: b) ↔ n <+: d :: a := by
      rw [← List.cons_append, prefix_append_cons hc]
    simp only [List.cons_append, occurrences_cons, ih, hp, Nat.add_assoc]

/-- The occurrences of a text of one line add up over the lines. -/
theorem occurrences_lines (hn : '\n' ∉ n) (hne : n ≠ []) (ls : List (List Char)) :
    occurrences n (ls.map (· ++ ['\n'])).flatten = (ls.map (occurrences n)).sum := by
  induction ls with
  | nil => exact occurrences_nil hne
  | cons l ls ih =>
    rw [List.map_cons, List.flatten_cons, List.append_assoc, List.singleton_append,
      occurrences_append_cons hn hne, ih, List.map_cons, List.sum_cons]

/-- A text whose first character stands only at the start of a line. -/
theorem occurrences_of_not_mem {c : Char} {cs : List Char} (hc : c ∉ cs) (n : List Char) :
    occurrences (c :: n) cs = 0 := by
  rw [occurrences_eq_zero_iff (by simp)]
  exact fun h => hc (h.subset (by simp))

theorem occurrences_head {c : Char} {cs : List Char} (hc : c ∉ cs) (n : List Char) :
    occurrences (c :: n) (c :: cs) = if n <+: cs then 1 else 0 := by
  rw [occurrences_cons, occurrences_of_not_mem hc, Nat.add_zero]
  simp [List.cons_prefix_cons]

end Occurrences

/-- Two texts start with the same word if their words up to the first blank are the same. -/
theorem word_prefix_iff {x y : List Char} (hx : ' ' ∉ x) (hy : ' ' ∉ y) (r z : List Char) :
    x ++ ' ' :: r <+: y ++ ' ' :: z ↔ x = y ∧ r <+: z := by
  induction x generalizing y with
  | nil =>
    cases y with
    | nil => simp [List.cons_prefix_cons]
    | cons d y =>
      simp only [List.mem_cons, not_or] at hy
      simp [List.cons_prefix_cons, hy.1]
  | cons c x ih =>
    simp only [List.mem_cons, not_or] at hx
    cases y with
    | nil => simp [List.cons_prefix_cons, Ne.symm hx.1]
    | cons d y =>
      simp only [List.mem_cons, not_or] at hy
      rw [List.cons_append, List.cons_append, List.cons_prefix_cons, ih hx.2 hy.2,
        List.cons.injEq, and_assoc]

/-- In a line whose only tab is at its start, a tab and a word are found if the line starts with
that word. -/
theorem occurrences_tabbed {x y z : List Char} (hx : ' ' ∉ x) (hy : ' ' ∉ y) (hyt : '\t' ∉ y)
    (hzt : '\t' ∉ z) :
    occurrences ('\t' :: (x ++ [' '])) ('\t' :: (y ++ ' ' :: z)) = if x = y then 1 else 0 := by
  rw [occurrences_head (by simp [hyt, hzt])]
  simp [word_prefix_iff hx hy]

theorem append_ne_append {s t : List Char} (hst : ¬ s <:+ t) (hts : ¬ t <:+ s) (a b : List Char) :
    a ++ s ≠ b ++ t := by
  intro h
  have hs : s <:+ b ++ t := h ▸ List.suffix_append a s
  exact (List.suffix_or_suffix_of_suffix hs (List.suffix_append b t)).elim hst hts

theorem ne_of_endings {s t : String} (hst : ¬ s.toList <:+ t.toList) (hts : ¬ t.toList <:+ s.toList)
    (a b : String) : a ++ s ≠ b ++ t := by
  rw [Ne, ← String.toList_inj, String.toList_append, String.toList_append]
  exact append_ne_append hst hts _ _

theorem affixes_inj {a s x y : String} : a ++ x ++ s = a ++ y ++ s ↔ x = y := by
  simp [← String.toList_inj]

theorem ending_inj {s x y : String} : x ++ s = y ++ s ↔ x = y := by
  simp [← String.toList_inj]

def capitalBehind (blank : Bool) : List Char → Bool
  | [] => false
  | c :: cs => (blank && c.isUpper) || capitalBehind (c == ' ') cs

theorem capitalBehind_append {w : List Char} (hw : ' ' ∉ w) (cs : List Char) :
    capitalBehind false (w ++ cs) = capitalBehind false cs := by
  induction w with
  | nil => rfl
  | cons c w ih =>
    simp only [List.mem_cons, not_or] at hw
    have hc : (c == ' ') = false := by simpa using Ne.symm hw.1
    rw [List.cons_append, capitalBehind, hc, ih hw.2]
    rfl

theorem capitalBehind_newline (blank : Bool) (a b : List Char) :
    capitalBehind blank (a ++ '\n' :: b) = (capitalBehind blank a || capitalBehind false b) := by
  induction a generalizing blank with
  | nil => simp [capitalBehind]
  | cons c a ih => rw [List.cons_append, capitalBehind, capitalBehind, ih, Bool.or_assoc]

theorem capitalBehind_of_inside {c : Char} (hc : c.isUpper = true) {cs : List Char}
    (h : [' ', c] <:+: cs) (blank : Bool) : capitalBehind blank cs = true := by
  induction cs generalizing blank with
  | nil => simp at h
  | cons d cs ih =>
    rcases List.infix_cons_iff.1 h with h | h
    · obtain ⟨t, ht⟩ := h
      simp only [List.cons_append, List.nil_append, List.cons.injEq] at ht
      obtain ⟨rfl, rfl⟩ := ht
      simp [capitalBehind, hc]
    · rw [capitalBehind, ih h, Bool.or_true]

/-- A text with a capital behind a blank is not found where there is none. -/
theorem occurrences_of_capitalBehind {c : Char} (hc : c.isUpper = true) (a r : List Char)
    {cs : List Char} (h : capitalBehind false cs = false) :
    occurrences (a ++ ' ' :: c :: r) cs = 0 := by
  rw [occurrences_eq_zero_iff (by simp)]
  intro hin
  have hword : [' ', c] <:+: a ++ ' ' :: c :: r := ⟨a, r, by simp⟩
  rw [capitalBehind_of_inside hc (hword.trans hin)] at h
  cases h

/-- The line that declares a type is found by the declaration up to its brace. -/
theorem occurrences_typeLine {c : Char} (hc : c.isUpper = true) {w w' : List Char}
    (hw : ' ' ∉ c :: w) (hw' : ' ' ∉ w') {kind : List Char}
    (hkind : capitalBehind true (kind ++ [' ', '\x7b']) = false) :
    occurrences ("type ".toList ++ ((c :: w) ++ ' ' :: kind))
        ("type ".toList ++ (w' ++ ' ' :: (kind ++ [' ', '\x7b']))) =
      if c :: w = w' then 1 else 0 := by
  have hrest : occurrences ("type ".toList ++ ((c :: w) ++ ' ' :: kind))
      (w' ++ ' ' :: (kind ++ [' ', '\x7b'])) = 0 := by
    refine occurrences_of_capitalBehind hc ['t', 'y', 'p', 'e'] (w ++ ' ' :: kind) ?_
    rw [capitalBehind_append hw']
    exact hkind
  have hfirst : (c :: w) ++ ' ' :: kind <+: w' ++ ' ' :: (kind ++ [' ', '\x7b']) ↔ c :: w = w' := by
    rw [word_prefix_iff hw hw']
    simp
  have htype : "type ".toList = ['t', 'y', 'p', 'e', ' '] := rfl
  rw [htype] at hrest ⊢
  simp only [List.cons_append, List.nil_append, occurrences_cons, List.cons_prefix_cons,
    Char.reduceEq, false_and, true_and, if_false, Nat.zero_add] at hrest hfirst ⊢
  simp only [hrest, hfirst, Nat.add_zero]

end GoScaffold.Text
