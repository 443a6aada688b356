import GoScaffold.Text.Newline
import Mathlib.Data.List.Infix

/-!
# Texts of whole lines

A text of whole lines is empty or ends with a newline. What follows such a text starts a line of its
own, so lines and everything found inside one line can be told for the two parts separately. What
lacks the line ends stays on its line. A text read with its returns as newlines can be cut wherever
the result can.
-/
namespace GoScaffold.Text

/-- None of the characters stands in the text. -/
def Lacks (cs : List Char) (s : String) : Prop := ∀ c ∈ cs, c ∉ s.toList

instance (cs : List Char) (s : String) : Decidable (Lacks cs s) :=
  List.decidableBAll (fun c : Char => c ∉ s.toList) cs

theorem lacks_append {cs : List Char} {s t : String} :
    Lacks cs (s ++ t) ↔ Lacks cs s ∧ Lacks cs t := by
  simp only [Lacks, String.toList_append, List.mem_append, not_or, ← forall_and]

theorem ne_of_last {x y a b : String} {c d : Char} (ha : a.toList.getLast? = some c)
    (hb : b.toList.getLast? = some d) (hcd : c ≠ d) : x ++ a ≠ y ++ b := by
  intro h
  have hlast := congrArg (fun s => s.toList.getLast?) h
  simp only [String.toList_append, List.getLast?_append, ha, hb, Option.some_or,
    Option.some.injEq] at hlast
  exact hcd hlast

/-- The characters that end a line when a text is read. -/
def lineEnds : List Char := ['\n', '\r']

def spacing : List Char := ['\n', '\r', ' ']

/-- Empty, or with a newline at its end. -/
def WholeLines (cs : List Char) : Prop := cs = [] ∨ ['\n'] <:+ cs

theorem wholeLines_nil : WholeLines [] := Or.inl rfl

theorem wholeLines_newline (cs : List Char) : WholeLines (cs ++ ['\n']) :=
  Or.inr (List.suffix_append _ _)

theorem WholeLines.append {a b : List Char} (ha : WholeLines a) (hb : WholeLines b) :
    WholeLines (a ++ b) := by
  rcases hb with rfl | hb
  · simpa using ha
  · exact Or.inr (hb.trans (List.suffix_append a b))

theorem WholeLines.of_cons {c : Char} {cs : List Char} (h : WholeLines (c :: cs)) :
    (c = '\n' ∧ cs = []) ∨ (cs ≠ [] ∧ WholeLines cs) := by
  rcases h with h | h
  · cases h
  · rcases List.suffix_cons_iff.1 h with h | h
    · simp only [List.cons.injEq] at h
      exact Or.inl ⟨h.1.symm, h.2.symm⟩
    · refine Or.inr ⟨?_, Or.inr h⟩
      rintro rfl
      simp at h

theorem WholeLines.of_append {a b : List Char} (h : WholeLines (a ++ b)) : WholeLines b := by
  by_cases hb : b = []
  · exact Or.inl hb
  · refine Or.inr (List.suffix_of_suffix_length_le (h.resolve_left ?_) (List.suffix_append a b) ?_)
    · exact fun he => hb (List.append_eq_nil_iff.1 he).2
    · exact List.length_pos_iff.2 hb

theorem wholeLines_flatten {ls : List (List Char)} (h : ∀ l ∈ ls, WholeLines l) :
    WholeLines ls.flatten := by
  induction ls with
  | nil => exact wholeLines_nil
  | cons l ls ih =>
    rw [List.flatten_cons]
    exact (h l (by simp)).append (ih fun m hm => h m (by simp [hm]))

theorem lines_append {a : List Char} (ha : WholeLines a) (b : List Char) :
    lines (a ++ b) = lines a ++ lines b := by
  induction a with
  | nil => rfl
  | cons c cs ih =>
    rcases ha.of_cons with ⟨rfl, rfl⟩ | ⟨hne, hcs⟩
    · simp [lines]
    · have ih := ih hcs
      obtain ⟨l, ls, hl⟩ : ∃ l ls, lines cs = l :: ls := by
        cases h : lines cs with
        | nil => exact absurd (by rw [← flatten_lines cs, h]; rfl) hne
        | cons l ls => exact ⟨l, ls, rfl⟩
      by_cases h : c = '\n'
      · simp [lines, h, ih]
      · simp [lines, h, ih, hl]

theorem lines_line {l : List Char} (h : '\n' ∉ l) : lines (l ++ ['\n']) = [l ++ ['\n']] := by
  induction l with
  | nil => rfl
  | cons c l ih =>
    simp only [List.mem_cons, not_or] at h
    simp [lines, Ne.symm h.1, ih h.2]

theorem lines_flatten {ls : List (List Char)} (h : ∀ l ∈ ls, ∃ m, '\n' ∉ m ∧ l = m ++ ['\n']) :
    lines ls.flatten = ls := by
  induction ls with
  | nil => rfl
  | cons l ls ih =>
    obtain ⟨m, hm, rfl⟩ := h l (by simp)
    rw [List.flatten_cons, lines_append (wholeLines_newline m), lines_line hm,
      ih fun k hk => h k (by simp [hk])]
    rfl

theorem ne_nil_of_mem_lines {l cs : List Char} (h : l ∈ lines cs) : l ≠ [] := by
  induction cs generalizing l with
  | nil => simp [lines] at h
  | cons c cs ih =>
    by_cases hc : c = '\n'
    · simp only [lines, hc, if_true, List.mem_cons] at h
      rcases h with rfl | h
      · simp
      · exact ih h
    · simp only [lines, hc, if_false] at h
      cases hl : lines cs with
      | nil => simp_all
      | cons k ks =>
        simp only [hl, List.mem_cons] at h
        rcases h with rfl | h
        · simp
        · exact ih (by simp [hl, h])

theorem mem_of_mem_lines {l cs : List Char} (h : l ∈ lines cs) {c : Char} (hc : c ∈ l) : c ∈ cs := by
  rw [← flatten_lines cs]
  exact List.mem_flatten.2 ⟨l, h, hc⟩

/-- Below the first line of a text that begins on it stand lines of what follows. -/
theorem mem_lines_of_mem_tail {first : List Char} (hfirst : '\n' ∉ first) {rest l : List Char}
    (h : l ∈ (lines (first ++ rest)).tail) : l ∈ lines rest := by
  induction first with
  | nil => exact List.mem_of_mem_tail h
  | cons c first ih =>
    simp only [List.mem_cons, not_or] at hfirst
    refine ih hfirst.2 ?_
    rw [List.cons_append, lines, if_neg (Ne.symm hfirst.1)] at h
    cases hl : lines (first ++ rest) with
    | nil => simp [hl] at h
    | cons m ms => simpa [hl] using h

theorem wholeLines_of_lines {cs : List Char} {above below : List (List Char)} {l : List Char}
    (h : lines cs = above ++ l :: below) : WholeLines above.flatten := by
  induction cs generalizing above with
  | nil => simp [lines] at h
  | cons c cs ih =>
    cases above with
    | nil => exact wholeLines_nil
    | cons k ks =>
      by_cases hc : c = '\n'
      · simp only [lines, hc, if_true, List.cons_append, List.cons.injEq] at h
        rw [List.flatten_cons, ← h.1]
        exact (wholeLines_newline []).append (ih h.2)
      · cases hl : lines cs with
        | nil => simp [lines, hc, hl] at h
        | cons m ms =>
          simp only [lines, hc, if_false, hl, List.cons_append, List.cons.injEq] at h
          obtain ⟨rfl, rfl⟩ := h
          -- the character stands in front of a line that is whole already
          have hwhole : WholeLines (m :: ks).flatten := ih (by rw [hl]; rfl)
          refine hwhole.elim (fun he => ?_) fun hs => Or.inr ?_
          · have hm : m ∈ lines cs := by rw [hl]; exact List.mem_cons_self
            exact absurd (List.append_eq_nil_iff.1 he).1 (ne_nil_of_mem_lines hm)
          · exact hs.trans (List.suffix_cons c _)

theorem lines_of_eq_cons {cs l : List Char} {ls : List (List Char)} (h : lines cs = l :: ls) :
    lines l = [l] ∧ lines ls.flatten = ls := by
  induction cs generalizing l with
  | nil => cases h
  | cons c cs ih =>
    rw [lines] at h
    split at h
    · next hc =>
      obtain ⟨rfl, rfl⟩ := List.cons.inj h
      exact ⟨by simp [lines, hc], by rw [flatten_lines]⟩
    · next hc =>
      split at h
      · obtain ⟨rfl, rfl⟩ := List.cons.inj h
        exact ⟨by simp [lines, hc], rfl⟩
      · next m ms hm =>
        obtain ⟨rfl, rfl⟩ := List.cons.inj h
        obtain ⟨hline, hrest⟩ := ih hm
        exact ⟨by simp [lines, hc, hline], hrest⟩

/-- Lines that are cut behind whole ones are lines on both sides. -/
theorem lines_cut {cs : List Char} {above below : List (List Char)} (h : lines cs = above ++ below)
    (hwhole : WholeLines above.flatten) :
    lines above.flatten = above ∧ lines below.flatten = below := by
  induction above generalizing cs with
  | nil => exact ⟨rfl, by rw [List.nil_append] at h; rw [← h, flatten_lines]⟩
  | cons l above ih =>
    obtain ⟨hline, hrest⟩ := lines_of_eq_cons h
    rw [List.flatten_cons] at hwhole ⊢
    obtain ⟨habove, hbelow⟩ := ih hrest hwhole.of_append
    have hl : WholeLines l := by
      cases above with
      | nil => simpa using hwhole
      | cons k above => simpa using (wholeLines_of_lines h : WholeLines [l].flatten)
    exact ⟨by rw [lines_append hl, hline, habove]; rfl, hbelow⟩

/-- Whole lines in the place of whole lines leave the others as they are. -/
theorem lines_replaced {cs : List Char} {above below : List (List Char)} (old new : List (List Char))
    (h : lines cs = above ++ (old ++ below)) (habove : WholeLines above.flatten)
    (hold : WholeLines old.flatten) (hnew : ∀ l ∈ new, ∃ m, '\n' ∉ m ∧ l = m ++ ['\n']) :
    lines (above ++ (new ++ below)).flatten = above ++ (new ++ below) := by
  have hwhole : WholeLines new.flatten := wholeLines_flatten fun l hl => by
    obtain ⟨m, -, rfl⟩ := hnew l hl
    exact wholeLines_newline m
  obtain ⟨hlines, hrest⟩ := lines_cut h habove
  rw [List.flatten_append, List.flatten_append, lines_append habove, lines_append hwhole, hlines,
    lines_flatten hnew, (lines_cut hrest hold).2]

theorem prefix_append_cons {c : Char} {n : List Char} (hc : c ∉ n) (a b : List Char) :
    n <+: a ++ c :: b ↔ n <+: a := by
  refine ⟨fun h => ?_, fun h => h.trans (List.prefix_append a _)⟩
  induction a generalizing n with
  | nil =>
    cases n with
    | nil => exact List.prefix_rfl
    | cons d n =>
      rw [List.nil_append, List.cons_prefix_cons] at h
      simp [h.1] at hc
  | cons d a ih =>
    cases n with
    | nil => exact List.nil_prefix
    | cons e n =>
      rw [List.cons_append, List.cons_prefix_cons] at h
      rw [List.cons_prefix_cons]
      exact ⟨h.1, ih (fun hn => hc (by simp [hn])) h.2⟩

theorem infix_append_cons {c : Char} {n : List Char} (hc : c ∉ n) (a b : List Char) :
    n <:+: a ++ c :: b ↔ n <:+: a ∨ n <:+: b := by
  induction a with
  | nil =>
    rw [List.nil_append, List.infix_cons_iff, List.infix_nil,
      ← List.prefix_nil, ← prefix_append_cons hc [] b]
    rfl
  | cons d a ih =>
    rw [List.cons_append, List.infix_cons_iff, List.infix_cons_iff, ih, ← List.cons_append,
      prefix_append_cons hc, or_assoc]

/-- A text without newline does not reach from whole lines into what follows them. -/
theorem infix_append_iff {n a : List Char} (hn : '\n' ∉ n) (ha : WholeLines a) (b : List Char) :
    n <:+: a ++ b ↔ n <:+: a ∨ n <:+: b := by
  rcases ha with rfl | ⟨a, rfl⟩
  · simp only [List.nil_append, List.infix_nil]
    refine ⟨Or.inr, fun h => h.elim (fun h => ?_) id⟩
    exact h ▸ List.nil_infix
  · rw [List.append_assoc, List.singleton_append, infix_append_cons hn, infix_append_cons hn]
    refine ⟨?_, ?_⟩
    · rintro (h | h)
      · exact Or.inl (Or.inl h)
      · exact Or.inr h
    · rintro ((h | h) | h)
      · exact Or.inl h
      · rw [List.infix_nil.1 h]
        exact Or.inl List.nil_infix
      · exact Or.inr h

theorem infix_flatten_iff {n : List Char} (hn : '\n' ∉ n) (hne : n ≠ []) {ls : List (List Char)}
    (h : ∀ l ∈ ls, WholeLines l) : n <:+: ls.flatten ↔ ∃ l ∈ ls, n <:+: l := by
  induction ls with
  | nil => simp [hne]
  | cons l ls ih =>
    rw [List.flatten_cons, infix_append_iff hn (h l (by simp)),
      ih fun m hm => h m (by simp [hm])]
    simp

theorem toList_concat (ss : List String) : (concat ss).toList = (ss.map String.toList).flatten := by
  induction ss with
  | nil => rfl
  | cons s ss ih => simp [concat, ih]

theorem contains_iff (s needle : String) :
    contains s needle = true ↔ needle.toList <:+: s.toList := occursIn_iff _ _

theorem contains_eq_false_iff (s needle : String) :
    contains s needle = false ↔ ¬ needle.toList <:+: s.toList := by
  rw [← contains_iff, Bool.not_eq_true]

theorem normalizeNewlines_append_of_no_return {as : List Char} (h : '\r' ∉ as) (bs : List Char) :
    normalizeNewlines (as ++ bs) = as ++ normalizeNewlines bs := by
  induction as with
  | nil => rfl
  | cons a as ih =>
    simp only [List.mem_cons, not_or] at h
    have hcons : ∀ ds, a = '\r' → as ++ bs = '\n' :: ds → False := fun ds hr => absurd hr.symm h.1
    rw [List.cons_append, normalizeNewlines.eq_3 a _ hcons, if_neg (Ne.symm h.1), ih h.2,
      List.cons_append]

/-- A line end is not cut in two in front of a character that is no newline. -/
theorem normalizeNewlines_append_cons {c : Char} (hc : c ≠ '\n') (as bs : List Char) :
    normalizeNewlines (as ++ c :: bs) = normalizeNewlines as ++ normalizeNewlines (c :: bs) := by
  fun_induction normalizeNewlines as with
  | case1 => rfl
  | case2 as ih => rw [List.cons_append, List.cons_append, normalizeNewlines, ih, List.cons_append]
  | case3 a as ha ih =>
    have hcons : ∀ ds, a = '\r' → as ++ c :: bs = '\n' :: ds → False := fun ds hr hds => by
      cases as with
      | nil => exact hc (List.cons.inj hds).1
      | cons d as => exact ha as hr (by rw [(List.cons.inj hds).1])
    rw [List.cons_append, normalizeNewlines.eq_3 a _ hcons, ih, List.cons_append]

theorem exists_append_of_normalizeNewlines {cs a b : List Char}
    (h : normalizeNewlines cs = a ++ b) :
    ∃ as bs, cs = as ++ bs ∧ normalizeNewlines as = a ∧ normalizeNewlines bs = b := by
  fun_induction normalizeNewlines cs generalizing a with
  | case1 =>
    obtain ⟨rfl, rfl⟩ := List.append_eq_nil_iff.1 h.symm
    exact ⟨[], [], rfl, rfl, rfl⟩
  | case2 cs ih =>
    cases a with
    | nil => exact ⟨[], '\r' :: '\n' :: cs, rfl, rfl, by simpa [normalizeNewlines] using h⟩
    | cons c a =>
      simp only [List.cons_append, List.cons.injEq] at h
      obtain ⟨as, bs, rfl, rfl, rfl⟩ := ih h.2
      exact ⟨'\r' :: '\n' :: as, bs, rfl, by rw [normalizeNewlines, h.1], rfl⟩
  | case3 c cs hc ih =>
    cases a with
    | nil =>
      refine ⟨[], c :: cs, rfl, rfl, ?_⟩
      rw [normalizeNewlines.eq_3 c cs hc]
      exact h
    | cons d a =>
      simp only [List.cons_append, List.cons.injEq] at h
      obtain ⟨as, bs, rfl, rfl, rfl⟩ := ih h.2
      -- a return and its newline are never on two sides of the cut
      have has : ∀ ds, c = '\r' → as = '\n' :: ds → False := fun ds hr hd =>
        hc (ds ++ bs) hr (by rw [hd]; rfl)
      exact ⟨c :: as, bs, rfl, by rw [normalizeNewlines.eq_3 c as has, h.1], rfl⟩

theorem exists_append_of_withNewlines {s a b : String} (h : withNewlines s = a ++ b) :
    ∃ s₁ s₂, s = s₁ ++ s₂ ∧ withNewlines s₁ = a ∧ withNewlines s₂ = b := by
  have hlist : normalizeNewlines s.toList = a.toList ++ b.toList := by
    have h := congrArg String.toList h
    rwa [withNewlines, String.toList_ofList, String.toList_append] at h
  obtain ⟨as, bs, hs, ha, hb⟩ := exists_append_of_normalizeNewlines hlist
  refine ⟨.ofList as, .ofList bs, ?_, ?_, ?_⟩
  · rw [← String.ofList_append, ← hs, String.ofList_toList]
  · rw [withNewlines, String.toList_ofList, ha, String.ofList_toList]
  · rw [withNewlines, String.toList_ofList, hb, String.ofList_toList]

theorem withNewlines_of_no_return {s : String} (h : '\r' ∉ s.toList) : withNewlines s = s := by
  rw [withNewlines, normalizeNewlines_of_no_return h, String.ofList_toList]

theorem no_return_withNewlines (s : String) : '\r' ∉ (withNewlines s).toList := by
  rw [withNewlines, String.toList_ofList]
  exact no_return_normalizeNewlines s.toList

end GoScaffold.Text
