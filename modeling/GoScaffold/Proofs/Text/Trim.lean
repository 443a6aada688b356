import GoScaffold.Text.Blank
import Mathlib.Data.List.DropRight

/-!
# Trimmed texts

Trimming at the end stops at the last character that is kept, and trimming twice is trimming once.
-/
namespace GoScaffold.Text

theorem trimEndWhile_eq_nil (p : Char → Bool) (cs : List Char) :
    trimEndWhile p cs = [] ↔ ∀ c ∈ cs, p c = true := by
  simp [trimEndWhile]

theorem trimEndWhile_prefix (p : Char → Bool) (cs : List Char) : trimEndWhile p cs <+: cs := by
  have h := List.dropWhile_suffix p (l := cs.reverse)
  simpa [trimEndWhile] using List.reverse_prefix.2 h

theorem exists_trimEndWhile (p : Char → Bool) (cs : List Char) :
    ∃ tail, cs = trimEndWhile p cs ++ tail ∧ ∀ c ∈ tail, p c = true := by
  refine ⟨(cs.reverse.takeWhile p).reverse, ?_, fun c hc =>
    List.mem_takeWhile_imp (List.mem_reverse.1 hc)⟩
  rw [trimEndWhile, ← List.reverse_append, List.takeWhile_append_dropWhile, List.reverse_reverse]

theorem trimEndWhile_append {p : Char → Bool} {b : List Char} (a : List Char)
    (hb : ¬ ∀ c ∈ b, p c = true) : trimEndWhile p (a ++ b) = a ++ trimEndWhile p b := by
  have hne : b.reverse.dropWhile p ≠ [] := fun h =>
    hb ((trimEndWhile_eq_nil p b).1 (by rw [trimEndWhile, h]; rfl))
  simp [trimEndWhile, List.dropWhile_append, hne]

theorem trimEndWhile_append_of_all {p : Char → Bool} {b : List Char} (a : List Char)
    (hb : ∀ c ∈ b, p c = true) : trimEndWhile p (a ++ b) = trimEndWhile p a := by
  have h : b.reverse.dropWhile p = [] :=
    List.dropWhile_eq_nil_iff.2 fun c hc => hb c (List.mem_reverse.1 hc)
  simp [trimEndWhile, List.dropWhile_append, h]

theorem trimEndWhile_cons (p : Char → Bool) (c : Char) (cs : List Char) :
    trimEndWhile p (c :: cs) =
      if cs.all p = true ∧ p c = true then [] else c :: trimEndWhile p cs := by
  by_cases hall : cs.all p = true
  · have hcs := List.all_eq_true.1 hall
    have h := trimEndWhile_append_of_all [c] hcs
    rw [List.singleton_append] at h
    rw [h, (trimEndWhile_eq_nil p cs).2 hcs]
    by_cases hc : p c = true
    · rw [if_pos ⟨hall, hc⟩]
      simp [trimEndWhile, hc]
    · rw [if_neg fun hand => hc hand.2]
      simp [trimEndWhile, hc]
  · rw [if_neg fun hand => hall hand.1]
    exact trimEndWhile_append [c] fun hcs => hall (List.all_eq_true.2 hcs)

theorem trimEndWhile_idem (p : Char → Bool) (cs : List Char) :
    trimEndWhile p (trimEndWhile p cs) = trimEndWhile p cs := by
  simp [trimEndWhile, List.dropWhile_idempotent]

theorem eq_nil_of_trimEndWhile {p : Char → Bool} {cs a b : List Char} (h : trimEndWhile p cs = a ++ b)
    (hb : ∀ c ∈ b, p c = true) : b = [] := by
  have hidem := trimEndWhile_idem p cs
  rw [h, trimEndWhile_append_of_all a hb] at hidem
  have hlength := List.IsPrefix.length_le ( trimEndWhile_prefix p a)
  rw [hidem, List.length_append] at hlength
  exact List.eq_nil_of_length_eq_zero (by omega)

theorem dropWhile_trimEndWhile (p : Char → Bool) (cs : List Char) :
    (trimEndWhile p cs).dropWhile p = trimEndWhile p (cs.dropWhile p) := by
  induction cs with
  | nil => rfl
  | cons c cs ih =>
    rw [trimEndWhile_cons]
    by_cases hc : p c = true
    · by_cases hcs : cs.all p = true
      · have hdrop : cs.dropWhile p = [] :=
          List.dropWhile_eq_nil_iff.2 (List.all_eq_true.1 hcs)
        rw [if_pos ⟨hcs, hc⟩, List.dropWhile_cons_of_pos hc, hdrop]
        rfl
      · rw [if_neg fun hand => hcs hand.1, List.dropWhile_cons_of_pos hc,
          List.dropWhile_cons_of_pos hc, ih]
    · rw [if_neg fun hand => hc hand.2, List.dropWhile_cons_of_neg hc,
        List.dropWhile_cons_of_neg hc, trimEndWhile_cons, if_neg fun hand => hc hand.2]

theorem trimWhile_trimEndWhile (p : Char → Bool) (cs : List Char) :
    trimWhile p (trimEndWhile p cs) = trimWhile p cs := by
  rw [trimWhile, trimWhile, dropWhile_trimEndWhile, trimEndWhile_idem]

theorem trimWhile_append_of_all {p : Char → Bool} {b : List Char} (a : List Char)
    (hb : ∀ c ∈ b, p c = true) : trimWhile p (a ++ b) = trimWhile p a := by
  rw [← trimWhile_trimEndWhile, trimEndWhile_append_of_all a hb, trimWhile_trimEndWhile]

theorem mem_of_mem_trimWhile {p : Char → Bool} {cs : List Char} {c : Char} (h : c ∈ trimWhile p cs) :
    c ∈ cs := by
  have htrimmed := trimEndWhile_prefix p (cs.dropWhile p)
  exact (List.dropWhile_sublist _).subset (htrimmed.subset h)

theorem infix_dropWhile {p : Char → Bool} {kept cs : List Char} (hkept : ∀ c ∈ kept, p c = false)
    (h : kept <:+: cs) : kept <:+: cs.dropWhile p := by
  cases kept with
  | nil => exact List.nil_infix
  | cons c kept =>
    obtain ⟨front, back, rfl⟩ := h
    rw [List.append_assoc, List.dropWhile_append]
    split
    · rw [List.cons_append, List.dropWhile_cons_of_neg (by simp [hkept c])]
      exact ⟨[], back, rfl⟩
    · exact ⟨front.dropWhile p, back, List.append_assoc ..⟩

/-- What stands together and is not to be trimmed stays together. -/
theorem infix_trimWhile {p : Char → Bool} {kept cs : List Char} (hkept : ∀ c ∈ kept, p c = false)
    (h : kept <:+: cs) : kept <:+: trimWhile p cs := by
  have hreversed : kept.reverse <:+: (cs.dropWhile p).reverse.dropWhile p :=
    infix_dropWhile (by simpa using hkept) (List.reverse_infix.2 (infix_dropWhile hkept h))
  rw [trimWhile, trimEndWhile, ← List.reverse_infix, List.reverse_reverse]
  exact hreversed

theorem mem_trimWhile {p : Char → Bool} {cs : List Char} {c : Char} (h : c ∈ cs) (hc : p c = false) :
    c ∈ trimWhile p cs := by
  obtain ⟨front, back, rfl⟩ := List.append_of_mem h
  have hc' : ∀ d ∈ [c], p d = false := by simpa using hc
  have hkept : [c] <:+: trimWhile p (front ++ c :: back) :=
    infix_trimWhile hc' ⟨front, back, by rw [List.append_assoc, List.singleton_append]⟩
  exact hkept.subset (List.mem_singleton_self c)

theorem trimWhile_eq_nil_iff {p : Char → Bool} {cs : List Char} :
    trimWhile p cs = [] ↔ ∀ c ∈ cs, p c = true := by
  rw [trimWhile, trimEndWhile_eq_nil]
  induction cs with
  | nil => simp
  | cons c cs ih => by_cases h : p c = true <;> simp [h, ih]

theorem trimEndWhile_of_trimWhile {p : Char → Bool} {cs : List Char} (h : trimWhile p cs = cs) :
    trimEndWhile p cs = cs := by
  calc trimEndWhile p cs = trimEndWhile p (trimWhile p cs) := by rw [h]
    _ = trimWhile p cs := trimEndWhile_idem p _
    _ = cs := h

theorem trimWhile_of_forall_not {p : Char → Bool} {cs : List Char} (h : ∀ c ∈ cs, p c = false) :
    trimWhile p cs = cs := by
  have hdrop (ds : List Char) (hds : ∀ c ∈ ds, p c = false) : ds.dropWhile p = ds := by
    cases ds with
    | nil => rfl
    | cons d ds => simp [hds d (by simp)]
  rw [trimWhile, hdrop cs h, trimEndWhile, hdrop _ (by simpa using h), List.reverse_reverse]

/-- What encloses a text is trimmed away. -/
theorem trimWhile_enclosed {p : Char → Bool} {c : Char} {cs : List Char} (hc : p c = true)
    (h : ∀ d ∈ cs, p d = false) : trimWhile p (c :: (cs ++ [c])) = cs := by
  have hinner : trimWhile p (c :: (cs ++ [c])) = trimWhile p (cs ++ [c]) := by
    rw [trimWhile, trimWhile, List.dropWhile_cons_of_pos hc]
  rw [hinner, trimWhile_append_of_all cs (by simpa using hc), trimWhile_of_forall_not h]

/-- Between a character that is kept and a trimmed text there is nothing to trim. -/
theorem trimWhile_cons_append {p : Char → Bool} {c : Char} {cs : List Char} (hc : p c = false)
    (hcs : trimWhile p cs = cs) (hne : cs ≠ []) (inner : List Char) :
    trimWhile p (c :: (inner ++ cs)) = c :: (inner ++ cs) := by
  have hkept : ¬ ∀ d ∈ cs, p d = true := fun hall => hne <| by
    rw [← trimEndWhile_of_trimWhile hcs]
    exact (trimEndWhile_eq_nil p cs).2 hall
  have hend := trimEndWhile_append (c :: inner) hkept
  rw [trimEndWhile_of_trimWhile hcs, List.cons_append] at hend
  rw [trimWhile, List.dropWhile_cons_of_neg (by simp [hc]), hend]

/-- What stands in front of a text that is not trimmed away is trimmed away only as a whole. -/
theorem trimWhile_append_eq_iff {p : Char → Bool} {b : List Char} (a : List Char)
    (hb : ¬ ∀ c ∈ b, p c = true) : trimWhile p (a ++ b) = trimWhile p b ↔ ∀ c ∈ a, p c = true := by
  refine ⟨fun h => ?_, fun ha => ?_⟩
  · by_contra ha
    have hrest : a.dropWhile p ≠ [] := fun hnil => ha (List.dropWhile_eq_nil_iff.1 hnil)
    have hdrop : (a ++ b).dropWhile p = a.dropWhile p ++ b := by
      simp [List.dropWhile_append, hrest]
    rw [trimWhile, trimWhile, hdrop, trimEndWhile_append _ hb, ← dropWhile_trimEndWhile] at h
    have hlength := congrArg List.length h
    have hshorter := (List.dropWhile_suffix p (l := trimEndWhile p b)).length_le
    have hpositive := List.length_pos_iff.2 hrest
    rw [List.length_append] at hlength
    omega
  · have hdrop : (a ++ b).dropWhile p = b.dropWhile p := by
      simp [List.dropWhile_append, List.dropWhile_eq_nil_iff.2 ha]
    rw [trimWhile, trimWhile, hdrop]

end GoScaffold.Text
