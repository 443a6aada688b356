import GoScaffold.Proofs.Text.Lines

/-!
# Lines of plain text

A line of plain text goes up to the next break, of whatever kind. It does not matter to the lines
whether their returns have been read as newlines.
-/
namespace GoScaffold.Text

/-- Text within a line. -/
def IsOnOneLine (cs : List Char) : Prop := ∀ c ∈ cs, isLineBreak c = false

instance (cs : List Char) : Decidable (IsOnOneLine cs) :=
  List.decidableBAll (fun c => isLineBreak c = false) cs

theorem isBlank_of_isLineBreak {c : Char} (h : isLineBreak c = true) : isBlank c = true := by
  simp only [isLineBreak, isBlank, Bool.or_eq_true, Bool.and_eq_true, decide_eq_true_eq,
    beq_iff_eq] at h ⊢
  omega

theorem plainLines_ne_nil {cs : List Char} (h : cs ≠ []) : plainLines cs ≠ [] := by
  fun_induction plainLines cs <;> simp_all

/-- Unless it is a return and its newline follows, a character ends an empty line or stands in front
of the first one. -/
theorem plainLines_cons {c : Char} {cs : List Char} (h : ∀ ds, c = '\r' → cs ≠ '\n' :: ds) :
    plainLines (c :: cs) = if isLineBreak c then [] :: plainLines cs
      else (c :: (plainLines cs).headD []) :: (plainLines cs).tail := by
  cases cs with
  | nil => simp [plainLines]
  | cons d ds =>
    obtain ⟨l, ls, hl⟩ := List.exists_cons_of_ne_nil (plainLines_ne_nil (List.cons_ne_nil d ds))
    rw [plainLines.eq_4 c d ds h, hl]
    rfl

section Cons

variable {c : Char} {cs : List Char}

theorem plainLines_cons_break (hc : isLineBreak c = true) (h : ∀ ds, c = '\r' → cs ≠ '\n' :: ds) :
    plainLines (c :: cs) = [] :: plainLines cs := by
  rw [plainLines_cons h, if_pos hc]

theorem plainLines_cons_inline (hc : isLineBreak c = false) :
    plainLines (c :: cs) = (c :: (plainLines cs).headD []) :: (plainLines cs).tail := by
  have hreturn : c ≠ '\r' := by
    rintro rfl
    exact absurd hc (by decide)
  rw [plainLines_cons fun _ hr => absurd hr hreturn, hc, if_neg Bool.false_ne_true]

theorem headD_plainLines (h : ∀ c ∈ cs.head?, isLineBreak c = true) : (plainLines cs).headD [] = [] := by
  cases cs with
  | nil => rfl
  | cons c cs =>
    by_cases hreturn : c = '\r' ∧ cs.head? = some '\n'
    · obtain ⟨rfl, hnewline⟩ := hreturn
      obtain ⟨ds, rfl⟩ := List.head?_eq_some_iff.1 hnewline
      rw [plainLines]
      rfl
    · rw [plainLines_cons_break (h c rfl) fun ds hr hn => hreturn ⟨hr, by rw [hn]; rfl⟩]
      rfl

end Cons

theorem plainLines_line_append {line rest : List Char} (hne : line ≠ []) (hline : IsOnOneLine line)
    (hrest : ∀ c ∈ rest.head?, isLineBreak c = true) :
    plainLines (line ++ rest) = line :: (plainLines rest).tail := by
  induction line with
  | nil => exact absurd rfl hne
  | cons c line ih =>
    obtain ⟨hc, hline⟩ := List.forall_mem_cons.1 hline
    rw [List.cons_append, plainLines_cons_inline hc]
    cases line with
    | nil => rw [List.nil_append, headD_plainLines hrest]
    | cons d line => rw [ih (by simp) hline, List.headD_cons, List.tail_cons]

theorem plainLines_append {above rest : List Char}
    (habove : ∀ c ∈ above.getLast?, isLineBreak c = true) (hrest : rest.head? ≠ some '\n') :
    plainLines (above ++ rest) = plainLines above ++ plainLines rest := by
  -- a return is taken together with the newline behind it, as where these are read as one
  induction above using normalizeNewlines.induct with
  | case1 => rfl
  | case2 cs ih =>
    have hlast : ∀ c ∈ cs.getLast?, isLineBreak c = true := fun c hc =>
      habove c (by simp [List.getLast?_cons, Option.mem_def.1 hc])
    rw [List.cons_append, List.cons_append, plainLines, plainLines, ih hlast, List.cons_append]
  | case3 c cs hnot ih =>
    have hboth (ds : List Char) (hr : c = '\r') : cs ++ rest ≠ '\n' :: ds := fun he => by
      cases cs with
      | nil => exact hrest (by rw [← List.nil_append rest, he]; rfl)
      | cons d cs => exact hnot cs hr (by rw [(List.cons.inj he).1])
    have hlast : ∀ d ∈ cs.getLast?, isLineBreak d = true := fun d hd =>
      habove d (by simp [List.getLast?_cons, Option.mem_def.1 hd])
    rw [List.cons_append, plainLines_cons hboth, plainLines_cons hnot, ih hlast]
    by_cases hc : isLineBreak c = true
    · simp only [hc, if_true, List.cons_append]
    · have hne : cs ≠ [] := by
        rintro rfl
        exact hc (habove c rfl)
      obtain ⟨l, ls, hl⟩ := List.exists_cons_of_ne_nil (plainLines_ne_nil hne)
      simp only [hc, if_false, hl, List.cons_append, List.headD_cons, List.tail_cons,
        Bool.false_eq_true]

theorem plainLines_normalizeNewlines (cs : List Char) :
    plainLines (normalizeNewlines cs) = plainLines cs := by
  fun_induction normalizeNewlines cs with
  | case1 => rfl
  | case2 cs ih => rw [plainLines, plainLines_cons_break (by decide) (by simp), ih]
  | case3 c cs hnot ih =>
    rw [plainLines_cons hnot]
    by_cases hr : c = '\r'
    · subst hr
      rw [if_pos rfl, plainLines_cons_break (by decide) (by simp), ih, if_pos (by decide)]
    · rw [if_neg hr, plainLines_cons fun _ he => absurd he hr, ih]

end GoScaffold.Text
