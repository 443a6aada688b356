import GoScaffold.Proofs.Text.Lines
import GoScaffold.Proofs.Text.Trim
import GoScaffold.SharedFile.Merge

/-!
# The line that closes a file

A file that ends with the line of its closer is cut right before that line, whatever white space
stands around the line, and a file is cut nowhere else.
-/
namespace GoScaffold

open GoScaffold.Text

theorem cutAtLastNewline_append {body last : List Char} (hb : WholeLines body)
    (hl : '\n' ∉ last) : cutAtLastNewline (body ++ last) = (body, last) := by
  have hr : ∀ c ∈ last.reverse, (c != '\n') = true := fun c hc => by
    simpa using fun he : c = '\n' => hl (he ▸ List.mem_reverse.1 hc)
  have hb' : body.reverse.takeWhile (· != '\n') = [] := by
    rcases hb with rfl | ⟨b, rfl⟩
    · rfl
    · simp
  have ht : (body ++ last).reverse.takeWhile (· != '\n') = last.reverse := by
    rw [List.reverse_append, List.takeWhile_append_of_pos hr, hb', List.append_nil]
  rw [cutAtLastNewline, ht]
  simp

theorem cutAtLastNewline_spec {cs body last : List Char} (h : cutAtLastNewline cs = (body, last)) :
    cs = body ++ last ∧ WholeLines body ∧ '\n' ∉ last := by
  have hsplit : (cs.reverse.dropWhile (· != '\n')).reverse ++
      (cs.reverse.takeWhile (· != '\n')).reverse = cs := by
    rw [← List.reverse_append, List.takeWhile_append_dropWhile, List.reverse_reverse]
  have hbody : cutAtLastNewline cs =
      ((cs.reverse.dropWhile (· != '\n')).reverse, (cs.reverse.takeWhile (· != '\n')).reverse) := by
    rw [cutAtLastNewline]
    conv_lhs => rw [← hsplit]
    simp
  obtain ⟨rfl, rfl⟩ := Prod.mk.inj (h.symm.trans hbody)
  refine ⟨hsplit.symm, ?_, fun hmem => ?_⟩
  · cases hdrop : cs.reverse.dropWhile (· != '\n') with
    | nil => exact wholeLines_nil
    | cons c ds =>
      have hc := List.head_dropWhile_not (· != '\n') (l := cs.reverse) (by simp [hdrop])
      simp only [hdrop, List.head_cons, bne_eq_false_iff_eq] at hc
      rw [List.reverse_cons, hc]
      exact wholeLines_newline _
  · simpa using List.mem_takeWhile_imp (List.mem_reverse.1 hmem)

/-- Behind whole lines a text is cut where it is cut on its own. -/
theorem cutAtLastNewline_behind {above : List Char} (h : WholeLines above) (cs : List Char) :
    cutAtLastNewline (above ++ cs) = (above ++ (cutAtLastNewline cs).1, (cutAtLastNewline cs).2) := by
  obtain ⟨hcs, hbody, hlast⟩ := cutAtLastNewline_spec (rfl : cutAtLastNewline cs = (_, _))
  conv_lhs => rw [hcs, ← List.append_assoc]
  exact cutAtLastNewline_append (h.append hbody) hlast

/-- What a closer may be: nothing, or one line that is not blank. -/
structure IsCloserLine (line : List Char) : Prop where
  no_newline : '\n' ∉ line
  not_blank : ¬ ∀ c ∈ line, isBlank c = true

theorem isCloserLine_parenthesis : IsCloserLine ")".toList :=
  ⟨by decide, fun h => absurd (h ')' (by decide)) (by decide)⟩

/-- A text is cut in front of its last line that is not blank if this is the closer's line. -/
theorem withoutCloser_eq {kept rest : String} {line blanks : List Char} (closer : String)
    (hkept : WholeLines kept.toList) (hrest : rest.toList = line ++ blanks)
    (hline : IsCloserLine line) (hblanks : ∀ c ∈ blanks, isBlank c = true) :
    withoutCloser? (kept ++ rest) closer =
      if trimWhile isBlank line = trimWhile isBlank closer.toList then some kept else none := by
  have hcut : cutAtLastNewline (trimEndWhile isBlank (kept ++ rest).toList) =
      (kept.toList, trimEndWhile isBlank line) := by
    rw [String.toList_append, hrest, ← List.append_assoc, trimEndWhile_append_of_all _ hblanks,
      trimEndWhile_append _ hline.not_blank]
    exact cutAtLastNewline_append hkept fun h =>
      hline.no_newline (List.IsPrefix.subset ( trimEndWhile_prefix isBlank line) h)
  rw [withoutCloser?, hcut]
  simp only [trimWhile_trimEndWhile, String.ofList_toList]

theorem trimWhile_line (line : String) :
    trimWhile isBlank (line ++ "\n").toList = trimWhile isBlank line.toList := by
  rw [String.toList_append]
  exact trimWhile_append_of_all _ (List.all_eq_true.1 (by decide))

theorem withoutCloser_append {body line : String} (hb : WholeLines body.toList)
    (hl : IsCloserLine line.toList) :
    withoutCloser? (body ++ (line ++ "\n")) (line ++ "\n") = some body := by
  rw [withoutCloser_eq _ hb (String.toList_append) hl (List.all_eq_true.1 (by decide)),
    trimWhile_line, if_pos rfl]

/-- A closer that comes right behind a text closes it as a line of its own only if the text's last
line is blank, which then goes with it. -/
theorem withoutCloser_behind {text line : String} {body last : List Char}
    (hcut : cutAtLastNewline text.toList = (body, last)) (hl : IsCloserLine line.toList) :
    withoutCloser? (text ++ (line ++ "\n")) (line ++ "\n") =
      if last.all isBlank then some (.ofList body) else none := by
  obtain ⟨htext, hbody, hlast⟩ := cutAtLastNewline_spec hcut
  have hsplit : text ++ (line ++ "\n") = .ofList body ++ (.ofList last ++ line ++ "\n") := by
    rw [← String.toList_inj]
    simp [htext]
  have hline : IsCloserLine (last ++ line.toList) :=
    ⟨by simp [hlast, hl.no_newline], fun h => hl.not_blank fun c hc => h c (by simp [hc])⟩
  have hrest : (.ofList last ++ line ++ "\n" : String).toList = last ++ line.toList ++ ['\n'] := by
    simp
  rw [hsplit, withoutCloser_eq _ (by rwa [String.toList_ofList]) hrest hline
    (List.all_eq_true.1 (by decide)), trimWhile_line]
  refine if_congr ?_ rfl rfl
  rw [trimWhile_append_eq_iff last hl.not_blank, List.all_eq_true]

/-- What follows the kept text is the closer's line, the last of the file that is not blank. -/
structure IsClosing (closer kept rest : String) : Prop where
  kept_whole : WholeLines kept.toList
  last_line : ∃ line blanks : List Char, rest.toList = line ++ blanks ∧ '\n' ∉ line ∧
    trimWhile isBlank line = trimWhile isBlank closer.toList ∧ ∀ c ∈ blanks, isBlank c = true

/-- Below the kept text there is nothing but the closer and blanks. -/
theorem IsClosing.mem_rest {closer kept rest : String} (h : IsClosing closer kept rest) {c : Char}
    (hc : c ∈ rest.toList) : isBlank c = true ∨ c ∈ closer.toList := by
  obtain ⟨line, blanks, hrest, -, htrim, hblanks⟩ := h.last_line
  rw [hrest, List.mem_append] at hc
  rcases hc with hc | hc
  · by_cases hblank : isBlank c = true
    · exact Or.inl hblank
    · refine Or.inr (mem_of_mem_trimWhile (p := isBlank) ?_)
      rw [← htrim]
      exact mem_trimWhile hc (by simpa using hblank)
  · exact Or.inl (hblanks c hc)

theorem isClosing_of_withoutCloser {content closer kept : String}
    (h : withoutCloser? content closer = some kept) :
    ∃ rest, content = kept ++ rest ∧ IsClosing closer kept rest := by
  obtain ⟨blanks, hcontent, hblanks⟩ := exists_trimEndWhile isBlank content.toList
  rw [withoutCloser?] at h
  split at h
  next body line hcut =>
    obtain ⟨htrimmed, hwhole, hline⟩ := cutAtLastNewline_spec hcut
    split at h
    · next hcloser =>
      obtain rfl := Option.some.inj h
      refine ⟨.ofList (line ++ blanks), ?_, by rwa [String.toList_ofList], line, blanks,
        String.toList_ofList, hline, hcloser, hblanks⟩
      rw [← String.ofList_append, ← List.append_assoc, ← htrimmed, ← hcontent, String.ofList_toList]
    · cases h

end GoScaffold
