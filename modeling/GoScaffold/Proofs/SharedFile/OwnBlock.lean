import GoScaffold.Proofs.SharedFile.Growth
import GoScaffold.Proofs.SharedFile.Kept

/-!
# The block that a share goes into

Where a share goes is told from the last line of a file alone: if it is the closer's, the share goes
in front of it, whatever the line closes. In a file that merging has made out of nothing, or out of a
text that it could not go into, the line closes a block that the artifact's own opener opens, and so
it does for ever after.
-/
namespace GoScaffold

open GoScaffold.Text

/-- A line of the text opens a block, and none below it but the last one that is not blank is the
line of the closer. -/
def ClosesOwnBlock (opener closer content : String) : Prop :=
  ∃ above below, lines content.toList = above ++ opener.toList :: below ∧
    ∀ inside l after, below = inside ++ l :: after →
      trimWhile isBlank l = trimWhile isBlank closer.toList → ∀ m ∈ after, ∀ c ∈ m, isBlank c = true

/-- An opener and a closer that can be told from everything else in a file. -/
structure AreDelimiters (opener closer : String) : Prop where
  opens : ∃ line, opener = line ++ "\n" ∧ '\n' ∉ line.toList
  is_body : IsBodyLine opener.toList
  closes : ∃ line, closer = line ++ "\n" ∧ IsCloserLine line.toList ∧ '"' ∉ line.toList

/-- A line that can stand inside a block. -/
structure IsInnerLine (closer : String) (l : Line) : Prop where
  not_closer : trimWhile isBlank l ≠ trimWhile isBlank closer.toList
  is_body : IsBodyLine l

/-- A share of a block. -/
structure Artifact.IsInBlock (opener closer : String) (a : Artifact) : Prop where
  mergeable : a.mergeable = true
  header : WholeLines a.header.toList
  opener_eq : a.opener = opener
  closer_eq : a.closer = closer
  inner : ∀ l ∈ lines a.content.toList, IsInnerLine closer l

/-- The text ends in an open block. -/
def OpensBlock (opener closer kept : String) : Prop :=
  ∃ above inside, lines kept.toList = above ++ opener.toList :: inside ∧
    ∀ l ∈ inside, IsInnerLine closer l

/-- If the text has a package clause and ends with the closer's line, that line closes a block of the
opener. -/
def EndsInBlock (opener closer content : String) : Prop :=
  hasPackageClause content = true →
    ∀ kept, withoutCloser? content closer = some kept → OpensBlock opener closer kept

section Block

variable {opener closer kept content : String} {a : Artifact}

theorem OpensBlock.ne_empty (h : OpensBlock opener closer kept) : kept ≠ "" := by
  rintro rfl
  obtain ⟨above, inside, hlines, -⟩ := h
  simp [lines] at hlines

namespace AreDelimiters

variable (h : AreDelimiters opener closer)

include h

theorem closer_not_blank : isBlankText closer = false := by
  obtain ⟨line, rfl, hline, -⟩ := h.closes
  rw [Bool.eq_false_iff]
  intro hall
  refine hline.not_blank fun c hc => List.all_eq_true.1 hall c ?_
  rw [String.toList_append]
  exact List.mem_append_left _ hc

theorem isInnerLine_entryLine (path : String) : IsInnerLine closer (entryLine path) := by
  refine ⟨fun heq => ?_, isBodyLine_entryLine path⟩
  obtain ⟨line, rfl, hline, hquote⟩ := h.closes
  have hentry : trimWhile isBlank (entryLine path) = '"' :: (path.toList ++ ['"']) := by
    have hsplit : entryLine path = ['\t'] ++ ('"' :: (path.toList ++ ['"'])) ++ ['\n'] := by
      simp [entryLine]
    rw [hsplit, trimWhile_append_of_all _ (List.all_eq_true.1 (by decide)),
      (trimWhile_append_eq_iff ['\t'] (by simp [show isBlank '"' = false by decide])).2
        (List.all_eq_true.1 (by decide))]
    exact trimWhile_cons_append (by decide) (by decide) (by simp) _
  rw [hentry, trimWhile_line] at heq
  exact hquote (mem_of_mem_trimWhile (p := isBlank) (by simp [← heq]))

/-- What closes an open block leaves an open block when it is cut off. -/
theorem opensBlock_of_withoutCloser {text : String} (hopen : OpensBlock opener closer text)
    (hcut : withoutCloser? (text ++ closer) closer = some kept) : OpensBlock opener closer kept := by
  obtain ⟨above, inside, hlines, hinside⟩ := hopen
  obtain ⟨line, rfl, hline, -⟩ := h.closes
  obtain ⟨opening, hopening, -⟩ := h.opens
  cases hlast : cutAtLastNewline text.toList with
  | mk body last =>
    rw [withoutCloser_behind hlast hline] at hcut
    split at hcut
    · obtain rfl := Option.some.inj hcut
      obtain ⟨htext, hbody, hno⟩ := cutAtLastNewline_spec hlast
      have hopener : opener.toList ∉ lines last := fun hmem =>
        hno (mem_of_mem_lines hmem (by simp [hopening]))
      rw [htext, lines_append hbody] at hlines
      obtain ⟨between, hbetween, rfl⟩ := exists_of_append_cons hopener hlines.symm
      refine ⟨above, between, by rw [String.toList_ofList, hbetween], fun l hl => hinside l ?_⟩
      exact List.mem_append_left _ hl
    · cases hcut

theorem endsInBlock_of_opensBlock {text : String} (hopen : OpensBlock opener closer text) :
    EndsInBlock opener closer (text ++ closer) := fun _ _ hcut =>
  h.opensBlock_of_withoutCloser hopen hcut

/-- Behind whole lines, an opener and the declarations of a share open a block. -/
theorem opensBlock_opener {before part : String} (hbefore : WholeLines before.toList)
    (hpart : ∀ l ∈ lines part.toList, IsInnerLine closer l) :
    OpensBlock opener closer (before ++ opener ++ part) := by
  obtain ⟨line, hopener, hline⟩ := h.opens
  have hwhole : WholeLines opener.toList := by
    rw [hopener, String.toList_append]
    exact wholeLines_newline _
  have hlines : lines opener.toList = [opener.toList] := by
    rw [hopener, String.toList_append]
    exact lines_line hline
  refine ⟨lines before.toList, lines part.toList, ?_, hpart⟩
  rw [String.toList_append, String.toList_append, List.append_assoc, lines_append hbefore,
    lines_append hwhole, hlines, List.singleton_append]

/-- With imports added, and declarations behind it, an open block stays open. -/
theorem opensBlock_ensureImports {imports : List String} (hpaths : ∀ i ∈ imports, IsImportPath i)
    (hopen : OpensBlock opener closer kept) (hkept : WholeLines kept.toList) {part : String}
    (hpart : ∀ l ∈ lines part.toList, IsInnerLine closer l) :
    OpensBlock opener closer ((ensureImports kept imports).1 ++ part) := by
  obtain ⟨above, inside, hlines, hinside⟩ := hopen
  obtain ⟨above', inside', hnew, hinside'⟩ : ∃ above' inside',
      lines (ensureImports kept imports).1.toList = above' ++ opener.toList :: inside' ∧
        ∀ l ∈ inside', IsInnerLine closer l := by
    rw [ensureImports_eq]
    split
    · exact ⟨above, inside, hlines, hinside⟩
    · next hmissing =>
      obtain ⟨above', inside', hnew, hmem⟩ := exists_lines_addImports hmissing
        (isImportPath_missing kept hpaths) hlines
        (List.forall_mem_cons.2 ⟨h.is_body, fun l hl => (hinside l hl).is_body⟩)
      refine ⟨above', inside', hnew, fun l hl => ?_⟩
      rcases hmem l hl with hl | ⟨i, -, rfl⟩
      · exact hinside l hl
      · exact h.isInnerLine_entryLine i
  refine ⟨above', inside' ++ lines part.toList, ?_, ?_⟩
  · rw [String.toList_append, lines_append (wholeLines_ensureImports hkept imports), hnew,
      List.append_assoc, List.cons_append]
  · exact List.forall_mem_append.2 ⟨hinside', hpart⟩

end AreDelimiters

theorem Artifact.IsInBlock.inner_firstContent (h : a.IsInBlock opener closer) :
    ∀ l ∈ lines a.firstContent.toList, IsInnerLine closer l := fun l hl => h.inner l <| by
  rw [SharedFile.toList_content,
    lines_append (SharedFile.wholeLines_replicate (SharedFile.leading_newlines a))]
  exact List.mem_append_right _ hl

/-- A file that ends in its own block does so after a merge, and so does one that was not there. -/
theorem endsInBlock_textAfter (h : AreDelimiters opener closer) (ha : a.IsInBlock opener closer)
    {existing : Option String} (hown : ∀ content ∈ existing, EndsInBlock opener closer content) :
    ∀ next ∈ textAfter existing a, EndsInBlock opener closer next := by
  have hmerge := ha.mergeable
  have hown_block {before : String} (hbefore : WholeLines before.toList) :
      EndsInBlock opener closer (before ++ opener ++ a.firstContent ++ closer) :=
    h.endsInBlock_of_opensBlock (h.opensBlock_opener hbefore ha.inner_firstContent)
  cases existing with
  | none =>
    rintro next ⟨⟩
    rw [Artifact.freshFile, if_pos hmerge, ha.opener_eq, ha.closer_eq]
    exact hown_block ha.header
  | some content =>
    have hcontent := hown content rfl
    cases hpresent : isPresent content a with
    | true =>
      rw [textAfter, merge_of_isPresent hmerge hpresent]
      rintro next ⟨⟩
      exact hcontent
    | false =>
      cases hfits : fits content a with
      | false =>
        have hnext : textAfter (some content) a =
            some (endWithNewline content ++ "\n" ++ opener ++ a.firstContent ++ closer) := by
          simp [textAfter, merge, hmerge, hpresent, hfits, Artifact.ownBlock, ha.opener_eq,
            ha.closer_eq, String.append_assoc]
        rw [hnext]
        rintro next ⟨⟩
        refine hown_block ?_
        rw [String.toList_append]
        exact wholeLines_newline _
      | true =>
        have hcloser : isBlankText a.closer = false := ha.closer_eq ▸ h.closer_not_blank
        have hcut : withoutCloser? content closer = some (a.kept content) := by
          rw [← ha.closer_eq]
          exact withoutCloser_kept hfits (ne_empty_of_not_blank hcloser)
        obtain ⟨rest, hrest, hclosing⟩ := isClosing_of_withoutCloser hcut
        have hopen := hcontent ((fits_iff (ne_empty_of_not_blank hcloser)).1 hfits).1 _ hcut
        have hbody : endWithNewline (a.kept content) = a.kept content :=
          SharedFile.endWithNewline_of_wholeLines hclosing.kept_whole hopen.ne_empty
        rw [textAfter, merge_of_fits hmerge hpresent hfits, hbody, ha.closer_eq]
        rintro next ⟨⟩
        exact h.endsInBlock_of_opensBlock (h.opensBlock_ensureImports
          (fun i => isImportPath_of_mem_existingImports) hopen hclosing.kept_whole ha.inner)

theorem endsInBlock_foldl (h : AreDelimiters opener closer) {run : List Artifact}
    (hrun : ∀ b ∈ run, b.IsInBlock opener closer) {existing : Option String}
    (hown : ∀ content ∈ existing, EndsInBlock opener closer content) :
    ∀ content ∈ run.foldl textAfter existing, EndsInBlock opener closer content := by
  induction run generalizing existing with
  | nil => exact hown
  | cons b run ih =>
    exact ih (fun c hc => hrun c (by simp [hc])) (endsInBlock_textAfter h (hrun b (by simp)) hown)

/-- The last line of a file that ends in its own block closes it. -/
theorem closesOwnBlock_of_isClosing {rest : String} (hopen : OpensBlock opener closer kept)
    (hclosing : IsClosing closer kept rest) : ClosesOwnBlock opener closer (kept ++ rest) := by
  obtain ⟨above, inside, hlines, hinside⟩ := hopen
  obtain ⟨line, blanks, hrest, hno, -, hblanks⟩ := hclosing.last_line
  refine ⟨above, inside ++ lines rest.toList, ?_, fun front l after hsplit hl m hm => ?_⟩
  · rw [String.toList_append, lines_append hclosing.kept_whole, hlines, List.append_assoc,
      List.cons_append]
  · have hnot : l ∉ inside := fun hmem => (hinside l hmem).not_closer hl
    obtain ⟨between, hbetween⟩ := exists_of_append_eq_append_cons hnot hsplit
    have hafter : m ∈ (lines rest.toList).tail := by
      rw [hbetween]
      cases between with
      | nil => exact hm
      | cons k between => simp [hm]
    rw [hrest] at hafter
    exact fun c hc => hblanks c (mem_of_mem_lines (mem_lines_of_mem_tail hno hafter) hc)

end Block

/-- A file that ends with its imports: their block is taken for the one that the share goes into. -/
theorem not_closesOwnBlock_imports :
    let content := "package limits\n\nimport (\n\t\"errors\"\n)\n"
    let a : Artifact :=
      { path := "limits.go", content := "\tLarge = 2\n", mergeable := true, opener := "const (\n"
        closer := ")\n", header := "package limits\n\n" }
    a.mergeable = true ∧ (merge (some content) a).2.action = .appended ∧
      ¬ ClosesOwnBlock a.opener a.closer content := by
  intro content a
  have hno : a.opener.toList ∉ lines content.toList := by decide +kernel
  refine ⟨rfl, by decide +kernel, fun ⟨above, below, hlines, _⟩ => hno ?_⟩
  rw [hlines]
  simp

/-- Whether a share is appended is told from the package clause and from the last line that is not
blank. If this is the closer's, the share and the closer take its place, whatever it closes, and if it
is not, the share gets a block of its own at the end. The line closes a block of the share's own
opener in every file that merging such shares makes of nothing, of a text that they do not fit into
or of one that ends in such a block. -/
theorem merge_appended_iff_isClosing {content : String} {a : Artifact} (ha : a.mergeable = true)
    (hcloser : a.closer ≠ "") :
    ((merge (some content) a).2.action = .appended ↔ isPresent content a = false ∧
      hasPackageClause content = true ∧
        ∃ prior rest, content = prior ++ rest ∧ IsClosing a.closer prior rest ∧
          isBlankText rest = false) ∧
    (∀ prior rest, content = prior ++ rest → IsClosing a.closer prior rest →
      (merge (some content) a).2.action = .appended → (merge (some content) a).1 =
        some ((ensureImports (endWithNewline prior) (headerImports a)).1 ++ a.content ++ a.closer)) ∧
    (isPresent content a = false → (merge (some content) a).2.action ≠ .appended →
      (merge (some content) a).2.action = .fallback ∧
        (merge (some content) a).1 = some (endWithNewline content ++ "\n" ++ a.ownBlock)) ∧
    ∀ (existing : Option String) (run : List Artifact), AreDelimiters a.opener a.closer →
      (∀ b ∈ run, b.IsInBlock a.opener a.closer) →
      (∀ text ∈ existing, EndsInBlock a.opener a.closer text) →
      run.foldl textAfter existing = some content →
      (merge (some content) a).2.action = .appended → ClosesOwnBlock a.opener a.closer content := by
  have happended : (merge (some content) a).2.action = .appended ↔
      isPresent content a = false ∧ fits content a = true := by
    simp [action_eq_appended_iff, ha]
  refine ⟨happended.trans (and_congr_right fun _ => fits_iff hcloser), ?_, ?_, ?_⟩
  · rintro prior rest rfl hclosing hmerge
    obtain ⟨habsent, hfits⟩ := happended.1 hmerge
    rw [merge_of_fits ha habsent hfits,
      kept_of_isClosing hclosing (closer_not_blank_of_fits hfits hcloser)]
  · intro habsent hmerge
    have hfits : fits content a = false := Bool.eq_false_iff.2 fun h => hmerge (happended.2 ⟨habsent, h⟩)
    simp [merge, ha, habsent, hfits]
  · intro existing run hblock hrun hown hcontent hmerge
    obtain ⟨-, hfits⟩ := happended.1 hmerge
    obtain ⟨hclause, prior, rest, rfl, hclosing, -⟩ := (fits_iff hcloser).1 hfits
    have hends := endsInBlock_foldl hblock hrun hown _ hcontent
    exact closesOwnBlock_of_isClosing (hends hclause prior (hclosing.withoutCloser (closer_not_blank_of_fits hfits hcloser))) hclosing

/-- Two shares of a block of variables: the second goes into the block of the first. -/
theorem merge_appended_iff_isClosing_second :
    let first : Artifact :=
      { path := "limits.go", content := "\tSmall = 1\n", mergeable := true, opener := "var (\n"
        closer := ")\n", header := "package limits\n\n" }
    let second : Artifact :=
      { first with
        content := "\n\tLarge = errors.New(\"large\")\n"
        header := "package limits\n\nimport (\n\t\"errors\"\n)\n\n" }
    let content := "package limits\n\nvar (\n\tSmall = 1\n)\n"
    first.IsInBlock second.opener second.closer ∧ [first].foldl textAfter none = some content ∧
      (merge (some content) second).2.action = .appended ∧
      (∃ prior rest, content = prior ++ rest ∧ IsClosing second.closer prior rest ∧
        isBlankText rest = false) ∧
      ClosesOwnBlock second.opener second.closer content := by
  intro first second content
  have hblock : AreDelimiters second.opener second.closer :=
    ⟨⟨"var (", rfl, by decide⟩, ⟨by decide, by decide⟩, ⟨")", rfl, isCloserLine_parenthesis, by decide⟩⟩
  have hfirst : first.IsInBlock second.opener second.closer :=
    ⟨rfl, Or.inr (by decide), rfl, rfl, fun l hl => by
      have hlines : lines first.content.toList = [first.content.toList] := by decide
      rw [hlines, List.mem_singleton] at hl
      subst hl
      exact ⟨by decide, by decide, by decide⟩⟩
  have hrun : [first].foldl textAfter none = some content := by decide +kernel
  have hmerge : (merge (some content) second).2.action = .appended := by decide +kernel
  obtain ⟨happended, -, -, hown⟩ := @merge_appended_iff_isClosing content second rfl (by decide)
  exact ⟨hfirst, hrun, hmerge, (happended.1 hmerge).2.2,
    hown none [first] hblock (by simpa using hfirst) (by simp) hrun hmerge⟩

end GoScaffold
