import GoScaffold.Proofs.GoSource.Imports

/-!
# A text with imports added

Adding imports leaves every line where it stands, in order: the new paths are lines of their own, in
a block that is there, in a block that a single import becomes, or in a block of their own.
-/
namespace GoScaffold

open GoScaffold.Text

/-- The second text is the first one with some paths imported, and nothing else moved. -/
inductive ImportsAdded (added : List String) : String → String → Prop
  | unchanged {text : String} (none_added : added = []) : ImportsAdded added text text
  | extended {above body below : String} (above_whole : WholeLines above.toList)
      (body_whole : WholeLines body.toList) :
      ImportsAdded added (above ++ "import (\n" ++ body ++ ")\n" ++ below)
        (above ++ "import (\n" ++ body ++ concat (added.map importEntry) ++ ")\n" ++ below)
  | widened {above path below : String} (above_whole : WholeLines above.toList) :
      ImportsAdded added (above ++ "import \"" ++ path ++ "\"\n" ++ below)
        (above ++ "import (\n" ++ importEntry path ++ concat (added.map importEntry) ++ ")\n" ++ below)
  | headed {above below : String} (above_whole : WholeLines above.toList) :
      ImportsAdded added (above ++ below)
        (above ++ "\nimport (\n" ++ concat (added.map importEntry) ++ ")\n" ++ below)

theorem cutAtClosing_eq_none_iff {ls : List Line} : cutAtClosing? ls = none ↔ blockClosing ∉ ls := by
  induction ls with
  | nil => simp [cutAtClosing?]
  | cons l ls ih =>
    by_cases hl : l = blockClosing
    · simp [cutAtClosing?, hl]
    · simp [cutAtClosing?, hl, ih, Ne.symm hl]

theorem cutAtClosing_eq_some {ls body rest : List Line} (h : cutAtClosing? ls = some (body, rest)) :
    blockClosing ∉ body ∧ ∃ below, rest = blockClosing :: below ∧ ls = body ++ rest := by
  induction ls generalizing body with
  | nil => cases h
  | cons l ls ih =>
    rw [cutAtClosing?] at h
    split at h
    · next hl =>
      cases h
      exact ⟨List.not_mem_nil, ls, by rw [hl], rfl⟩
    · next hl =>
      obtain ⟨⟨body, rest⟩, hcut, he⟩ := Option.map_eq_some_iff.1 h
      cases he
      obtain ⟨hbody, below, rfl, rfl⟩ := ih hcut
      exact ⟨by simp [Ne.symm hl, hbody], below, rfl, rfl⟩

/-- The first block that is closed begins at the first line that opens one. -/
theorem cutAtBlockEnd_eq_some {ls before after : List Line}
    (h : cutAtBlockEnd? ls = some (before, after)) :
    ls = before ++ after ∧ ∃ above body below, before = above ++ blockOpening :: body ∧
      after = blockClosing :: below ∧ blockOpening ∉ above ∧ blockClosing ∉ body := by
  induction ls generalizing before with
  | nil => cases h
  | cons l ls ih =>
    rw [cutAtBlockEnd?] at h
    split at h
    · next hl =>
      split at h
      · next body rest hcut =>
        cases h
        obtain ⟨hbody, below, rfl, rfl⟩ := cutAtClosing_eq_some hcut
        exact ⟨rfl, [], body, below, by rw [hl]; rfl, rfl, List.not_mem_nil, hbody⟩
      · -- a block further down would close the one that this line opens
        next hcut =>
        obtain ⟨⟨before, after⟩, hbelow, he⟩ := Option.map_eq_some_iff.1 h
        cases he
        obtain ⟨rfl, -, -, below, -, rfl, -, -⟩ := ih hbelow
        exact absurd (by simp) (cutAtClosing_eq_none_iff.1 hcut)
    · next hl =>
      obtain ⟨⟨before, after⟩, hbelow, he⟩ := Option.map_eq_some_iff.1 h
      cases he
      obtain ⟨rfl, above, body, below, rfl, rfl, habove, hbody⟩ := ih hbelow
      exact ⟨rfl, l :: above, body, below, rfl, rfl, by simp [Ne.symm hl, habove], hbody⟩

theorem cutAtSingle_eq_some {ls above below : List Line} {path : List Char}
    (h : cutAtSingle? ls = some (above, path, below)) :
    ∃ l, ls = above ++ l :: below ∧ importedBy? l = some path := by
  induction ls generalizing above with
  | nil => cases h
  | cons l ls ih =>
    rw [cutAtSingle?] at h
    split at h
    · next hl =>
      cases h
      exact ⟨l, rfl, hl⟩
    · obtain ⟨⟨above, path, below⟩, hcut, he⟩ := Option.map_eq_some_iff.1 h
      cases he
      obtain ⟨k, rfl, hk⟩ := ih hcut
      exact ⟨k, rfl, hk⟩

theorem importedBy_eq_none_of_cutAtSingle {ls : List Line} (h : cutAtSingle? ls = none) :
    ∀ l ∈ ls, importedBy? l = none := by
  induction ls with
  | nil => simp
  | cons l ls ih =>
    rw [cutAtSingle?] at h
    split at h
    · cases h
    · next hl => exact List.forall_mem_cons.2 ⟨hl, ih (Option.map_eq_none_iff.1 h)⟩

theorem cutAfterPackage_eq_some {ls before after : List Line}
    (h : cutAfterPackage? ls = some (before, after)) :
    ls = before ++ after ∧ WholeLines before.flatten := by
  suffices hend : ls = before ++ after ∧ ['\n'] <:+ before.flatten from ⟨hend.1, Or.inr hend.2⟩
  induction ls generalizing before with
  | nil => cases h
  | cons l ls ih =>
    rw [cutAfterPackage?] at h
    split at h
    · next hl =>
      cases h
      simp only [isPackageLine, Bool.and_eq_true, beq_iff_eq] at hl
      have hline : ['\n'] <:+ l := hl.2.2 ▸ (List.drop_suffix _ _).trans (List.drop_suffix _ _)
      exact ⟨rfl, by simpa using hline⟩
    · obtain ⟨⟨before, after⟩, hcut, he⟩ := Option.map_eq_some_iff.1 h
      cases he
      obtain ⟨rfl, hend⟩ := ih hcut
      exact ⟨rfl, hend.trans (List.suffix_append _ _)⟩

/-- Lines with the entries of imports among them: at the end of the first block; in a block that the
first single import becomes; or in a block of their own. Without a block that is closed, no opening
line has a closing line below it. -/
inductive LinesAdded (entries : List Line) : List Line → List Line → Prop
  | extended {above body below : List Line} (first : blockOpening ∉ above)
      (closed : blockClosing ∉ body) (body_whole : WholeLines body.flatten) :
      LinesAdded entries (above ++ blockOpening :: (body ++ blockClosing :: below))
        (above ++ blockOpening :: (body ++ entries ++ blockClosing :: below))
  | widened {above below : List Line} {l : Line} {path : List Char} (single : importedBy? l = some path)
      (unclosed : cutAtBlockEnd? (above ++ l :: below) = none) :
      LinesAdded entries (above ++ l :: below)
        (above ++ blockOpening :: (entryLine (.ofList path) :: entries ++ blockClosing :: below))
  | headed {above below : List Line} (above_whole : WholeLines above.flatten)
      (unclosed : cutAtBlockEnd? (above ++ below) = none)
      (no_single : ∀ l ∈ above ++ below, importedBy? l = none) :
      LinesAdded entries (above ++ below)
        (above ++ ['\n'] :: blockOpening :: (entries ++ blockClosing :: below))

theorem blockLines_flatten (entries below : List Line) :
    (blockOpening :: (entries ++ blockClosing :: below)).flatten =
      "import (\n".toList ++ entries.flatten ++ ")\n".toList ++ below.flatten := by
  simp [blockOpening, blockClosing]

/-- The lines of a text with imports added are those of the text with the entries of the imports. -/
theorem exists_linesAdded (content : String) (missing : List String) :
    ∃ ls, LinesAdded (missing.map entryLine) (lines content.toList) ls ∧
      addImports content missing = ofLines ls := by
  simp only [← String.toList_inj, toList_ofLines]
  rw [addImports]
  cases hblock : cutAtBlockEnd? (lines content.toList) with
  | some cut =>
    obtain ⟨before, after⟩ := cut
    obtain ⟨hls, above, body, below, rfl, rfl, hfirst, hclosed⟩ := cutAtBlockEnd_eq_some hblock
    have hwhole : WholeLines ((above ++ [blockOpening]) ++ body).flatten := by
      rw [← List.append_cons]
      exact wholeLines_of_lines hls
    rw [List.flatten_append] at hwhole
    rw [hls, List.append_assoc, List.cons_append]
    refine ⟨_, .extended hfirst hclosed hwhole.of_append, ?_⟩
    simp [toList_ofLines, toList_importEntries]
  | none =>
    cases hsingle : cutAtSingle? (lines content.toList) with
    | some cut =>
      obtain ⟨above, path, below⟩ := cut
      obtain ⟨l, hls, hl⟩ := cutAtSingle_eq_some hsingle
      rw [hls] at hblock ⊢
      refine ⟨_, .widened hl hblock, ?_⟩
      rw [List.flatten_append, blockLines_flatten]
      simp [toList_ofLines, toList_importEntries, toList_importEntry]
    | none =>
      have hno := importedBy_eq_none_of_cutAtSingle hsingle
      cases hpackage : cutAfterPackage? (lines content.toList) with
      | some cut =>
        obtain ⟨above, below⟩ := cut
        obtain ⟨hls, hwhole⟩ := cutAfterPackage_eq_some hpackage
        rw [hls] at hblock hno ⊢
        refine ⟨_, .headed hwhole hblock hno, ?_⟩
        rw [List.flatten_append, List.flatten_cons, blockLines_flatten]
        simp [toList_ofLines, toList_importEntries]
      | none =>
        have hheaded : LinesAdded (missing.map entryLine) ([] ++ lines content.toList) _ :=
          .headed wholeLines_nil hblock hno
        refine ⟨_, hheaded, ?_⟩
        rw [List.nil_append, List.flatten_cons, blockLines_flatten, flatten_lines]
        simp [toList_importEntries]

theorem ofLines_append (ks ls : List Line) : ofLines (ks ++ ls) = ofLines ks ++ ofLines ls := by
  simp [ofLines]

theorem ofLines_lines (s : String) : ofLines (lines s.toList) = s := by
  rw [ofLines, flatten_lines, String.ofList_toList]

theorem ofLines_entries (paths : List String) :
    ofLines (paths.map entryLine) = concat (paths.map importEntry) := by
  rw [← String.toList_inj, toList_ofLines, toList_importEntries]

theorem ofLines_block (above body below : List Line) :
    ofLines (above ++ blockOpening :: (body ++ blockClosing :: below)) =
      ofLines above ++ "import (\n" ++ ofLines body ++ ")\n" ++ ofLines below := by
  rw [← String.toList_inj]
  simp [toList_ofLines, blockOpening, blockClosing]

theorem ofLines_single {l : Line} {path : List Char} (h : importedBy? l = some path)
    (above below : List Line) : ofLines (above ++ l :: below) =
      ofLines above ++ "import \"" ++ .ofList path ++ "\"\n" ++ ofLines below := by
  rw [← String.toList_inj]
  simp [toList_ofLines, (importedBy_eq_some h).1]

theorem ofLines_headed (above entries below : List Line) :
    ofLines (above ++ ['\n'] :: blockOpening :: (entries ++ blockClosing :: below)) =
      ofLines above ++ "\nimport (\n" ++ ofLines entries ++ ")\n" ++ ofLines below := by
  rw [← String.toList_inj]
  simp [toList_ofLines, blockOpening, blockClosing]

theorem wholeLines_ofLines {content : String} {above below : List Line} {l : Line}
    (h : lines content.toList = above ++ l :: below) : WholeLines (ofLines above).toList :=
  toList_ofLines above ▸ wholeLines_of_lines h

theorem importsAdded_addImports (content : String) (missing : List String) :
    ImportsAdded missing content (addImports content missing) := by
  obtain ⟨ls, hls, hnew⟩ := exists_linesAdded content missing
  rw [hnew]
  generalize hold : lines content.toList = old at hls
  rw [← ofLines_lines content, hold]
  cases hls with
  | @extended above body below first closed body_whole =>
    rw [ofLines_block, ofLines_block, ofLines_append, ofLines_entries, ← String.append_assoc]
    exact .extended (wholeLines_ofLines hold) (toList_ofLines body ▸ body_whole)
  | @widened above below l path single =>
    rw [ofLines_single single, ofLines_block, ← List.map_cons, ofLines_entries, List.map_cons, concat,
      ← String.append_assoc]
    exact .widened (wholeLines_ofLines hold)
  | @headed above below above_whole =>
    rw [ofLines_append, ofLines_headed, ofLines_entries]
    exact .headed (toList_ofLines above ▸ above_whole)

/-- The text that a merge works on, with the imports that it lacks. -/
theorem importsAdded_ensureImports (content : String) (imports : List String) :
    ImportsAdded (ensureImports content imports).2 content (ensureImports content imports).1 := by
  rw [ensureImports]
  split
  · exact .unchanged rfl
  · exact importsAdded_addImports content _

end GoScaffold
