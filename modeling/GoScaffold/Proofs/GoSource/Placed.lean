import GoScaffold.Proofs.GoSource.Rescanned

/-!
# Where added imports stand

Imports get a block of their own where a text has none: right behind the first line that a package
clause fills, and above everything else where no line is filled by one. Lines that have nothing to
do with the package clause or with imports stay together, with nothing but entries of a block that
was open above them put in between.
-/
namespace GoScaffold

open GoScaffold.Text

section Lines

variable {ls : List Line}

theorem startsPackage_of_isPackageLine {l : Line} (h : isPackageLine l = true) :
    startsPackage l = true := by
  simp only [isPackageLine, Bool.and_eq_true] at h
  obtain ⟨hword, hname, -⟩ := h
  rw [startsPackage, hword, Bool.true_and]
  cases hrest : l.drop packageWord.length with
  | nil => simp [hrest] at hname
  | cons c rest =>
    by_cases hc : isWordChar c = true
    · simpa using hc
    · simp [hrest, hc] at hname

theorem cutAtBlockEnd_of_not_mem (h : blockOpening ∉ ls) : cutAtBlockEnd? ls = none := by
  cases hcut : cutAtBlockEnd? ls with
  | none => rfl
  | some cut =>
    obtain ⟨rfl, above, body, below, habove, -⟩ := cutAtBlockEnd_eq_some hcut
    exact absurd (by simp [habove]) h

theorem cutAtSingle_of_forall (h : ∀ l ∈ ls, importedBy? l = none) : cutAtSingle? ls = none := by
  cases hcut : cutAtSingle? ls with
  | none => rfl
  | some cut =>
    obtain ⟨l, rfl, hl⟩ := cutAtSingle_eq_some hcut
    rw [h l (by simp)] at hl
    cases hl

theorem cutAfterPackage_eq_none (h : cutAfterPackage? ls = none) : ls.any isPackageLine = false := by
  induction ls with
  | nil => rfl
  | cons l ls ih =>
    rw [cutAfterPackage?] at h
    split at h
    · cases h
    · next hl => simp [hl, ih (Option.map_eq_none_iff.1 h)]

theorem exists_concat_of_cutAfterPackage {before after : List Line}
    (h : cutAfterPackage? ls = some (before, after)) :
    ∃ front l, before = front ++ [l] ∧ isPackageLine l = true := by
  induction ls generalizing before with
  | nil => cases h
  | cons l ls ih =>
    rw [cutAfterPackage?] at h
    split at h
    · next hl =>
      cases h
      exact ⟨[], l, rfl, hl⟩
    · obtain ⟨⟨before, after⟩, hcut, he⟩ := Option.map_eq_some_iff.1 h
      cases he
      obtain ⟨front, k, rfl, hk⟩ := ih hcut
      exact ⟨l :: front, k, rfl, hk⟩

/-- A line that is not among the last ones stands in front of them. -/
theorem exists_of_append_cons {α : Type} {l : α} {above below before rest : List α} (hl : l ∉ rest)
    (h : above ++ l :: below = before ++ rest) :
    ∃ between, before = above ++ l :: between ∧ below = between ++ rest := by
  rcases List.append_eq_append_iff.1 h with ⟨more, rfl, hrest⟩ | ⟨more, rfl, hrest⟩
  · cases more with
    | nil => exact absurd (by simp [show rest = l :: below from hrest.symm]) hl
    | cons k more =>
      obtain ⟨rfl, rfl⟩ := List.cons.inj hrest
      exact ⟨more, rfl, rfl⟩
  · exact absurd (by simp [hrest]) hl

/-- A line that is not among the first ones stands behind them. -/
theorem exists_of_append_eq_append_cons {α : Type} {l : α} {first rest above below : List α}
    (hl : l ∉ first) (h : first ++ rest = above ++ l :: below) :
    ∃ between, rest = between ++ l :: below := by
  rcases List.append_eq_append_iff.1 h with ⟨more, -, hrest⟩ | ⟨more, rfl, hrest⟩
  · exact ⟨more, hrest⟩
  · cases more with
    | nil => exact ⟨[], hrest.symm⟩
    | cons k more =>
      obtain ⟨rfl, -⟩ := List.cons.inj hrest
      exact absurd (by simp) hl

end Lines

theorem importBlock_of_ne_nil {imports : List String} (h : imports ≠ []) :
    importBlock imports = "import (\n" ++ concat (imports.map importEntry) ++ ")\n" := by
  rw [importBlock, if_neg (by simpa using h)]

section Block

variable {content : String} {missing : List String}

/-- A text without a block that is closed and without single imports keeps its lines, with a block
between them: behind one that a package clause fills, or above all of them if there is none. -/
theorem exists_block_added (unclosed : cutAtBlockEnd? (lines content.toList) = none)
    (no_single : ∀ l ∈ lines content.toList, importedBy? l = none) (hmissing : missing ≠ [])
    (hpaths : ∀ i ∈ missing, IsImportPath i) :
    ∃ above below, lines content.toList = above ++ below ∧
      addImports content missing =
        ofLines above ++ ("\n" ++ importBlock missing) ++ ofLines below ∧
      lines (addImports content missing).toList =
        above ++ ['\n'] :: blockOpening :: (missing.map entryLine ++ blockClosing :: below) ∧
      ((∃ front l, above = front ++ [l] ∧ isPackageLine l = true) ∨
        above = [] ∧ (lines content.toList).any isPackageLine = false) := by
  have hblock : "\nimport (\n" ++ concat (missing.map importEntry) ++ ")\n" =
      "\n" ++ importBlock missing := by
    rw [importBlock_of_ne_nil hmissing, ← String.toList_inj]
    simp
  obtain ⟨above, below, hcut, hwhole, hnew, hplace⟩ : ∃ above below,
      lines content.toList = above ++ below ∧ WholeLines above.flatten ∧
      addImports content missing =
        ofLines above ++ ("\n" ++ importBlock missing) ++ ofLines below ∧
      ((∃ front l, above = front ++ [l] ∧ isPackageLine l = true) ∨
        above = [] ∧ (lines content.toList).any isPackageLine = false) := by
    rw [addImports]
    simp only [unclosed, cutAtSingle_of_forall no_single, hblock]
    cases hcut : cutAfterPackage? (lines content.toList) with
    | some cut =>
      obtain ⟨above, below⟩ := cut
      obtain ⟨hlines, hwhole⟩ := cutAfterPackage_eq_some hcut
      exact ⟨above, below, hlines, hwhole, rfl, Or.inl (exists_concat_of_cutAfterPackage hcut)⟩
    | none =>
      refine ⟨[], lines content.toList, rfl, wholeLines_nil, ?_,
        Or.inr ⟨rfl, cutAfterPackage_eq_none hcut⟩⟩
      rw [ofLines_lines, ofLines, List.flatten_nil, String.ofList_nil, String.empty_append]
  have hadded : LinesAdded (missing.map entryLine) (lines content.toList)
      (above ++ ['\n'] :: blockOpening :: (missing.map entryLine ++ blockClosing :: below)) := by
    rw [hcut] at unclosed no_single ⊢
    exact .headed hwhole unclosed no_single
  refine ⟨above, below, hcut, hnew, ?_, hplace⟩
  have hflatten : (addImports content missing).toList =
      (above ++ ['\n'] :: blockOpening :: (missing.map entryLine ++ blockClosing :: below)).flatten := by
    rw [hnew, importBlock_of_ne_nil hmissing]
    simp [toList_ofLines, toList_importEntries, blockOpening, blockClosing]
  rw [hflatten, hadded.lines_flatten hpaths]

end Block

/-- A line that neither starts like an import nor holds a package clause. -/
structure IsBodyLine (l : Line) : Prop where
  not_import : ¬ importWord <+: l
  not_package : startsPackage l = false

namespace IsBodyLine

variable {l : Line} (h : IsBodyLine l)

include h

theorem ne_blockOpening : l ≠ blockOpening := fun he => h.not_import (he ▸ blockOpening_starts)

theorem importedBy_eq_none : importedBy? l = none := by
  cases hl : importedBy? l with
  | none => rfl
  | some path => exact absurd (importWord_prefix_of_importedBy hl) h.not_import

theorem isPackageLine_eq_false : isPackageLine l = false :=
  Bool.eq_false_iff.2 fun hl => by
    have hstarts := startsPackage_of_isPackageLine hl
    rw [h.not_package] at hstarts
    cases hstarts

end IsBodyLine

theorem isBodyLine_entryLine (path : String) : IsBodyLine (entryLine path) :=
  ⟨by simp [importWord, entryLine], by simp [startsPackage, packageWord, entryLine]⟩

section Together

variable {content : String} {missing : List String} {above inside : List Line} {l : Line}

/-- Body lines from one on to the end stay at the end, and between them stand at most entries. -/
theorem exists_lines_addImports (hmissing : missing ≠ []) (hpaths : ∀ i ∈ missing, IsImportPath i)
    (hlines : lines content.toList = above ++ l :: inside)
    (hbody : ∀ k ∈ l :: inside, IsBodyLine k) :
    ∃ above' inside', lines (addImports content missing).toList = above' ++ l :: inside' ∧
      ∀ k ∈ inside', k ∈ inside ∨ ∃ i ∈ missing, k = entryLine i := by
  have hopening : blockOpening ∉ l :: inside := fun hmem => (hbody _ hmem).ne_blockOpening rfl
  obtain ⟨ls, hadded, hnew⟩ := exists_linesAdded content missing
  have hnewLines : lines (addImports content missing).toList = ls := by
    rw [hnew, toList_ofLines, hadded.lines_flatten hpaths]
  generalize hold : lines content.toList = old at hadded
  cases hadded with
  | @extended before body below first closed body_whole =>
    obtain ⟨between, rfl, hbehind⟩ := exists_of_append_cons hopening (hold.symm.trans hlines)
    rcases List.append_eq_append_iff.1 hbehind with ⟨more, rfl, hmore⟩ | ⟨more, rfl, hmore⟩
    -- the block is closed above the body lines, or one of them closes it
    · exact ⟨before ++ blockOpening :: (body ++ missing.map entryLine ++ more), inside,
        by simpa [hmore] using hnewLines, fun k hk => Or.inl hk⟩
    · cases more with
      | nil =>
        obtain ⟨rfl, rfl⟩ := List.cons.inj hmore
        exact ⟨before ++ blockOpening :: (between ++ missing.map entryLine), _,
          by simpa using hnewLines, fun k hk => Or.inl hk⟩
      | cons k more =>
        obtain ⟨rfl, rfl⟩ := List.cons.inj hmore
        refine ⟨before ++ blockOpening :: between, more ++ (missing.map entryLine ++
          blockClosing :: below), by simpa using hnewLines, fun k hk => ?_⟩
        simp only [List.append_eq, List.mem_append, List.mem_map] at hk ⊢
        rcases hk with hk | ⟨i, hi, rfl⟩ | hk
        · exact Or.inl (Or.inl hk)
        · exact Or.inr ⟨i, hi, rfl⟩
        · exact Or.inl (Or.inr hk)
  | @widened before below single path hsingle unclosed =>
    have hnot : single ∉ l :: inside := fun hmem => by
      rw [(hbody _ hmem).importedBy_eq_none] at hsingle
      cases hsingle
    obtain ⟨between, -, rfl⟩ := exists_of_append_cons hnot (hold.symm.trans hlines)
    exact ⟨before ++ blockOpening :: (entryLine (.ofList path) :: missing.map entryLine ++
      blockClosing :: between), inside, by simpa using hnewLines, fun k hk => Or.inl hk⟩
  | @headed before below above_whole unclosed no_single =>
    obtain ⟨front, behind, hcut, -, hblock, hplace⟩ := exists_block_added (by rwa [hold])
      (by rwa [hold]) hmissing hpaths
    have hfront : ∃ between, behind = between ++ l :: inside := by
      rcases hplace with ⟨front, k, rfl, hk⟩ | ⟨rfl, -⟩
      · have hnot : k ∉ l :: inside := fun hmem => by
          rw [(hbody _ hmem).isPackageLine_eq_false] at hk
          cases hk
        rw [hlines, List.append_assoc] at hcut
        obtain ⟨between, -, hbetween⟩ := exists_of_append_cons hnot hcut.symm
        exact ⟨between, hbetween⟩
      · exact ⟨above, hcut.symm.trans hlines⟩
    obtain ⟨between, rfl⟩ := hfront
    exact ⟨front ++ ['\n'] :: blockOpening :: (missing.map entryLine ++ blockClosing :: between),
      inside, by simpa using hblock, fun k hk => Or.inl hk⟩

theorem wholeLines_ensureImports {content : String} (h : WholeLines content.toList)
    (imports : List String) : WholeLines (ensureImports content imports).1.toList := by
  have hbehind {u v : String} (hv : WholeLines v.toList) {below : String}
      (hu : WholeLines (u ++ below).toList) : WholeLines (v ++ below).toList := by
    rw [String.toList_append] at hu ⊢
    exact hv.append hu.of_append
  have hended (u : String) : WholeLines (u ++ ")\n").toList := by
    rw [String.toList_append]
    exact Or.inr (List.suffix_append_of_suffix ⟨[')'], rfl⟩)
  have hadded := importsAdded_ensureImports content imports
  generalize (ensureImports content imports).1 = new, (ensureImports content imports).2 = added
    at hadded
  cases hadded with
  | unchanged => exact h
  | extended => exact hbehind (hended _) h
  | widened => exact hbehind (hended _) h
  | headed => exact hbehind (hended _) h

end Together

end GoScaffold
