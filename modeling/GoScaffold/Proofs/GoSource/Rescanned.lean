import GoScaffold.Proofs.GoSource.Inserted

/-!
# Imports that are found again

A text to which imports have been added is read again. Everything that was found is still found, and
what has been added is found as well, whatever the text looks like: an opening line that nothing
closed may now be closed by a block that has been put in below it, but then the body that it opens
still ends with the entries of that block.
-/
namespace GoScaffold

open GoScaffold.Text

/-- Lines import a path in the body of a block or by a single line. -/
def IsFound (path : List Char) (ls : List Line) : Prop :=
  (∃ body ∈ blockBodies 0 ls, path ∈ quotedTexts none body.flatten) ∨
    ∃ l ∈ ls, importedBy? l = some path

theorem mem_existingImports {content path : String} :
    path ∈ existingImports content ↔ IsFound path.toList (lines content.toList) := by
  have hpath (t : List Char) : String.ofList t = path ↔ t = path.toList := by
    rw [← String.toList_inj, String.toList_ofList]
  simp [existingImports, IsFound, hpath]

section Bodies

variable {above body below ls entries : List Line}

/-- Reading between quotes starts anew on every line. -/
theorem quotedTexts_newline (current : Option (List Char)) (cs ds : List Char) :
    quotedTexts current (cs ++ '\n' :: ds) = quotedTexts current cs ++ quotedTexts none ds := by
  induction cs generalizing current with
  | nil => cases current <;> rfl
  | cons c cs ih =>
    cases current with
    | none => simp only [List.cons_append, quotedTexts, ih]
    | some seen =>
      simp only [List.cons_append, quotedTexts, ih]
      split_ifs <;> rfl

theorem quotedTexts_append {cs : List Char} (h : WholeLines cs) (ds : List Char) :
    quotedTexts none (cs ++ ds) = quotedTexts none cs ++ quotedTexts none ds := by
  rcases h with rfl | ⟨cs, rfl⟩
  · rfl
  · have hline := quotedTexts_newline none cs []
    rw [quotedTexts, List.append_nil] at hline
    rw [List.append_assoc, List.singleton_append, quotedTexts_newline, hline]

theorem quotedTexts_body (h : WholeLines body.flatten) {paths : List String}
    (hpaths : ∀ i ∈ paths, IsImportPath i) :
    quotedTexts none (body ++ paths.map entryLine).flatten =
      quotedTexts none body.flatten ++ paths.map String.toList := by
  have hentries := quotedTexts_entries hpaths []
  rw [List.append_nil, quotedTexts, List.append_nil] at hentries
  rw [List.flatten_append, quotedTexts_append h, hentries]

/-- The first opening line opens a block if there is a closing line below. -/
theorem blockBodies_first (first : blockOpening ∉ above) (closed : blockClosing ∉ body)
    (below : List Line) :
    blockBodies 0 (above ++ blockOpening :: (body ++ blockClosing :: below)) =
      body :: blockBodies 0 below := by
  induction above with
  | nil =>
    have hskip := blockBodies_skip (body ++ [blockClosing]) below
    rw [List.length_append, List.length_singleton, List.append_assoc, List.singleton_append] at hskip
    simp [blockBodies, cutAtClosing_of_body closed, hskip]
  | cons l above ih =>
    simp only [List.mem_cons, not_or] at first
    simp [blockBodies, Ne.symm first.1, ih first.2]

theorem blockBodies_of_unclosed (h : cutAtBlockEnd? ls = none) : blockBodies 0 ls = [] := by
  induction ls with
  | nil => rfl
  | cons l ls ih =>
    rw [cutAtBlockEnd?] at h
    rw [blockBodies]
    split at h
    · next hl =>
      split at h
      · cases h
      · next => simp [hl, ih (Option.map_eq_none_iff.1 h)]
    · next hl => simp [hl, ih (Option.map_eq_none_iff.1 h)]

theorem blockClosing_not_mem_of_unclosed
    (h : cutAtBlockEnd? (above ++ blockOpening :: below) = none) : blockClosing ∉ below := by
  induction above with
  | nil =>
    rw [List.nil_append, cutAtBlockEnd?, if_pos rfl] at h
    split at h
    · cases h
    · next hcut => exact cutAtClosing_eq_none_iff.1 hcut
  | cons l above ih =>
    rw [List.cons_append, cutAtBlockEnd?] at h
    split at h
    · split at h
      · cases h
      · exact ih (Option.map_eq_none_iff.1 h)
    · exact ih (Option.map_eq_none_iff.1 h)

/-- A block that is put in where none was closed, or the one that an opening line above makes of it,
has a body that ends with its entries. -/
theorem exists_blockBody (gap : List Line) {rest : List Line} (unclosed : cutAtBlockEnd? (above ++ rest) = none)
    (hopen : blockOpening ∉ gap) (hclose : blockClosing ∉ gap) (hentries : blockClosing ∉ entries)
    (below : List Line) : ∃ opened, WholeLines opened.flatten ∧ opened ++ entries ∈
      blockBodies 0 (above ++ (gap ++ blockOpening :: (entries ++ blockClosing :: below))) := by
  by_cases hopening : blockOpening ∈ above
  · obtain ⟨before, behind, rfl, hfirst⟩ := List.eq_append_cons_of_mem hopening
    rw [List.append_assoc, List.cons_append] at unclosed
    have hbehind := blockClosing_not_mem_of_unclosed unclosed
    simp only [List.mem_append, not_or] at hbehind
    have hclosed : blockClosing ∉ (behind ++ gap ++ [blockOpening]) ++ entries := by
      simp [hbehind.1, hclose, hentries, show blockClosing ≠ blockOpening by decide]
    have hwhole : WholeLines (behind ++ gap ++ [blockOpening]).flatten := by
      rw [List.flatten_append, List.flatten_singleton]
      exact Or.inr (List.suffix_append_of_suffix ⟨"import (".toList, rfl⟩)
    have hbodies := blockBodies_first hfirst hclosed below
    refine ⟨behind ++ gap ++ [blockOpening], hwhole, ?_⟩
    simp only [List.append_assoc, List.cons_append, List.nil_append] at hbodies ⊢
    rw [hbodies]
    exact .head _
  · have hfirst : blockOpening ∉ above ++ gap := by simp [hopening, hopen]
    refine ⟨[], wholeLines_nil, ?_⟩
    rw [← List.append_assoc, blockBodies_first hfirst hentries below]
    exact .head _

/-- What such a block names is found. -/
theorem isFound_block (gap : List Line) {rest : List Line} (unclosed : cutAtBlockEnd? (above ++ rest) = none)
    (hopen : blockOpening ∉ gap) (hclose : blockClosing ∉ gap) {paths : List String}
    (hpaths : ∀ i ∈ paths, IsImportPath i) (below : List Line) {path : String} (hpath : path ∈ paths) :
    IsFound path.toList
      (above ++ (gap ++ blockOpening :: (paths.map entryLine ++ blockClosing :: below))) := by
  obtain ⟨opened, hwhole, hmem⟩ :=
    exists_blockBody gap unclosed hopen hclose (blockClosing_not_mem_entries paths) below
  refine Or.inl ⟨_, hmem, ?_⟩
  rw [quotedTexts_body hwhole hpaths]
  exact List.mem_append_right _ (List.mem_map_of_mem hpath)

end Bodies

namespace LinesAdded

variable {paths : List String} {ls ls' : List Line}

theorem isFound_entry (h : LinesAdded (paths.map entryLine) ls ls')
    (hpaths : ∀ i ∈ paths, IsImportPath i) {path : String} (hpath : path ∈ paths) :
    IsFound path.toList ls' := by
  cases h with
  | @extended above body below first closed body_whole =>
    have hclosed : blockClosing ∉ body ++ paths.map entryLine := by
      simp [closed, blockClosing_not_mem_entries]
    rw [IsFound, blockBodies_first first hclosed below]
    refine Or.inl ⟨_, .head _, ?_⟩
    rw [quotedTexts_body body_whole hpaths]
    exact List.mem_append_right _ (List.mem_map_of_mem hpath)
  | @widened above below l single hl unclosed =>
    have hblock : ∀ i ∈ .ofList single :: paths, IsImportPath i :=
      List.forall_mem_cons.2 ⟨(importedBy_eq_some hl).2, hpaths⟩
    exact isFound_block [] unclosed (by simp) (by simp) hblock below (.tail _ hpath)
  | @headed above below above_whole unclosed no_single =>
    exact isFound_block [['\n']] unclosed (by decide) (by decide) hpaths below hpath

theorem isFound (h : LinesAdded (paths.map entryLine) ls ls')
    (hpaths : ∀ i ∈ paths, IsImportPath i) {path : List Char} (hfound : IsFound path ls) :
    IsFound path ls' := by
  cases h with
  | @extended above body below first closed body_whole =>
    have hclosed : blockClosing ∉ body ++ paths.map entryLine := by
      simp [closed, blockClosing_not_mem_entries]
    rw [IsFound, blockBodies_first first closed below] at hfound
    rw [IsFound, blockBodies_first first hclosed below]
    refine hfound.imp ?_ ?_
    · rintro ⟨lines, hmem, hquoted⟩
      rcases List.mem_cons.1 hmem with rfl | hmem
      · refine ⟨_, .head _, ?_⟩
        rw [quotedTexts_body body_whole hpaths]
        exact List.mem_append_left _ hquoted
      · exact ⟨lines, .tail _ hmem, hquoted⟩
    · rintro ⟨l, hl, hsingle⟩
      exact ⟨l, by simp at hl ⊢; tauto, hsingle⟩
  | @widened above below l single hl unclosed =>
    obtain ⟨k, hk, hsingle⟩ : ∃ k ∈ above ++ l :: below, importedBy? k = some path := by
      simpa [IsFound, blockBodies_of_unclosed unclosed] using hfound
    simp only [List.mem_append, List.mem_cons] at hk
    rcases hk with hk | rfl | hk
    · exact Or.inr ⟨k, by simp [hk], hsingle⟩
    · -- the widened line has become an entry itself
      obtain rfl := Option.some.inj (hl.symm.trans hsingle)
      have hblock : ∀ i ∈ .ofList single :: paths, IsImportPath i :=
        List.forall_mem_cons.2 ⟨(importedBy_eq_some hl).2, hpaths⟩
      simpa using isFound_block [] unclosed (by simp) (by simp) hblock below (.head _)
    · exact Or.inr ⟨k, by simp [hk], hsingle⟩
  | @headed above below above_whole unclosed no_single =>
    obtain ⟨k, hk, hsingle⟩ : ∃ k ∈ above ++ below, importedBy? k = some path := by
      simpa [IsFound, blockBodies_of_unclosed unclosed] using hfound
    rw [no_single k hk] at hsingle
    cases hsingle

end LinesAdded

theorem exists_line_entry {path : String} (h : '\n' ∉ path.toList) :
    ∃ m, '\n' ∉ m ∧ entryLine path = m ++ ['\n'] :=
  ⟨['\t', '"'] ++ path.toList ++ ['"'], by simp [h], by simp [entryLine]⟩

/-- The text of lines with entries added has these lines. -/
theorem LinesAdded.lines_flatten {paths : List String} {content : String} {ls : List Line}
    (h : LinesAdded (paths.map entryLine) (lines content.toList) ls)
    (hpaths : ∀ i ∈ paths, IsImportPath i) : lines ls.flatten = ls := by
  have hentries : ∀ i ∈ paths, ∃ m, '\n' ∉ m ∧ entryLine i = m ++ ['\n'] := fun i hi =>
    exists_line_entry (hpaths i hi).no_newline
  have hopening : ∃ m, '\n' ∉ m ∧ blockOpening = m ++ ['\n'] := ⟨"import (".toList, by decide, rfl⟩
  have hclosing : ∃ m, '\n' ∉ m ∧ blockClosing = m ++ ['\n'] := ⟨[')'], by decide, rfl⟩
  generalize hold : lines content.toList = old at h
  cases h with
  | @extended above body below =>
    have hbefore : lines content.toList =
        (above ++ blockOpening :: body) ++ ([] ++ blockClosing :: below) := hold.trans (by simp)
    have hlines := lines_replaced [] (paths.map entryLine) hbefore (wholeLines_of_lines hbefore) wholeLines_nil
      (List.forall_mem_map.2 hentries)
    simpa using hlines
  | @widened above below l path hl =>
    have hpath := importedBy_eq_some hl
    have hline : WholeLines [l].flatten := by
      rw [List.flatten_singleton, hpath.1]
      exact Or.inr (List.suffix_append_of_suffix ⟨['"'], rfl⟩)
    have hlines := lines_replaced [l]
      (blockOpening :: entryLine (.ofList path) :: (paths.map entryLine ++ [blockClosing])) hold (wholeLines_of_lines hold) hline (by
        simp only [List.forall_mem_cons, List.forall_mem_append, List.forall_mem_map]
        exact ⟨hopening, exists_line_entry hpath.2.no_newline, hentries, hclosing, by simp⟩)
    simpa using hlines
  | @headed above below above_whole =>
    have hlines := lines_replaced []
      (['\n'] :: blockOpening :: (paths.map entryLine ++ [blockClosing])) hold above_whole wholeLines_nil (by
        simp only [List.forall_mem_cons, List.forall_mem_append, List.forall_mem_map]
        exact ⟨⟨[], by simp, rfl⟩, hopening, hentries, hclosing, by simp⟩)
    simpa using hlines

section Ensured

variable {content : String} {imports : List String}

/-- The requested paths that a text does not import, in the order of the request. -/
def missingImports (content : String) (imports : List String) : List String :=
  imports.filter (· ∉ existingImports content)

theorem missingImports_eq_nil_iff :
    missingImports content imports = [] ↔ ∀ i ∈ imports, i ∈ existingImports content := by
  simp [missingImports, List.filter_eq_nil_iff]

theorem isImportPath_missing (content : String) (h : ∀ i ∈ imports, IsImportPath i) :
    ∀ i ∈ missingImports content imports, IsImportPath i := fun i hi => h i (List.mem_filter.1 hi).1

theorem ensureImports_eq (content : String) (imports : List String) :
    ensureImports content imports =
      (if missingImports content imports = [] then content
        else addImports content (missingImports content imports), missingImports content imports) := by
  have hmissing : imports.filter (fun i => !(existingImports content).contains i) =
      missingImports content imports := List.filter_congr fun i _ => by simp
  rw [ensureImports]
  simp only [hmissing, List.isEmpty_iff]
  split
  · next h => rw [h]
  · rfl

theorem ensureImports_of_imported (h : ∀ i ∈ imports, i ∈ existingImports content) :
    ensureImports content imports = (content, []) := by
  rw [ensureImports_eq, missingImports_eq_nil_iff.2 h, if_pos rfl]

/-- What a text imports and what it is asked to import are both found in the text that results. -/
theorem mem_existingImports_ensureImports (h : ∀ i ∈ imports, IsImportPath i) {path : String}
    (hpath : path ∈ existingImports content ∨ path ∈ imports) :
    path ∈ existingImports (ensureImports content imports).1 := by
  rw [ensureImports_eq]
  split
  · next hnone => exact hpath.elim id (missingImports_eq_nil_iff.1 hnone path)
  · have hmissing := isImportPath_missing content h
    obtain ⟨ls, hls, hnew⟩ := exists_linesAdded content (missingImports content imports)
    rw [mem_existingImports, hnew, toList_ofLines, hls.lines_flatten hmissing]
    by_cases hno : path ∈ existingImports content
    · exact hls.isFound hmissing (mem_existingImports.1 hno)
    · exact hls.isFound_entry hmissing (by simpa [missingImports, hno] using hpath)

/-- Of the requested paths those are added, in the order of the request, that the text does not
import. The new text imports them all, and whatever the old one imported; asked again, it stays as it
is, like a text that imports all of them already. -/
theorem ensureImports_settled (content : String) (h : ∀ i ∈ imports, IsImportPath i) :
    let result := ensureImports content imports
    result.2 = imports.filter (· ∉ existingImports content) ∧
      (∀ i ∈ imports, i ∈ existingImports result.1) ∧
      (∀ i ∈ existingImports content, i ∈ existingImports result.1) ∧
      ensureImports result.1 imports = (result.1, []) ∧
      ((∀ i ∈ imports, i ∈ existingImports content) → result.1 = content) := by
  intro result
  have hall : ∀ i ∈ imports, i ∈ existingImports result.1 := fun i hi =>
    mem_existingImports_ensureImports h (Or.inr hi)
  have hkept : ∀ i ∈ existingImports content, i ∈ existingImports result.1 := fun i hi =>
    mem_existingImports_ensureImports h (Or.inl hi)
  exact ⟨congrArg Prod.snd (ensureImports_eq content imports), hall, hkept,
    ensureImports_of_imported hall, fun himported => congrArg Prod.fst (ensureImports_of_imported himported)⟩

/-- The opening line that nothing closed takes the lines below it into its block. -/
theorem ensureImports_settled_unclosed :
    let content := "import (\npackage x\nimport \"fmt\"\n"
    let result := ensureImports content ["fmt", "os"]
    result = ("import (\npackage x\nimport (\n\t\"fmt\"\n\t\"os\"\n)\n", ["os"]) ∧
      (∀ i ∈ ["fmt", "os"], i ∈ existingImports result.1) ∧
      ensureImports result.1 ["fmt", "os"] = (result.1, []) := by
  have hpaths : ∀ i ∈ ["fmt", "os"], IsImportPath i := by
    simp only [List.forall_mem_cons]
    exact ⟨⟨by decide, by decide, by decide⟩, ⟨by decide, by decide, by decide⟩, by simp⟩
  obtain ⟨-, hall, -, hagain, -⟩ :=
    ensureImports_settled "import (\npackage x\nimport \"fmt\"\n" hpaths
  exact ⟨by decide +kernel, hall, hagain⟩

end Ensured

end GoScaffold
