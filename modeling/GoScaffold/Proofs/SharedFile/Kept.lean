import GoScaffold.Proofs.GoSource.Placed
import GoScaffold.Proofs.Workspace.Merged

/-!
# What a merge keeps of a file

A share that goes into a file, or behind it, leaves the text of the file in place up to the line that
closes it; only imports are added. On disk that text has been read with its returns as newlines, so
the bytes in front of the closer stay as they are just when there is no return among them.
-/
namespace GoScaffold

open GoScaffold.Text

/-- What a merge puts at the end of a text that stays. -/
def Artifact.addition (a : Artifact) (action : MergeAction) : String :=
  if action = .fallback then "\n" ++ a.ownBlock else a.content ++ a.closer

/-- The next text of a file with the text `kept ++ rest`: all but the closer's line with imports
added, and behind it what the artifact declares. -/
structure IsContinued (a : Artifact) (o : MergeOutcome) (kept rest inserted next : String) : Prop where
  rest_closes : rest = "" ∨ o.action = .appended ∧ a.closer ≠ "" ∧ IsClosing a.closer kept rest
  imports : ImportsAdded o.importsAdded (endWithNewline kept) inserted
  next_eq : next = inserted ++ a.addition o.action

/-- The part of a fitting file that a share goes behind. -/
def Artifact.kept (a : Artifact) (content : String) : String :=
  if a.closer = "" then content else (withoutCloser? content a.closer).getD content

theorem withoutCloser_kept {content : String} {a : Artifact} (h : fits content a = true)
    (hc : a.closer ≠ "") : withoutCloser? content a.closer = some (a.kept content) := by
  simp only [fits, Bool.and_eq_true, Bool.or_eq_true, beq_iff_eq, hc, false_or] at h
  obtain ⟨kept, hkept⟩ := Option.isSome_iff_exists.1 h.2
  rw [Artifact.kept, if_neg hc, hkept, Option.getD_some]

theorem kept_spec {content : String} {a : Artifact} (h : fits content a = true) :
    ∃ rest, content = a.kept content ++ rest ∧
      (a.closer = "" ∧ rest = "" ∨ a.closer ≠ "" ∧ IsClosing a.closer (a.kept content) rest) := by
  by_cases hc : a.closer = ""
  · exact ⟨"", by rw [Artifact.kept, if_pos hc, String.append_empty], Or.inl ⟨hc, rfl⟩⟩
  · obtain ⟨rest, hrest, hclosing⟩ := isClosing_of_withoutCloser (withoutCloser_kept h hc)
    exact ⟨rest, hrest, Or.inr ⟨hc, hclosing⟩⟩

theorem ne_empty_of_not_blank {s : String} (h : isBlankText s = false) : s ≠ "" := fun he => by
  rw [he] at h
  cases h

/-- If the closer is not blank, the line of it that is found is none of the blank ones. -/
theorem IsClosing.exists_closerLine {closer kept rest : String} (h : IsClosing closer kept rest)
    (hcloser : isBlankText closer = false) : ∃ line blanks : List Char, rest.toList = line ++ blanks ∧
      IsCloserLine line ∧ trimWhile isBlank line = trimWhile isBlank closer.toList ∧
      ∀ c ∈ blanks, isBlank c = true := by
  obtain ⟨line, blanks, hrest, hno, htrim, hblanks⟩ := h.last_line
  refine ⟨line, blanks, hrest, ⟨hno, fun hall => ?_⟩, htrim, hblanks⟩
  rw [trimWhile_eq_nil_iff.2 hall] at htrim
  rw [isBlankText, List.all_eq_true.2 (trimWhile_eq_nil_iff.1 htrim.symm)] at hcloser
  cases hcloser

theorem IsClosing.withoutCloser {closer kept rest : String} (h : IsClosing closer kept rest)
    (hcloser : isBlankText closer = false) : withoutCloser? (kept ++ rest) closer = some kept := by
  obtain ⟨line, blanks, hrest, hline, htrim, hblanks⟩ := h.exists_closerLine hcloser
  rw [withoutCloser_eq closer h.kept_whole hrest hline hblanks, if_pos htrim]

theorem IsClosing.not_blank {closer kept rest : String} (h : IsClosing closer kept rest)
    (hcloser : isBlankText closer = false) : isBlankText rest = false := by
  obtain ⟨line, blanks, hrest, hline, -⟩ := h.exists_closerLine hcloser
  rw [isBlankText, hrest, Bool.eq_false_iff]
  exact fun hall => hline.not_blank fun c hc =>
    List.all_eq_true.1 hall c (List.mem_append_left _ hc)

theorem IsClosing.closer_not_blank {closer kept rest : String} (h : IsClosing closer kept rest)
    (hrest : isBlankText rest = false) : isBlankText closer = false := by
  rw [Bool.eq_false_iff]
  intro hall
  refine absurd (List.all_eq_true.2 fun c hc => ?_) (Bool.eq_false_iff.1 hrest)
  exact (h.mem_rest hc).elim id (List.all_eq_true.1 hall c)

theorem not_blank_of_withoutCloser {content closer kept : String}
    (h : withoutCloser? content closer = some kept) (hcontent : isBlankText content = false) :
    isBlankText closer = false := by
  rw [Bool.eq_false_iff]
  intro hall
  rw [withoutCloser?] at h
  cases hcut : cutAtLastNewline (trimEndWhile isBlank content.toList) with
  | mk body line =>
    obtain ⟨htrimmed, hwhole, -⟩ := cutAtLastNewline_spec hcut
    simp only [hcut, trimWhile_eq_nil_iff.2 (List.all_eq_true.1 hall)] at h
    split at h
    · next hline =>
      obtain rfl := eq_nil_of_trimEndWhile htrimmed (trimWhile_eq_nil_iff.1 hline)
      rw [List.append_nil] at htrimmed
      obtain rfl : body = [] := hwhole.resolve_right fun hends => by
        obtain ⟨front, rfl⟩ := hends
        exact absurd (eq_nil_of_trimEndWhile htrimmed (List.all_eq_true.1 (by decide))) (by simp)
      rw [isBlankText, List.all_eq_true.2 ((trimEndWhile_eq_nil _ _).1 htrimmed)] at hcontent
      cases hcontent
    · cases h

theorem letter_mem_of_startsPackage {cs : List Char} (h : (lines cs).any startsPackage = true) :
    'p' ∈ cs := by
  obtain ⟨l, hl, hstarts⟩ := List.any_eq_true.1 h
  simp only [startsPackage, Bool.and_eq_true, List.isPrefixOf_iff_prefix] at hstarts
  exact mem_of_mem_lines hl (hstarts.1.subset (by decide))

theorem closer_not_blank_of_fits {content : String} {a : Artifact} (h : fits content a = true)
    (hne : a.closer ≠ "") : isBlankText a.closer = false := by
  refine not_blank_of_withoutCloser (withoutCloser_kept h hne) (Bool.eq_false_iff.2 fun hall => ?_)
  rw [fits, Bool.and_eq_true] at h
  exact absurd (List.all_eq_true.1 hall _ (letter_mem_of_startsPackage h.1)) (by decide)

/-- A file has the shape for an artifact if it has a package clause and its last line that is not
blank is the closer's. -/
theorem fits_iff {content : String} {a : Artifact} (hne : a.closer ≠ "") :
    fits content a = true ↔ hasPackageClause content = true ∧ ∃ prior rest, content = prior ++ rest ∧
      IsClosing a.closer prior rest ∧ isBlankText rest = false := by
  constructor
  · intro hfits
    obtain ⟨rest, hrest, hclosing⟩ := isClosing_of_withoutCloser (withoutCloser_kept hfits hne)
    have hblank := hclosing.not_blank (closer_not_blank_of_fits hfits hne)
    rw [fits, Bool.and_eq_true] at hfits
    exact ⟨hfits.1, _, rest, hrest, hclosing, hblank⟩
  · rintro ⟨hclause, prior, rest, rfl, hclosing, hblank⟩
    have hcut := hclosing.withoutCloser (hclosing.closer_not_blank hblank)
    simp [fits, hclause, hcut]

theorem kept_of_isClosing {prior rest : String} {a : Artifact} (h : IsClosing a.closer prior rest)
    (hcloser : isBlankText a.closer = false) : a.kept (prior ++ rest) = prior := by
  rw [Artifact.kept, if_neg (ne_empty_of_not_blank hcloser), h.withoutCloser hcloser, Option.getD_some]

section Appended

variable {content : String} {a : Artifact}

theorem action_ne_created : (merge (some content) a).2.action ≠ .created := by
  rw [merge]
  split_ifs <;> simp

theorem action_eq_appended_iff : (merge (some content) a).2.action = .appended ↔
    a.mergeable = true ∧ isPresent content a = false ∧ fits content a = true := by
  cases hm : a.mergeable with
  | false =>
    by_cases hc : content = a.content <;> simp [merge, hm, hc]
  | true =>
    cases hp : isPresent content a with
    | true => simp [merge, hm, hp]
    | false => cases hf : fits content a <;> simp [merge, hm, hp, hf]

theorem action_of_absent (ha : a.mergeable = true) (habsent : isPresent content a = false) :
    (merge (some content) a).2.action = if fits content a then .appended else .fallback := by
  cases hf : fits content a <;> simp [merge, ha, habsent, hf]

theorem merge_of_fits (ha : a.mergeable = true) (habsent : isPresent content a = false)
    (hfits : fits content a = true) :
    merge (some content) a =
      (some ((ensureImports (endWithNewline (a.kept content)) (headerImports a)).1 ++ a.content ++
          a.closer),
        { path := a.path, action := .appended,
          importsAdded := (ensureImports (endWithNewline (a.kept content)) (headerImports a)).2 }) := by
  simp [merge, ha, habsent, hfits, Artifact.kept]

theorem wholeLines_endWithNewline (s : String) : WholeLines (endWithNewline s).toList := by
  rw [endWithNewline]
  split
  · next h => exact Or.inr (List.isSuffixOf_iff_suffix.1 h)
  · rw [String.toList_append]
    exact wholeLines_newline _

/-- The lines of the kept text are lines of the file, or there is none and an empty one takes their
place. -/
theorem mem_lines_kept (hfits : fits content a = true) {l : Line}
    (hl : l ∈ lines (endWithNewline (a.kept content)).toList) :
    l ∈ lines (endWithNewline content).toList ∨ l = ['\n'] := by
  obtain ⟨rest, hrest, ⟨-, rfl⟩ | ⟨-, hclosing⟩⟩ := kept_spec hfits
  · rw [String.append_empty] at hrest
    rw [← hrest] at hl
    exact Or.inl hl
  · by_cases hkept : a.kept content = ""
    · rw [hkept] at hl
      exact Or.inr (by simpa [endWithNewline, endsWith, lines] using hl)
    · rw [SharedFile.endWithNewline_of_wholeLines hclosing.kept_whole hkept] at hl
      have hmore : ∃ more, endWithNewline content = a.kept content ++ more := by
        rw [endWithNewline]
        split
        · exact ⟨rest, hrest⟩
        · exact ⟨rest ++ "\n", by rw [← String.append_assoc, ← hrest]⟩
      obtain ⟨more, hmore⟩ := hmore
      rw [hmore, String.toList_append, lines_append hclosing.kept_whole]
      exact Or.inl (List.mem_append_left _ hl)

end Appended

/-- A share goes behind the kept text, whatever the file holds. -/
theorem merge_continues {content next : String} {a : Artifact} {o : MergeOutcome}
    (ha : a.mergeable = true) (h : merge (some content) a = (some next, o)) :
    ∃ kept rest inserted, content = kept ++ rest ∧ IsContinued a o kept rest inserted next := by
  simp only [merge, ha, Bool.not_true, Bool.false_eq_true, if_false] at h
  split at h
  · exact absurd (congrArg Prod.fst h) (by simp)
  split at h
  · obtain ⟨hnext, rfl⟩ := Prod.mk.inj h
    refine ⟨content, "", endWithNewline content, String.append_empty.symm, Or.inl rfl,
      .unchanged rfl, ?_⟩
    rw [← Option.some.inj hnext, Artifact.addition, if_pos rfl, String.append_assoc]
  · next hfits =>
    obtain ⟨rest, hrest, hcloses⟩ := kept_spec (a := a) (by simpa using hfits)
    obtain ⟨hnext, rfl⟩ := Prod.mk.inj h
    refine ⟨a.kept content, rest, _, hrest, hcloses.imp And.right fun hc => ⟨rfl, hc⟩,
      importsAdded_ensureImports _ (headerImports a), ?_⟩
    simp only [← Option.some.inj hnext, Artifact.addition, reduceCtorEq, if_false,
      String.append_assoc]

/-- What goes in among the lines of a text: the lines of some imports, or the block of them with the
blank line that sets it apart. -/
inductive IsImportPiece (added : List String) : String → Prop
  | entries : IsImportPiece added (concat (added.map importEntry))
  | block : IsImportPiece added ("\n" ++ importBlock added)

/-- The second text is the first one with a piece of imports at the start of a line, or with the line
of one import as a block that contains it. -/
inductive ImportsSpliced (added : List String) : String → String → Prop
  | inserted {above piece below : String} (above_whole : WholeLines above.toList)
      (of_imports : IsImportPiece added piece) :
      ImportsSpliced added (above ++ below) (above ++ piece ++ below)
  | widened {above path below : String} (above_whole : WholeLines above.toList)
      (is_path : IsImportPath path) :
      ImportsSpliced added (above ++ ("import \"" ++ path ++ "\"\n") ++ below)
        (above ++ importBlock (path :: added) ++ below)

theorem importsSpliced_addImports (content : String) {missing : List String} (h : missing ≠ []) :
    ImportsSpliced missing content (addImports content missing) := by
  obtain ⟨ls, hls, hnew⟩ := exists_linesAdded content missing
  rw [hnew]
  generalize hold : lines content.toList = old at hls
  rw [← ofLines_lines content, hold]
  cases hls with
  | @extended above body below =>
    have hbody : lines content.toList = (above ++ blockOpening :: body) ++ blockClosing :: below :=
      hold.trans (by simp)
    have hinserted : ImportsSpliced missing
        (ofLines (above ++ blockOpening :: body) ++ ofLines (blockClosing :: below))
        (ofLines (above ++ blockOpening :: body) ++ concat (missing.map importEntry) ++
          ofLines (blockClosing :: below)) := .inserted (wholeLines_ofLines hbody) .entries
    simpa [← ofLines_append, ← ofLines_entries] using hinserted
  | @widened above below l path single =>
    have hwidened : ImportsSpliced missing
        (ofLines above ++ ("import \"" ++ .ofList path ++ "\"\n") ++ ofLines below)
        (ofLines above ++ importBlock (.ofList path :: missing) ++ ofLines below) :=
      .widened (wholeLines_ofLines hold) (importedBy_eq_some single).2
    rw [importBlock_of_ne_nil (by simp), ← ofLines_entries] at hwidened
    rw [ofLines_single single, ofLines_block]
    simpa [String.append_assoc] using hwidened
  | @headed above below above_whole =>
    have hpiece : "\n" ++ importBlock missing =
        "\nimport (\n" ++ ofLines (missing.map entryLine) ++ ")\n" := by
      rw [importBlock_of_ne_nil h, ofLines_entries, ← String.toList_inj]
      simp
    have hinserted : ImportsSpliced missing (ofLines above ++ ofLines below)
        (ofLines above ++ ("\n" ++ importBlock missing) ++ ofLines below) :=
      .inserted (toList_ofLines above ▸ above_whole) .block
    rw [hpiece] at hinserted
    rw [ofLines_append, ofLines_headed]
    simpa [String.append_assoc] using hinserted

/-- The text with the imports that it lacks: the same if it lacks none. -/
structure IsImporting (added : List String) (old new : String) : Prop where
  paths : ∀ i ∈ added, IsImportPath i
  same : added = [] → new = old
  spliced : added ≠ [] → ImportsSpliced added old new

theorem isImporting_ensureImports {content : String} {imports : List String}
    (h : ∀ i ∈ imports, IsImportPath i) : IsImporting (ensureImports content imports).2 content
      (ensureImports content imports).1 := by
  rw [ensureImports_eq]
  refine ⟨isImportPath_missing content h, fun hnone => if_pos hnone, fun hsome => ?_⟩
  rw [if_neg hsome]
  exact importsSpliced_addImports content hsome

/-- What comes behind the prior text that a share goes behind: nothing if there is no closer, and
otherwise the last line that is not blank, which is the closer's. -/
inductive IsClosed (closer prior : String) : String → Prop
  | unclosed (no_closer : closer = "") : IsClosed closer prior ""
  | closed {rest : String} (has_closer : closer ≠ "") (closing : IsClosing closer prior rest)
      (not_blank : isBlankText rest = false) : IsClosed closer prior rest

theorem isClosed_kept {content : String} {a : Artifact} (h : fits content a = true)
    (hcloser : a.closer = "" ∨ isBlankText a.closer = false) :
    ∃ rest, content = a.kept content ++ rest ∧ IsClosed a.closer (a.kept content) rest := by
  obtain ⟨rest, hrest, hclosing⟩ := kept_spec h
  refine ⟨rest, hrest, ?_⟩
  rcases hclosing with ⟨hnone, rfl⟩ | ⟨hsome, hclosing⟩
  · exact .unclosed hnone
  · exact .closed hsome hclosing (hclosing.not_blank (hcloser.resolve_left hsome))

section Merge

variable {content : String} {next : Option String} {a : Artifact} {o : MergeOutcome}

/-- Merging a share keeps the prior text. A share that is there already gives no new text, and in a
file of unexpected shape the new text begins with the prior one. Otherwise the new text ends with the
share and the closer, and above them stands the prior text up to the line that closes it, with a
newline at its end and with the imports of the share that it lacked. -/
theorem merge_keeps_prior (ha : a.mergeable = true)
    (hcloser : a.closer = "" ∨ isBlankText a.closer = false)
    (h : merge (some content) a = (next, o)) :
    (o.action = .skipped ∧ next = none) ∨
    (o.action = .fallback ∧ ∃ behind, next = some (content ++ behind)) ∨
    (o.action = .appended ∧ ∃ prior rest body, content = prior ++ rest ∧
      IsClosed a.closer prior rest ∧
      o.importsAdded = missingImports (endWithNewline prior) (headerImports a) ∧
      IsImporting o.importsAdded (endWithNewline prior) body ∧
      next = some (body ++ a.content ++ a.closer)) := by
  simp only [merge, ha, Bool.not_true, Bool.false_eq_true, if_false] at h
  split at h
  · obtain ⟨rfl, rfl⟩ := Prod.mk.inj h
    exact Or.inl ⟨rfl, rfl⟩
  split at h
  · obtain ⟨rfl, rfl⟩ := Prod.mk.inj h
    refine Or.inr (Or.inl ⟨rfl, ?_⟩)
    rw [endWithNewline]
    split
    · exact ⟨_, by rw [String.append_assoc]⟩
    · exact ⟨_, by rw [String.append_assoc, String.append_assoc]⟩
  · next hfits =>
    obtain ⟨rest, hrest, hclosed⟩ := isClosed_kept (by simpa using hfits) hcloser
    obtain ⟨rfl, rfl⟩ := Prod.mk.inj h
    exact Or.inr (Or.inr ⟨rfl, a.kept content, rest, _, hrest, hclosed,
      congrArg Prod.snd (ensureImports_eq _ _),
      isImporting_ensureImports fun i => isImportPath_of_mem_existingImports, rfl⟩)

/-- A block of constants whose file has one import: the import becomes a block. -/
theorem merge_keeps_prior_widened :
    let content := "package limits\n\nimport \"fmt\"\n\nconst (\n\tA = 1\n) \n\n"
    let a : Artifact :=
      { path := "limits.go", content := "\tB = 2\n", mergeable := true, closer := ")\n"
        header := "package limits\n\nimport (\n\t\"errors\"\n)\n\n" }
    let new := "package limits\n\nimport (\n\t\"fmt\"\n\t\"errors\"\n)\n\nconst (\n\tA = 1\n\tB = 2\n)\n"
    (merge (some content) a).1 = some new ∧
      ∃ prior rest body, content = prior ++ rest ∧ IsClosed a.closer prior rest ∧
        ["errors"] = missingImports (endWithNewline prior) (headerImports a) ∧
        IsImporting ["errors"] (endWithNewline prior) body ∧
        some new = some (body ++ a.content ++ a.closer) := by
  intro content a new
  have hmerge : merge (some content) a =
      (some new, { path := "limits.go", action := .appended, importsAdded := ["errors"] }) := by
    decide +kernel
  refine ⟨congrArg Prod.fst hmerge, ?_⟩
  rcases merge_keeps_prior rfl (Or.inr (by decide)) hmerge with ⟨hskip, -⟩ | ⟨hfallback, -⟩ | ⟨-, hprior⟩
  · cases hskip
  · cases hfallback
  · exact hprior

end Merge

/-- Every return of a text with imports added stands in the text or in an added path. -/
theorem count_return_of_importsAdded {added : List String} {s t : String}
    (h : ImportsAdded added s t) :
    t.toList.count '\r' =
      s.toList.count '\r' + (concat (added.map importEntry)).toList.count '\r' := by
  cases h with
  | unchanged h => simp [h, concat]
  | extended => simp [List.count_append]; omega
  | widened => simp [List.count_append, importEntry]; omega
  | headed => simp [List.count_append]; omega

theorem count_return_endWithNewline (s : String) :
    (endWithNewline s).toList.count '\r' = s.toList.count '\r' := by
  rw [endWithNewline]
  split <;> simp

/-- What is kept of a text read with its returns as newlines is kept of the text itself just when
it has no return. -/
theorem IsContinued.raw_iff {a : Artifact} {o : MergeOutcome} {kept rest inserted next : String}
    (h : IsContinued a o (withNewlines kept) rest inserted next) :
    IsContinued a o kept rest inserted next ↔ '\r' ∉ kept.toList := by
  refine ⟨fun hraw => ?_, fun hr => (withNewlines_of_no_return hr) ▸ h⟩
  have hread := count_return_of_importsAdded h.imports
  rw [count_return_of_importsAdded hraw.imports, count_return_endWithNewline,
    count_return_endWithNewline, List.count_eq_zero.2 (no_return_withNewlines kept)] at hread
  exact List.count_eq_zero.1 (by omega)

namespace Store

variable {root : Path} {w w' : Workspace}

theorem existing_of_file {path s : String} {stamp : Nat} {existing : Option String}
    (hfile : w.tree.find (root / path) = .ok (.file s.toUTF8 stamp))
    (hread : (disk root).read w path = .ok existing) (hne : existing ≠ none) :
    existing = some (withNewlines s) := by
  simp only [read, readDisk] at hread
  cases hz : (root / path).hasZero with
  | true =>
    rw [Tree.readText?_of_hasZero hz] at hread
    exact absurd (Except.ok.inj hread).symm hne
  | false =>
    rw [Tree.readText?_of_file hz hfile (Tree.decodeUtf8_toByteArray s)] at hread
    exact (Except.ok.inj hread).symm

theorem find_of_write {path text : String} (h : (disk root).write w path text = (w', none)) :
    ∃ stamp, w'.tree.find (root / path) = .ok (.file text.toUTF8 stamp) := by
  simp only [write, Prod.mk.injEq, Option.map_eq_none_iff] at h
  obtain ⟨rfl, hnone⟩ := h
  exact (Tree.find_writeText (Prod.ext rfl hnone)).2

/-- Merging a share into a file on disk keeps the text in front of the line that closes the file,
with imports added and every return read as a newline; the bytes are kept just when that text has no
return. -/
theorem merge_disk_continues {a : Artifact} {o : MergeOutcome} {s : String} {stamp : Nat}
    (ha : a.mergeable = true)
    (hfile : w.tree.find (root / a.path) = .ok (.file s.toUTF8 stamp))
    (hm : (disk root).merge w a = (w', .ok o))
    (ho : o.action = .appended ∨ o.action = .fallback) :
    ∃ kept rest inserted next stamp', s = kept ++ rest ∧
      w'.tree.find (root / a.path) = .ok (.file next.toUTF8 stamp') ∧
      IsContinued a o (withNewlines kept) (withNewlines rest) inserted next ∧
      (IsContinued a o kept (withNewlines rest) inserted next ↔ '\r' ∉ kept.toList) := by
  obtain ⟨existing, hread, rfl, hwrite⟩ := merge_ok hm
  obtain rfl := existing_of_file hfile hread (by rintro rfl; simp [GoScaffold.merge] at ho)
  rcases hwrite with ⟨hnone, -⟩ | ⟨next, hnext, hwrite⟩
  · have hchanged := changed_merge (some (withNewlines s)) a
    rcases ho with ho | ho <;> simp [hnone, MergeOutcome.changed, ho] at hchanged
  · obtain ⟨k, r, inserted, hs, hcontinued⟩ := merge_continues ha (Prod.ext hnext rfl)
    obtain ⟨kept, rest, rfl, rfl, rfl⟩ := exists_append_of_withNewlines hs
    obtain ⟨stamp', hfind⟩ := find_of_write hwrite
    exact ⟨kept, rest, inserted, next, stamp', rfl, hfind, hcontinued, hcontinued.raw_iff⟩

/-- A file whose lines end with a return and a newline. -/
def returnsTree : Tree where
  entries := [(["limits.go"], .file "package limits\r\n".toUTF8 1)]
  clock := 1

def limitShare : Artifact where
  path := "limits.go"
  content := "var Limit = 1\n"
  mergeable := true

theorem merge_limitShare : ((disk .here).merge { tree := returnsTree } limitShare).2 =
    .ok { path := "limits.go", action := .appended } := by
  have hpath : (Path.here / "limits.go" : Path) = { segments := ["limits.go"] } := by decide +kernel
  have hzero : Path.hasZero { segments := ["limits.go"] } = false := by
    rw [Tree.hasZero_eq]
    decide +kernel
  have hfile : returnsTree.find { segments := ["limits.go"] } =
      .ok (.file "package limits\r\n".toUTF8 1) := rfl
  have hread : returnsTree.readText? (Path.here / "limits.go") =
      .ok (some (withNewlines "package limits\r\n")) := by
    rw [hpath]
    exact Tree.readText?_of_file hzero hfile (Tree.decodeUtf8_toByteArray _)
  have hmerge : GoScaffold.merge (some (withNewlines "package limits\r\n")) limitShare =
      (some "package limits\nvar Limit = 1\n", { path := "limits.go", action := .appended }) := by
    decide +kernel
  have hmade : returnsTree.makeDirectories "" [] = (returnsTree, none) := rfl
  obtain ⟨moved, hmoved⟩ : ∃ moved, returnsTree.writeText (Path.here / "limits.go")
      "package limits\nvar Limit = 1\n" = (moved, none) := by
    rw [hpath]
    exact ⟨_, Tree.writeText_of_steps (by decide) rfl hzero hmade rfl rfl⟩
  exact congrArg Prod.snd
    (merge_disk (w := { tree := returnsTree }) (a := limitShare) hread hmerge hmoved)

/-- The returns of the file do not come back. -/
theorem merge_limitShare_continues : ∃ kept rest inserted next stamp,
    "package limits\r\n" = kept ++ rest ∧
      ((disk .here).merge { tree := returnsTree } limitShare).1.tree.find (Path.here / "limits.go") =
        .ok (.file next.toUTF8 stamp) ∧
      IsContinued limitShare { path := "limits.go", action := .appended } (withNewlines kept)
        (withNewlines rest) inserted next ∧
      (IsContinued limitShare { path := "limits.go", action := .appended } kept
        (withNewlines rest) inserted next ↔ '\r' ∉ kept.toList) := by
  have hmerge : (disk .here).merge { tree := returnsTree } limitShare = (_, .ok _) :=
    Prod.ext rfl merge_limitShare
  have hfile : returnsTree.find (Path.here / limitShare.path) =
      .ok (.file "package limits\r\n".toUTF8 1) := rfl
  exact merge_disk_continues (w := { tree := returnsTree }) (a := limitShare) rfl hfile hmerge
    (Or.inl rfl)

end Store

end GoScaffold

/-! ## Imports and the package clause

The imports of a share go into a text that imports nothing as a block of their own: right behind the
first line that a package clause fills, and above everything else where no line is filled by one,
since a remark behind the clause is enough to hide it. -/

namespace GoScaffold

open GoScaffold.Text

/-- No line opens a block of imports or imports a package, not even the last one once it is ended. -/
def DeclaresNoImport (content : String) : Prop :=
  ∀ l ∈ lines (endWithNewline content).toList, l ≠ blockOpening ∧ importedBy? l = none

/-- Above every block of imports stands a package clause. -/
def ImportsBelowClause (s : String) : Prop :=
  ∀ above below, lines s.toList = above ++ blockOpening :: below → above.any startsPackage = true

/-- A block of imports that goes between lines without imports stands below a package clause just
where one of the lines above it holds a clause. -/
theorem importsBelowClause_iff {s : String} {above below : List Line}
    (hlines : lines s.toList = above ++ ['\n'] :: blockOpening :: below)
    (hopening : blockOpening ∉ above) :
    ImportsBelowClause s ↔ above.any startsPackage = true := by
  have hfirst : lines s.toList = (above ++ [['\n']]) ++ blockOpening :: below := by
    rw [hlines]
    simp
  refine ⟨fun h => ?_, fun hclause above' below' hlines' => ?_⟩
  · have hblank : startsPackage ['\n'] = false := by decide
    simpa [hblank] using h _ _ hfirst
  · -- the lines above the block are above every line that opens one
    have habove : above <+: lines s.toList := hlines ▸ List.prefix_append _ _
    have habove' : above' ++ [blockOpening] <+: lines s.toList := ⟨below', by rw [hlines']; simp⟩
    rcases List.prefix_or_prefix_of_prefix habove habove' with hshort | hlong
    · rcases List.prefix_concat_iff.1 hshort with rfl | ⟨more, rfl⟩
      · exact absurd (by simp) hopening
      · rw [List.any_append, hclause, Bool.true_or]
    · exact absurd (hlong.subset (by simp)) hopening

section Merge

variable {content : String} {a : Artifact}

/-- A share that is appended to a text without imports, and needs some, brings a block of them. The
block stands below the package clause just where a line of the text that stays is filled by a package
clause. -/
theorem merge_importsBelowClause_iff (hmerge : (merge (some content) a).2.action = .appended)
    (himports : headerImports a ≠ []) (hno : DeclaresNoImport content) :
    ∃ above below next, endWithNewline (a.kept content) = above ++ below ∧
      next = above ++ ("\n" ++ importBlock (headerImports a)) ++ below ++ a.content ++ a.closer ∧
      merge (some content) a =
        (some next, { path := a.path, action := .appended, importsAdded := headerImports a }) ∧
      (ImportsBelowClause next ↔
        (lines (endWithNewline (a.kept content)).toList).any isPackageLine = true) := by
  obtain ⟨ha, habsent, hfits⟩ := action_eq_appended_iff.1 hmerge
  set body := endWithNewline (a.kept content) with hbody
  have hlines : ∀ l ∈ lines body.toList, l ≠ blockOpening ∧ importedBy? l = none := by
    intro l hl
    rcases mem_lines_kept hfits hl with hl | rfl
    · exact hno l hl
    · exact ⟨by decide, rfl⟩
  have hopening : blockOpening ∉ lines body.toList := fun hmem => (hlines _ hmem).1 rfl
  have hunclosed := cutAtBlockEnd_of_not_mem hopening
  have hsingle : ∀ l ∈ lines body.toList, importedBy? l = none := fun l hl => (hlines l hl).2
  have hmissing : missingImports body (headerImports a) = headerImports a := by
    have hnone : existingImports body = [] := by
      rw [existingImports, blockBodies_of_unclosed hunclosed, List.filterMap_eq_nil_iff.2 hsingle]
      rfl
    simp [missingImports, hnone]
  have hpaths : ∀ i ∈ headerImports a, IsImportPath i := fun i =>
    isImportPath_of_mem_existingImports
  have hensured : ensureImports body (headerImports a) =
      (addImports body (headerImports a), headerImports a) := by
    rw [ensureImports_eq, hmissing, if_neg himports]
  obtain ⟨above, below, hcut, hnew, hblock, hplace⟩ :=
    exists_block_added hunclosed hsingle himports hpaths
  refine ⟨ofLines above, ofLines below, _, ?_, rfl, ?_, ?_⟩
  · rw [← ofLines_append, ← hcut, ofLines_lines]
  · rw [merge_of_fits ha habsent hfits, ← hbody, hensured, hnew]
  · have habove : blockOpening ∉ above := fun hmem =>
      hopening (hcut ▸ List.mem_append_left _ hmem)
    have hwhole : WholeLines (addImports body (headerImports a)).toList := by
      have h := wholeLines_ensureImports (wholeLines_endWithNewline (a.kept content)) (headerImports a)
      rwa [← hbody, hensured] at h
    have hlinesNext : lines (ofLines above ++ ("\n" ++ importBlock (headerImports a)) ++
        ofLines below ++ a.content ++ a.closer).toList =
          above ++ ['\n'] :: blockOpening :: ((headerImports a).map entryLine ++ blockClosing ::
            below ++ lines (a.content ++ a.closer).toList) := by
      rw [← hnew, String.append_assoc, String.toList_append, lines_append hwhole, hblock,
        List.append_assoc, List.cons_append, List.cons_append]
    rw [importsBelowClause_iff hlinesNext habove]
    rcases hplace with ⟨front, l, rfl, hfills⟩ | ⟨rfl, hnone⟩
    · simp [hcut, hfills, startsPackage_of_isPackageLine hfills]
    · simp [hnone]

/-- A remark behind the package clause: the imports go above it. -/
theorem merge_importsBelowClause_remark :
    let content := "package limits // small numbers\n\nvar (\n\tSmall = 1\n)\n"
    let a : Artifact :=
      { path := "limits.go", content := "\tLarge = 2\n", mergeable := true, opener := "var (\n"
        closer := ")\n", header := "package limits\n\nimport (\n\t\"errors\"\n)\n\n" }
    (merge (some content) a).2.action = .appended ∧ headerImports a ≠ [] ∧
      DeclaresNoImport content ∧
      ∃ next, (merge (some content) a).1 = some next ∧ ¬ ImportsBelowClause next := by
  intro content a
  have hmerge : (merge (some content) a).2.action = .appended := by decide +kernel
  have himports : headerImports a ≠ [] := by decide +kernel
  have hno : DeclaresNoImport content := by
    unfold DeclaresNoImport
    decide +kernel
  obtain ⟨above, below, next, -, -, hnext, hbelow⟩ := merge_importsBelowClause_iff hmerge himports hno
  refine ⟨hmerge, himports, hno, next, by rw [hnext], fun hclause => ?_⟩
  exact absurd (hbelow.1 hclause) (by decide +kernel)

end Merge

end GoScaffold
