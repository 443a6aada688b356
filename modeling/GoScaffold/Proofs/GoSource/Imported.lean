import GoScaffold.Proofs.GoSource.Outline

/-!
# Files that import what they refer to

What a file imports stands in its head, and what it refers to stands below. The paths in the head are
literals, so that the head itself refers to nothing.
-/
namespace GoScaffold

open GoScaffold.Text GoScaffold.Template

/-- Of certain packages, the file imports those that it refers to, each once, and no other. -/
structure ImportsUsed (packages : List String) (file : String) : Prop where
  nodup : (existingImports file).Nodup
  listed : existingImports file ⊆ packages
  used : ∀ path ∈ packages, path ∈ existingImports file ↔ packageName path ∈ qualifiers file

/-- The path stays in its literal: no quote or line end breaks it off, and what ends the literal is
not escaped. -/
structure IsLiteral (path : String) : Prop where
  no_quote : '"' ∉ path.toList
  no_newline : '\n' ∉ path.toList
  unescaped : path.toList.getLast? ≠ some '\\'

/-- The paths stay in their literals, and generated code knows the packages by the names it uses. -/
structure ArePackages (packages : List String) : Prop where
  literal : ∀ path ∈ packages, IsLiteral path
  names : packages.map packageName = packageNames

section Packages

variable {packages imports names ls : List String} {file : String}

theorem ArePackages.named (h : ArePackages packages) {path : String} (hpath : path ∈ packages) :
    packageName path ∈ packageNames := h.names ▸ List.mem_map_of_mem hpath

theorem ArePackages.inj (h : ArePackages packages) {path path' : String} (hpath : path ∈ packages)
    (hpath' : path' ∈ packages) (he : packageName path = packageName path') : path = path' := by
  have hnodup : (packages.map packageName).Nodup := h.names ▸ by decide
  exact List.inj_on_of_nodup_map hnodup hpath hpath' he

theorem ArePackages.isImportPath (h : ArePackages packages) {path : String} (hpath : path ∈ packages) :
    IsImportPath path where
  nonempty he := absurd (h.named hpath) (by rw [he]; decide)
  no_quote := (h.literal path hpath).no_quote
  no_newline := (h.literal path hpath).no_newline

/-- What a file of lines imports and what the lines refer to, put together. -/
theorem importsUsed_of_scans (hpackages : ArePackages packages) (hsub : imports ⊆ packages)
    (hnodup : (imports.map packageName).Nodup) (himports : existingImports (textOf ls) = imports)
    {m : Mode} (h : Scans .start ls names m)
    (hnames : ∀ name, name ∈ names ↔ name ∈ imports.map packageName) :
    ImportsUsed packages (textOf ls) where
  nodup := himports ▸ hnodup.of_map _
  listed := himports ▸ hsub
  used path hpath := by
    rw [himports, h.mem_qualifiers (hpackages.named hpath), hnames, List.mem_map]
    refine ⟨fun hmem => ⟨path, hmem, rfl⟩, fun ⟨path', hmem, he⟩ => ?_⟩
    exact hpackages.inj (hsub hmem) hpath he ▸ hmem

/-- A package that is imported and not referred to, or the other way round. -/
theorem not_importsUsed_of_scans {m : Mode} (h : Scans .start ls names m) (path : String)
    (hpath : path ∈ packages) (hname : packageName path ∈ packageNames)
    (hdiffer : ¬ (path ∈ existingImports (textOf ls) ↔ packageName path ∈ names)) :
    ¬ ImportsUsed packages (textOf ls) := fun hused =>
  hdiffer ((hused.used path hpath).trans (h.mem_qualifiers hname))

end Packages

/-- Without a quote the reader does not leave a literal, whatever is escaped in it. -/
theorem Mode.after_literal {cs : List Char} (hq : '"' ∉ cs) {m : Mode}
    (hm : m = .quoted '"' ∨ m = .escaped '"') :
    (m.after cs = .quoted '"' ∨ m.after cs = .escaped '"') ∧ m.found cs = [] := by
  induction cs generalizing m with
  | nil => exact ⟨hm, rfl⟩
  | cons c cs ih =>
    rw [List.mem_cons, not_or] at hq
    have hnext : m.next c = .quoted '"' ∨ m.next c = .escaped '"' := by
      rcases hm with rfl | rfl
      · rw [next, if_neg (Ne.symm hq.1)]
        split <;> simp
      · exact .inl rfl
    obtain ⟨hafter, hfound⟩ := ih hq.2 hnext
    exact ⟨hafter, by rw [found, hfound]; rcases hm with rfl | rfl <;> rfl⟩

theorem IsLiteral.after {path : String} (h : IsLiteral path) :
    (Mode.quoted '"').after path.toList = .quoted '"' ∧ (Mode.quoted '"').found path.toList = [] := by
  obtain ⟨-, hfound⟩ := Mode.after_literal h.no_quote (.inl rfl)
  refine ⟨?_, hfound⟩
  rcases List.eq_nil_or_concat path.toList with hnil | ⟨cs, c, hcs⟩
  · rw [hnil]
    rfl
  · rw [List.concat_eq_append] at hcs
    have hc : c ≠ '\\' := fun he => h.unescaped (by simp [hcs, he])
    have hq := h.no_quote
    rw [hcs, List.mem_append, not_or, List.mem_singleton] at hq
    rw [hcs, Mode.after_append]
    rcases (Mode.after_literal hq.1 (.inl rfl)).1 with hm | hm <;> rw [hm]
    · simp [Mode.after, Mode.next, Ne.symm hq.2, hc]
    · rfl

theorem reads_entry {path : String} (h : IsLiteral path) :
    Reads .start ["\t\"" ++ path ++ "\""] [] .start := by
  obtain ⟨hafter, hfound⟩ := h.after
  have hopening : Mode.start.after ['\t', '"'] = .quoted '"' ∧ Mode.start.found ['\t', '"'] = [] :=
    ⟨rfl, rfl⟩
  have htext : (textOf ["\t\"" ++ path ++ "\""]).toList =
      ['\t', '"'] ++ (path.toList ++ ['"', '\n']) := by
    simp [textOf, concat]
  refine ⟨⟨?_, fun name _ => ?_⟩, ?_⟩
  · rw [htext, Mode.after_append, hopening.1, Mode.after_append, hafter]
    rfl
  · rw [htext, Mode.found_append, hopening.1, hopening.2, Mode.found_append, hafter, hfound]
    simp [Mode.found, Mode.found?, Mode.next, Mode.start]
  · simp [IsPlainLine, h.no_newline, importWord]

theorem reads_entries {paths : List String} (h : ∀ path ∈ paths, IsLiteral path) :
    Reads .start (paths.map fun i => "\t\"" ++ i ++ "\"") [] .start :=
  (Reads.map (g := fun _ => []) fun path hpath => reads_entry (h path hpath)).congr (by simp)

section Heads

variable {package : String} {imports packages names ls : List String} {m : Mode}

theorem scans_headerLines (hpackage : Outlined package [.gap .word])
    (hi : ∀ i ∈ imports, IsLiteral i) :
    Scans .start (headerLines package imports) [] .start := by
  have hopening : Scans .start ["package " ++ package, "", "import ("] [] .start :=
    scans_of_outlines (by decide +kernel)
  have hclosing : Scans .start [")", ""] [] .start := scans_of_outlines (by decide +kernel)
  have hbare : Scans .start ["package " ++ package, ""] [] .start :=
    scans_of_outlines (by decide +kernel)
  rw [headerLines, importLines]
  split
  · exact hbare
  · simpa using (hopening.append (reads_entries hi).toScans).append hclosing

section Headed

variable (hpackages : ArePackages packages) (hsub : imports ⊆ packages) (h : Reads .start ls names m)

include hpackages hsub h

theorem existingImports_headerLines (hname : IsPackageName package) :
    existingImports (textOf (headerLines package imports ++ ls)) = imports := by
  rw [textOf_append, ← goHeader_eq]
  exact existingImports_goHeader hname (fun i hi => hpackages.isImportPath (hsub hi))
    (noImportLine_textOf h.plain)

theorem scans_headed (hpackage : Outlined package [.gap .word]) :
    Scans .start (headerLines package imports ++ ls) names m := by
  have hhead := scans_headerLines hpackage fun i hi => hpackages.literal i (hsub hi)
  exact (hhead.append h.toScans).congr (by simp)

/-- A file under a head that names what the lines below refer to. -/
theorem importsUsed_of_reads (hname : IsPackageName package) (hpackage : Outlined package [.gap .word])
    (hnodup : (imports.map packageName).Nodup)
    (hnames : ∀ name, name ∈ names ↔ name ∈ imports.map packageName) :
    ImportsUsed packages (textOf (headerLines package imports ++ ls)) :=
  importsUsed_of_scans hpackages hsub hnodup (existingImports_headerLines hpackages hsub h hname)
    (scans_headed hpackages hsub h hpackage) hnames

theorem not_importsUsed_of_reads (hname : IsPackageName package)
    (hpackage : Outlined package [.gap .word]) (path : String) (hpath : path ∈ packages)
    (hdiffer : ¬ (path ∈ imports ↔ packageName path ∈ names)) :
    ¬ ImportsUsed packages (textOf (headerLines package imports ++ ls)) := by
  refine not_importsUsed_of_scans (scans_headed hpackages hsub h hpackage) path hpath
    (hpackages.named hpath) ?_
  rwa [existingImports_headerLines hpackages hsub h hname]

end Headed

/-- A head whose imports stand in two sections. -/
def sectionedLines (package : String) (above below : List String) : List String :=
  ["package " ++ package, "", "import ("] ++ (above.map fun i => "\t\"" ++ i ++ "\"") ++
    "" :: (below.map fun i => "\t\"" ++ i ++ "\"") ++ [")", ""]

theorem scans_sectionedLines {above below : List String} (hpackage : Outlined package [.gap .word])
    (hi : ∀ i ∈ above ++ below, IsLiteral i) :
    Scans .start (sectionedLines package above below) [] .start := by
  obtain ⟨habove, hbelow⟩ := List.forall_mem_append.1 hi
  have hopening : Scans .start ["package " ++ package, "", "import ("] [] .start :=
    scans_of_outlines (by decide +kernel)
  have hbetween : Scans .start [""] [] .start := scans_of_outlines (by decide +kernel)
  have hclosing : Scans .start [")", ""] [] .start := scans_of_outlines (by decide +kernel)
  simpa [sectionedLines] using (((hopening.append (reads_entries habove).toScans).append hbetween).append
    (reads_entries hbelow).toScans).append hclosing

def sectionedBody (above below : List String) : List Line :=
  above.map entryLine ++ ['\n'] :: below.map entryLine

section Sections

variable {above below : List String} (hname : IsPackageName package)
  (hi : ∀ i ∈ above ++ below, IsImportPath i) (hls : ∀ l ∈ ls, IsPlainLine l)

include hname hi hls

theorem lines_sectioned : lines (textOf (sectionedLines package above below ++ ls)).toList =
    packageLine package :: ['\n'] :: blockOpening ::
      (sectionedBody above below ++ blockClosing :: ['\n'] :: ls.map (·.toList ++ ['\n'])) := by
  have hentries (paths : List String) :
      (paths.map fun i => "\t\"" ++ i ++ "\"").map (·.toList ++ ['\n']) = paths.map entryLine := by
    rw [List.map_map]
    exact List.map_congr_left fun i _ => by simp [entryLine]
  obtain ⟨habove, hbelow⟩ := List.forall_mem_append.1 hi
  rw [lines_textOf]
  · simp only [sectionedLines, sectionedBody, List.map_append, List.map_cons, hentries]
    simp [packageLine, packageWord, blockOpening, blockClosing]
  · have hpaths : ((∀ i ∈ above, '\n' ∉ i.toList) ∧ ∀ i ∈ below, '\n' ∉ i.toList) ∧
        ∀ l ∈ ls, '\n' ∉ l.toList :=
      ⟨⟨fun i hmem => (habove i hmem).no_newline, fun i hmem => (hbelow i hmem).no_newline⟩,
        fun l hl => (hls l hl).1⟩
    simp only [sectionedLines, List.forall_mem_append, List.forall_mem_cons, List.forall_mem_map]
    simpa [hname.no_newline] using hpaths

theorem existingImports_sectioned :
    existingImports (textOf (sectionedLines package above below ++ ls)) = above ++ below := by
  obtain ⟨habove, hbelow⟩ := List.forall_mem_append.1 hi
  have hrest : ∀ l ∈ ls.map (·.toList ++ ['\n']), ¬ importWord <+: l := by
    have hlines := noImportLine_textOf hls
    rwa [NoImportLine, lines_textOf fun l hl => (hls l hl).1] at hlines
  have hclosing : blockClosing ∉ sectionedBody above below := by
    simp [sectionedBody, blockClosing, entryLine]
  have hquoted : quotedTexts none (sectionedBody above below).flatten =
      (above ++ below).map String.toList := by
    have hbelow := quotedTexts_entries hbelow []
    rw [List.append_nil] at hbelow
    simp [sectionedBody, quotedTexts_entries habove, quotedTexts, hbelow]
  have hsingle : (packageLine package :: ['\n'] :: blockOpening :: (sectionedBody above below ++
      blockClosing :: ['\n'] :: ls.map (·.toList ++ ['\n']))).filterMap importedBy? = [] := by
    have hpackage : importedBy? (packageLine package) = none := rfl
    have hnewline : importedBy? ['\n'] = none := rfl
    have hopening : importedBy? blockOpening = none := rfl
    have hclosing : importedBy? blockClosing = none := rfl
    simp [sectionedBody, importedBy_entryLine, filterMap_importedBy_eq_nil hrest, hpackage, hnewline,
      hopening, hclosing]
  rw [existingImports, lines_sectioned hname hi hls, blockBodies_of_body package hclosing hrest, hsingle]
  simp only [List.flatMap_cons, List.flatMap_nil, List.map_nil, List.append_nil]
  rw [hquoted, map_ofList_toList]

end Sections

/-- The same under a head in two sections. -/
theorem importsUsed_of_sectioned {above below : List String} (hpackages : ArePackages packages)
    (hname : IsPackageName package) (hpackage : Outlined package [.gap .word])
    (hsub : above ++ below ⊆ packages) (hnodup : ((above ++ below).map packageName).Nodup)
    (h : Reads .start ls names m)
    (hnames : ∀ name, name ∈ names ↔ name ∈ (above ++ below).map packageName) :
    ImportsUsed packages (textOf (sectionedLines package above below ++ ls)) := by
  have himports := existingImports_sectioned hname (fun i hi => hpackages.isImportPath (hsub hi)) h.plain
  have hscans := (scans_sectionedLines hpackage fun i hi => hpackages.literal i (hsub hi)).append h.toScans
  exact importsUsed_of_scans hpackages hsub hnodup himports hscans (by simpa using hnames)

end Heads

end GoScaffold
