import GoScaffold.GoSource.Imports
import GoScaffold.Proofs.Text.Lines
import Mathlib.Data.List.TakeWhile

/-!
# Imports behind a generated head

A file that begins with a generated head and has no import after it imports exactly what the head
names, and missing imports extend the head and nothing else.
-/
namespace GoScaffold

open GoScaffold.Text

/-- A name that a package clause can carry. -/
structure IsPackageName (package : String) : Prop where
  nonempty : package ≠ ""
  word : ∀ c ∈ package.toList, isWordChar c = true

/-- A path that an import line can carry. -/
structure IsImportPath (path : String) : Prop where
  nonempty : path ≠ ""
  no_quote : '"' ∉ path.toList
  no_newline : '\n' ∉ path.toList

def importWord : List Char := ['i', 'm', 'p', 'o', 'r', 't', ' ']

/-- No line of the text starts like an import. -/
def NoImportLine (cs : List Char) : Prop := ∀ l ∈ lines cs, ¬ importWord <+: l

def packageLine (package : String) : Line := packageWord ++ package.toList ++ ['\n']

def entryLine (path : String) : Line := ['\t', '"'] ++ path.toList ++ ['"', '\n']

def headLines (package : String) (imports : List String) : List Line :=
  packageLine package :: ['\n'] ::
    if imports = [] then []
    else blockOpening :: (imports.map entryLine ++ [blockClosing, ['\n']])

theorem toList_importEntry (path : String) : (importEntry path).toList = entryLine path := by
  simp [importEntry, entryLine]

theorem toList_importEntries (imports : List String) :
    (concat (imports.map importEntry)).toList = (imports.map entryLine).flatten := by
  simp [toList_concat, Function.comp_def, toList_importEntry]

theorem toList_goHeader (package : String) (imports : List String) :
    (goHeader package imports).toList = (headLines package imports).flatten := by
  by_cases h : imports = []
  · simp [goHeader, headLines, packageLine, packageWord, h]
  · simp [goHeader, headLines, packageLine, packageWord, importBlock, h, toList_importEntries,
      blockOpening, blockClosing]

section Lines

variable {package : String} {imports : List String}

theorem IsPackageName.no_newline (h : IsPackageName package) : '\n' ∉ package.toList :=
  fun hc => absurd (h.word _ hc) (by decide)

theorem exists_headLine (hp : IsPackageName package) (hi : ∀ i ∈ imports, '\n' ∉ i.toList)
    {l : Line} (hl : l ∈ headLines package imports) : ∃ m, '\n' ∉ m ∧ l = m ++ ['\n'] := by
  simp only [headLines, List.mem_cons] at hl
  rcases hl with rfl | rfl | hl
  · exact ⟨packageWord ++ package.toList, by simp [packageWord, hp.no_newline], rfl⟩
  · exact ⟨[], by simp, rfl⟩
  · split at hl
    · simp at hl
    · simp only [List.mem_cons, List.mem_append, List.mem_map, List.not_mem_nil, or_false] at hl
      rcases hl with rfl | ⟨i, hmem, rfl⟩ | rfl | rfl
      · exact ⟨"import (".toList, by decide, rfl⟩
      · exact ⟨['\t', '"'] ++ i.toList ++ ['"'], by simp [hi i hmem],
          by simp [entryLine]⟩
      · exact ⟨[')'], by decide, rfl⟩
      · exact ⟨[], by simp, rfl⟩

theorem lines_goHeader (hp : IsPackageName package) (hi : ∀ i ∈ imports, '\n' ∉ i.toList) :
    lines (goHeader package imports).toList = headLines package imports := by
  rw [toList_goHeader, lines_flatten fun l hl => exists_headLine hp hi hl]

theorem wholeLines_goHeader (hp : IsPackageName package) (hi : ∀ i ∈ imports, '\n' ∉ i.toList) :
    WholeLines (goHeader package imports).toList := by
  rw [toList_goHeader]
  refine wholeLines_flatten fun l hl => ?_
  obtain ⟨m, -, rfl⟩ := exists_headLine hp hi hl
  exact wholeLines_newline m

theorem lines_goHeader_append (hp : IsPackageName package) (hi : ∀ i ∈ imports, '\n' ∉ i.toList)
    (rest : List Char) :
    lines ((goHeader package imports).toList ++ rest) =
      headLines package imports ++ lines rest := by
  rw [lines_append (wholeLines_goHeader hp hi), lines_goHeader hp hi]

end Lines

theorem importWord_prefix_of_importedBy {l : Line} {path : List Char}
    (h : importedBy? l = some path) : importWord <+: l := by
  unfold importedBy? at h
  split at h
  · exact ⟨_, rfl⟩
  · cases h

theorem filterMap_importedBy_eq_nil {ls : List Line} (h : ∀ l ∈ ls, ¬ importWord <+: l) :
    ls.filterMap importedBy? = [] := by
  refine List.filterMap_eq_nil_iff.2 fun l hl => ?_
  cases hp : importedBy? l with
  | none => rfl
  | some path => exact absurd (importWord_prefix_of_importedBy hp) (h l hl)

theorem blockOpening_starts : importWord <+: blockOpening := ⟨['(', '\n'], rfl⟩

theorem blockBodies_eq_nil {ls : List Line} (h : ∀ l ∈ ls, ¬ importWord <+: l) :
    blockBodies 0 ls = [] := by
  induction ls with
  | nil => rfl
  | cons l ls ih =>
    have hl : l ≠ blockOpening := fun he => h l (by simp) (he ▸ blockOpening_starts)
    simp [blockBodies, hl, ih fun m hm => h m (by simp [hm])]

theorem blockBodies_skip (body : List Line) (rest : List Line) :
    blockBodies body.length (body ++ rest) = blockBodies 0 rest := by
  induction body with
  | nil => rfl
  | cons l body ih => simpa [blockBodies] using ih

theorem cutAtClosing_of_body {body : List Line} (h : blockClosing ∉ body) (rest : List Line) :
    cutAtClosing? (body ++ blockClosing :: rest) = some (body, blockClosing :: rest) := by
  induction body with
  | nil => simp [cutAtClosing?]
  | cons l body ih =>
    simp only [List.mem_cons, not_or] at h
    simp [cutAtClosing?, Ne.symm h.1, ih h.2]

theorem blockClosing_not_mem_entries (imports : List String) :
    blockClosing ∉ imports.map entryLine := by
  simp [blockClosing, entryLine]

theorem packageLine_no_import (package : String) : ¬ importWord <+: packageLine package := by
  simp [importWord, packageLine, packageWord]

theorem newline_no_import : ¬ importWord <+: ['\n'] := by decide

theorem quotedTexts_some (seen : List Char) {path : List Char} (hq : '"' ∉ path) (hn : '\n' ∉ path)
    (hne : seen ≠ [] ∨ path ≠ []) (rest : List Char) :
    quotedTexts (some seen) (path ++ '"' :: rest) =
      (seen.reverse ++ path) :: quotedTexts none rest := by
  induction path generalizing seen with
  | nil => simp [quotedTexts, hne.resolve_right (by simp)]
  | cons c path ih =>
    simp only [List.mem_cons, not_or] at hq hn
    have ih := ih (c :: seen) hq.2 hn.2 (Or.inl (List.cons_ne_nil c seen))
    simp [quotedTexts, Ne.symm hq.1, Ne.symm hn.1, ih]

theorem quotedTexts_entryLine {path : String} (h : IsImportPath path) (rest : List Char) :
    quotedTexts none (entryLine path ++ rest) = path.toList :: quotedTexts none rest := by
  have hne : path.toList ≠ [] := by simpa using h.nonempty
  have hs := quotedTexts_some [] h.no_quote h.no_newline (Or.inr hne) ('\n' :: rest)
  simp only [List.reverse_nil, List.nil_append] at hs
  simp [entryLine, quotedTexts, hs]

theorem quotedTexts_entries {imports : List String} (hi : ∀ i ∈ imports, IsImportPath i)
    (rest : List Char) : quotedTexts none ((imports.map entryLine).flatten ++ rest) =
      imports.map String.toList ++ quotedTexts none rest := by
  induction imports with
  | nil => rfl
  | cons i imports ih =>
    rw [List.map_cons, List.flatten_cons, List.append_assoc, quotedTexts_entryLine (hi i (by simp)),
      ih fun j hj => hi j (by simp [hj]), List.map_cons, List.cons_append]

/-- A text that is read between quotes is an import path. -/
theorem isImportPath_of_mem_quotedTexts {current : Option (List Char)} {cs t : List Char}
    (hcurrent : ∀ seen ∈ current, '"' ∉ seen ∧ '\n' ∉ seen) (h : t ∈ quotedTexts current cs) :
    IsImportPath (.ofList t) := by
  fun_induction quotedTexts current cs with
  | case1 => cases h
  | case2 c cs ih =>
    refine ih (fun seen hseen => ?_) h
    split at hseen <;> cases hseen
    simp
  | case3 cs seen hseen ih => exact ih (by simp) h
  | case4 cs seen hseen ih =>
    rcases List.mem_cons.1 h with rfl | h
    · obtain ⟨hquote, hline⟩ := hcurrent seen rfl
      exact ⟨by simpa [← String.toList_inj] using hseen, by simpa using hquote, by simpa using hline⟩
    · exact ih (by simp) h
  | case5 cs seen hquote ih => exact ih (by simp) h
  | case6 c cs seen hquote hline ih =>
    obtain ⟨hquotes, hlines⟩ := hcurrent seen rfl
    exact ih (by simp [Ne.symm hquote, Ne.symm hline, hquotes, hlines]) h

theorem mem_of_mem_quotedTexts {current : Option (List Char)} {cs t : List Char}
    (h : t ∈ quotedTexts current cs) : ∀ c ∈ t, (∃ seen ∈ current, c ∈ seen) ∨ c ∈ cs := by
  intro d hd
  fun_induction quotedTexts current cs with
  | case1 => cases h
  | case2 c cs ih =>
    rcases ih h with ⟨seen, hseen, hmem⟩ | hmem
    · split at hseen <;> cases hseen
      cases hmem
    · exact .inr (List.mem_cons_of_mem c hmem)
  | case3 cs seen hseen ih => exact .inr (List.mem_cons_of_mem _ (by simpa using ih h))
  | case4 cs seen hseen ih =>
    rcases List.mem_cons.1 h with rfl | h
    · exact .inl ⟨seen, rfl, by simpa using hd⟩
    · exact .inr (List.mem_cons_of_mem _ (by simpa using ih h))
  | case5 cs seen hquote ih => exact .inr (List.mem_cons_of_mem _ (by simpa using ih h))
  | case6 c cs seen hquote hline ih => simpa [or_assoc, or_comm, or_left_comm] using ih h

theorem importedBy_eq_some {l : Line} {path : List Char} (h : importedBy? l = some path) :
    l = "import \"".toList ++ path ++ ['"', '\n'] ∧ IsImportPath (.ofList path) := by
  unfold importedBy? at h
  split at h
  · next rest =>
    simp only at h
    split at h
    · next hpath =>
      have hinside : ∀ c ∈ rest.takeWhile fun c => c != '"' && c != '\n', c ≠ '"' ∧ c ≠ '\n' :=
        fun c hc => by simpa using List.mem_takeWhile_imp hc
      cases h
      refine ⟨?_, by simpa [← String.toList_inj] using hpath.1, ?_, ?_⟩
      · rw [← hpath.2, List.append_assoc, List.prefix_iff_eq_append.1 (List.takeWhile_prefix _)]
        rfl
      · exact fun hc => (hinside _ (by simpa using hc)).1 rfl
      · exact fun hc => (hinside _ (by simpa using hc)).2 rfl
    · cases h
  · cases h

/-- Whatever a file holds, only what can stand in an import is taken for one. -/
theorem isImportPath_of_mem_existingImports {content path : String}
    (h : path ∈ existingImports content) : IsImportPath path := by
  rw [existingImports, List.mem_append, List.mem_flatMap, List.mem_map] at h
  rcases h with ⟨body, -, h⟩ | ⟨t, h, rfl⟩
  · obtain ⟨t, ht, rfl⟩ := List.mem_map.1 h
    exact isImportPath_of_mem_quotedTexts (by simp) ht
  · obtain ⟨l, -, hl⟩ := List.mem_filterMap.1 h
    exact (importedBy_eq_some hl).2

/-- The body of the block in a head, where no further block follows. -/
theorem blockBodies_of_body (package : String) {body ls : List Line} (hbody : blockClosing ∉ body)
    (hr : ∀ l ∈ ls, ¬ importWord <+: l) :
    blockBodies 0 (packageLine package :: ['\n'] :: blockOpening ::
      (body ++ blockClosing :: ['\n'] :: ls)) = [body] := by
  have hp : packageLine package ≠ blockOpening :=
    fun h => packageLine_no_import package (h ▸ blockOpening_starts)
  have hn : (['\n'] : Line) ≠ blockOpening := by decide
  have hs : blockBodies (body.length + 1) (body ++ blockClosing :: ['\n'] :: ls) = [] := by
    have hskip := blockBodies_skip (body ++ [blockClosing]) (['\n'] :: ls)
    rw [List.length_append, List.append_assoc] at hskip
    exact hskip.trans (by simp [blockBodies, hn, blockBodies_eq_nil hr])
  simp [blockBodies, hp, hn, cutAtClosing_of_body hbody, hs]

theorem blockBodies_headLines (package : String) (imports : List String) {ls : List Line}
    (hr : ∀ l ∈ ls, ¬ importWord <+: l) :
    blockBodies 0 (headLines package imports ++ ls) =
      if imports = [] then [] else [imports.map entryLine] := by
  by_cases h : imports = []
  · have hlines : ∀ l ∈ headLines package imports ++ ls, ¬ importWord <+: l := by
      simp only [headLines, h, if_true, List.forall_mem_append, List.forall_mem_cons]
      exact ⟨⟨packageLine_no_import package, newline_no_import, by simp⟩, hr⟩
    rw [blockBodies_eq_nil hlines, if_pos h]
  · simpa [headLines, h] using
      blockBodies_of_body package (blockClosing_not_mem_entries imports) hr

theorem importedBy_entryLine (path : String) : importedBy? (entryLine path) = none := by
  simp [entryLine, importedBy?]

theorem importedBy_headLines (package : String) (imports : List String) {ls : List Line}
    (hr : ∀ l ∈ ls, ¬ importWord <+: l) :
    (headLines package imports ++ ls).filterMap importedBy? = [] := by
  have hp : importedBy? (packageLine package) = none := by
    simp [packageLine, packageWord, importedBy?]
  have hn : importedBy? ['\n'] = none := rfl
  have ho : importedBy? blockOpening = none := rfl
  have hc : importedBy? blockClosing = none := rfl
  by_cases h : imports = []
  · simp [headLines, h, hp, hn, filterMap_importedBy_eq_nil hr]
  · simp [headLines, h, hp, hn, ho, hc, importedBy_entryLine, filterMap_importedBy_eq_nil hr]

section Head

variable {package : String} {imports : List String}

theorem map_ofList_toList (ss : List String) : (ss.map String.toList).map String.ofList = ss := by
  simp [Function.comp_def]

theorem existingImports_goHeader (hp : IsPackageName package)
    (hi : ∀ i ∈ imports, IsImportPath i) {rest : String} (hr : NoImportLine rest.toList) :
    existingImports (goHeader package imports ++ rest) = imports := by
  have hl := lines_goHeader_append hp (fun i hmem => (hi i hmem).no_newline) rest.toList
  rw [existingImports, String.toList_append, hl, blockBodies_headLines package imports hr,
    importedBy_headLines package imports hr]
  by_cases h : imports = []
  · simp [h]
  · simp only [h, if_false, List.flatMap_cons, List.flatMap_nil, List.map_nil, List.append_nil]
    have hentries := quotedTexts_entries hi []
    rw [List.append_nil, quotedTexts, List.append_nil] at hentries
    rw [hentries, map_ofList_toList]

/-- What a head imports has no blank if nothing that it names has one. -/
theorem lacks_existingImports (hp : IsPackageName package)
    (hi : ∀ i ∈ imports, Lacks spacing i) {rest : String} (hr : NoImportLine rest.toList) :
    ∀ i ∈ existingImports (goHeader package imports ++ rest), Lacks spacing i := by
  have hl := lines_goHeader_append hp (fun i hmem => hi i hmem _ (by decide)) rest.toList
  intro i hmem
  rw [existingImports, String.toList_append, hl, blockBodies_headLines package imports hr,
    importedBy_headLines package imports hr] at hmem
  split at hmem
  · simp at hmem
  · simp only [List.flatMap_cons, List.flatMap_nil, List.map_nil, List.append_nil,
      List.mem_map] at hmem
    obtain ⟨t, ht, rfl⟩ := hmem
    have hline := (isImportPath_of_mem_quotedTexts (by simp) ht).no_newline
    intro c hc hmem
    rw [String.toList_ofList] at hline hmem
    obtain ⟨l, hl, hcl⟩ := List.mem_flatten.1 ((mem_of_mem_quotedTexts ht c hmem).resolve_left (by simp))
    obtain ⟨j, hj, rfl⟩ := List.mem_map.1 hl
    have hpath : c ∉ j.toList := hi j hj c hc
    have hline : c ≠ '\n' := fun he => hline (he ▸ hmem)
    have hquotes : c ≠ '\t' ∧ c ≠ '"' := by
      simp only [spacing, List.mem_cons, List.not_mem_nil, or_false] at hc
      rcases hc with rfl | rfl | rfl <;> decide
    simp [entryLine, hpath, hline, hquotes] at hcl

theorem cutAtBlockEnd_eq_none {ls : List Line} (h : ∀ l ∈ ls, ¬ importWord <+: l) :
    cutAtBlockEnd? ls = none := by
  induction ls with
  | nil => rfl
  | cons l ls ih =>
    have hl : l ≠ blockOpening := fun he => h l (by simp) (he ▸ blockOpening_starts)
    simp [cutAtBlockEnd?, hl, ih fun m hm => h m (by simp [hm])]

theorem cutAtSingle_eq_none {ls : List Line} (h : ∀ l ∈ ls, ¬ importWord <+: l) :
    cutAtSingle? ls = none := by
  induction ls with
  | nil => rfl
  | cons l ls ih =>
    have hl : importedBy? l = none := by
      cases hp : importedBy? l with
      | none => rfl
      | some path => exact absurd (importWord_prefix_of_importedBy hp) (h l (by simp))
    simp [cutAtSingle?, hl, ih fun m hm => h m (by simp [hm])]

theorem isPackageLine_packageLine (hp : IsPackageName package) :
    isPackageLine (packageLine package) = true := by
  have hw : packageWord.isPrefixOf (packageLine package) = true :=
    List.isPrefixOf_iff_prefix.2 ⟨package.toList ++ ['\n'], by simp [packageLine]⟩
  have hd : (packageLine package).drop packageWord.length = package.toList ++ ['\n'] := by
    simp [packageLine]
  have ht : (package.toList ++ ['\n']).takeWhile isWordChar = package.toList := by
    rw [List.takeWhile_append_of_pos hp.word]
    simp [show isWordChar '\n' = false by decide]
  have hne : package.toList ≠ [] := by simpa using hp.nonempty
  simp [isPackageLine, hw, hd, ht, hne]

theorem startsPackage_packageLine (hp : IsPackageName package) :
    startsPackage (packageLine package) = true := by
  have hw : packageWord.isPrefixOf (packageLine package) = true :=
    List.isPrefixOf_iff_prefix.2 ⟨package.toList ++ ['\n'], by simp [packageLine]⟩
  have hd : (packageLine package).drop packageWord.length = package.toList ++ ['\n'] := by
    simp [packageLine]
  have hne : package.toList ≠ [] := by simpa using hp.nonempty
  obtain ⟨c, cs, hc⟩ := List.exists_cons_of_ne_nil hne
  have hword : isWordChar c = true := hp.word c (by simp [hc])
  simp [startsPackage, hw, hd, hc, hword]

theorem hasPackageClause_goHeader (hp : IsPackageName package)
    (hi : ∀ i ∈ imports, '\n' ∉ i.toList) (rest : String) :
    hasPackageClause (goHeader package imports ++ rest) = true := by
  rw [hasPackageClause, String.toList_append, lines_goHeader_append hp hi]
  simp [headLines, startsPackage_packageLine hp]

/-- The lines of a head that names something, cut where further entries go. -/
theorem cutAtBlockEnd_headLines (h : imports ≠ []) (ls : List Line) :
    cutAtBlockEnd? (headLines package imports ++ ls) =
      some (packageLine package :: ['\n'] :: blockOpening :: imports.map entryLine,
        blockClosing :: ['\n'] :: ls) := by
  have hp : packageLine package ≠ blockOpening :=
    fun he => packageLine_no_import package (he ▸ blockOpening_starts)
  have hn : (['\n'] : Line) ≠ blockOpening := by decide
  have hc := cutAtClosing_of_body (blockClosing_not_mem_entries imports) (['\n'] :: ls)
  simp [headLines, h, cutAtBlockEnd?, hp, hn, hc]

theorem toList_ofLines (ls : List Line) : (ofLines ls).toList = ls.flatten := by
  simp [ofLines]

/-- Missing imports extend the head and leave the rest where it is. -/
theorem addImports_goHeader (hp : IsPackageName package) (hi : ∀ i ∈ imports, '\n' ∉ i.toList)
    {rest : String} (hr : NoImportLine rest.toList) {missing : List String} (hm : missing ≠ []) :
    addImports (goHeader package imports ++ rest) missing =
      goHeader package (imports ++ missing) ++ rest := by
  have hl := lines_goHeader_append hp hi rest.toList
  rw [← String.toList_inj, String.toList_append, toList_goHeader, addImports,
    String.toList_append, hl]
  by_cases h : imports = []
  · subst h
    have hno : ∀ l ∈ headLines package [] ++ lines rest.toList, ¬ importWord <+: l := by
      intro l hmem
      simp only [headLines, if_true, List.cons_append, List.nil_append, List.mem_cons] at hmem
      rcases hmem with rfl | rfl | hmem
      · exact packageLine_no_import package
      · exact newline_no_import
      · exact hr l hmem
    have hcut : cutAfterPackage? (headLines package [] ++ lines rest.toList) =
        some ([packageLine package], ['\n'] :: lines rest.toList) := by
      simp [headLines, cutAfterPackage?, isPackageLine_packageLine hp]
    simp only [cutAtBlockEnd_eq_none hno, cutAtSingle_eq_none hno, hcut]
    simp [toList_ofLines, toList_importEntries, headLines, hm, flatten_lines, blockOpening,
      blockClosing]
  · simp only [cutAtBlockEnd_headLines h]
    simp [toList_ofLines, toList_importEntries, headLines, h, flatten_lines]

/-- Whatever a head names, what is found missing is added to it. -/
theorem ensureImports_under (hp : IsPackageName package) (hi : ∀ i ∈ imports, '\n' ∉ i.toList)
    {rest : String} (hr : NoImportLine rest.toList) {present : List String} (wanted : List String)
    (hpresent : existingImports (goHeader package imports ++ rest) = present) :
    ensureImports (goHeader package imports ++ rest) wanted =
      (goHeader package (imports ++ wanted.filter (· ∉ present)) ++ rest,
        wanted.filter (· ∉ present)) := by
  have hmissing : wanted.filter (fun i => !present.contains i) = wanted.filter (· ∉ present) := by
    refine List.filter_congr fun i _ => ?_
    simp
  rw [ensureImports, hpresent]
  simp only [hmissing]
  by_cases h : wanted.filter (· ∉ present) = []
  · rw [h]
    simp
  · rw [if_neg (by simpa using h), addImports_goHeader hp hi hr h]

end Head

end GoScaffold
