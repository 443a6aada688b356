import GoScaffold.Proofs.GoSource.Imports
import GoScaffold.Proofs.Sequence
import GoScaffold.Proofs.SharedFile.Closer

/-!
# Growth of a shared file

The text of a file that holds the shares of some artifacts, and what merging one more artifact into
it does: nothing if its marker stands in a share that is there, and else the same text with one more
share, whose missing imports have gone into the head.
-/
namespace GoScaffold

open GoScaffold.Text

/-- What all shares of one file have in common. -/
structure SharedFile where
  path : String
  package : String
  opener : String
  closer : String

def Artifact.markerText (a : Artifact) : String := a.marker.getD ""

/-- What an artifact declares: whole lines, and no import among them. -/
structure Artifact.IsDeclarative (a : Artifact) : Prop where
  content : endsWith a.content "\n" = true
  content_imports : NoImportLine a.content.toList

namespace SharedFile

structure WellFormed (f : SharedFile) : Prop where
  package : IsPackageName f.package
  opener : WholeLines f.opener.toList
  opener_imports : NoImportLine f.opener.toList
  closer : f.closer = "" ∨ ∃ line, f.closer = line ++ "\n" ∧ IsCloserLine line.toList

/-- An artifact is a share of the file and needs the given imports. -/
structure IsShare (f : SharedFile) (imports : List String) (a : Artifact) : Prop where
  path : a.path = f.path
  mergeable : a.mergeable = true
  header : a.header = goHeader f.package imports
  opener : a.opener = f.opener
  closer : a.closer = f.closer
  importPaths : ∀ i ∈ imports, IsImportPath i
  nodup : imports.Nodup
  content : endsWith a.content "\n" = true
  content_imports : NoImportLine a.content.toList

/-- The marker of an artifact is a text inside one line of its content, and stands in nothing that
surrounds the shares. -/
structure IsMarked (f : SharedFile) (family : List Artifact) (a : Artifact) : Prop where
  nonempty : a.markerText ≠ ""
  no_newline : '\n' ∉ a.markerText.toList
  inside : contains a.content a.markerText = true
  header : ∀ b ∈ family, contains b.header a.markerText = false
  opener : contains f.opener a.markerText = false
  closer : contains f.closer a.markerText = false

section Text

variable (f : SharedFile) (imports : Artifact → List String)

/-- The imports of some artifacts, each once and in order of first occurrence. -/
def allImports (parts : List Artifact) : List String := (parts.flatMap imports).eraseDups

/-- The shares one after another, the first without the blank lines that would set it apart. -/
def declarations : List Artifact → String
  | [] => ""
  | a :: parts => a.firstContent ++ concat (parts.map (·.content))

/-- The shares under a head that imports whatever it imports. -/
def textUnder (head : List String) (parts : List Artifact) : String :=
  goHeader f.package head ++ f.opener ++ declarations parts ++ f.closer

/-- The text of a file with the shares of some artifacts. -/
def text (parts : List Artifact) : String :=
  goHeader f.package (allImports imports parts) ++ f.opener ++ declarations parts ++ f.closer

end Text

theorem isPresent_iff (content : String) (a : Artifact) :
    isPresent content a = true ↔ a.markerText ≠ "" ∧ contains content a.markerText = true := by
  unfold isPresent Artifact.markerText
  cases a.marker with
  | none => simp
  | some m => simp

theorem declarations_append {parts : List Artifact} (h : parts ≠ []) (a : Artifact) :
    declarations (parts ++ [a]) = declarations parts ++ a.content := by
  cases parts with
  | nil => exact absurd rfl h
  | cons b parts => simp [declarations, concat, String.append_assoc]

theorem allImports_append {imports : Artifact → List String} {a : Artifact}
    (h : (imports a).Nodup) (parts : List Artifact) :
    allImports imports (parts ++ [a]) =
      allImports imports parts ++ (imports a).filter (· ∉ allImports imports parts) := by
  have hr : (imports a).removeAll (parts.flatMap imports) =
      (imports a).filter (· ∉ allImports imports parts) := by
    refine List.filter_congr fun i _ => ?_
    simp only [allImports, List.mem_eraseDups, decide_not, List.elem_eq_mem]
  rw [allImports, List.flatMap_append, List.eraseDups_append, List.flatMap_singleton, hr,
    eraseDups_of_nodup (h.filter _)]
  rfl

section Shares

variable {f : SharedFile} {imports : Artifact → List String} {parts : List Artifact}

theorem IsShare.isDeclarative {a : Artifact} {is : List String} (h : f.IsShare is a) :
    a.IsDeclarative := ⟨h.content, h.content_imports⟩

theorem wholeLines_content {a : Artifact} (h : a.IsDeclarative) :
    WholeLines a.content.toList := Or.inr (List.isSuffixOf_iff_suffix.1 h.content)

theorem toList_content (a : Artifact) :
    a.content.toList = a.content.toList.takeWhile (· == '\n') ++ a.firstContent.toList := by
  simp [Artifact.firstContent]

theorem wholeLines_replicate {cs : List Char} (h : ∀ c ∈ cs, c = '\n') : WholeLines cs := by
  rcases List.eq_nil_or_concat cs with rfl | ⟨ds, c, rfl⟩
  · exact wholeLines_nil
  · rw [List.concat_eq_append, h c (by simp)]
    exact wholeLines_newline ds

theorem leading_newlines (a : Artifact) :
    ∀ c ∈ a.content.toList.takeWhile (· == '\n'), c = '\n' := fun c hc => by
  simpa using List.mem_takeWhile_imp hc

/-- A text of one line stands in the content if it stands in the first content. -/
theorem infix_firstContent_iff {n : List Char} (hne : n ≠ []) (hn : '\n' ∉ n) (a : Artifact) :
    n <:+: a.firstContent.toList ↔ n <:+: a.content.toList := by
  rw [toList_content a, infix_append_iff hn (wholeLines_replicate (leading_newlines a))]
  refine ⟨Or.inr, fun h => h.resolve_left fun hin => ?_⟩
  obtain ⟨c, cs, rfl⟩ := List.exists_cons_of_ne_nil hne
  have hc := leading_newlines a c (hin.subset (by simp))
  simp [hc] at hn

theorem firstContent_infix_declarations {a : Artifact} (ha : a ∈ parts) :
    a.firstContent.toList <:+: (declarations parts).toList := by
  obtain ⟨b, bs, rfl⟩ := List.exists_cons_of_ne_nil (List.ne_nil_of_mem ha)
  rw [declarations, String.toList_append]
  rcases List.mem_cons.1 ha with rfl | ha
  · exact (List.prefix_append _ _).isInfix
  · refine List.IsInfix.trans ?_ (List.suffix_append _ _).isInfix
    have hcontent : a.firstContent.toList <:+: a.content.toList := by
      rw [toList_content a]
      exact (List.suffix_append _ _).isInfix
    rw [toList_concat]
    exact hcontent.trans
      (List.infix_of_mem_flatten (List.mem_map_of_mem (List.mem_map_of_mem ha)))

theorem wholeLines_firstContent {a : Artifact} (h : a.IsDeclarative) :
    WholeLines a.firstContent.toList := by
  have hw := wholeLines_content h
  rw [toList_content a] at hw
  exact hw.of_append

theorem noImportLine_firstContent {a : Artifact} (h : a.IsDeclarative) :
    NoImportLine a.firstContent.toList := fun l hl => by
  refine h.content_imports l ?_
  rw [toList_content a, lines_append (wholeLines_replicate (leading_newlines a))]
  exact List.mem_append_right _ hl

theorem NoImportLine.append {a b : List Char} (hw : WholeLines a) (ha : NoImportLine a)
    (hb : NoImportLine b) : NoImportLine (a ++ b) := fun l hl => by
  rw [lines_append hw, List.mem_append] at hl
  exact hl.elim (ha l) (hb l)

theorem wholeLines_contents (h : ∀ b ∈ parts, b.IsDeclarative) :
    WholeLines (concat (parts.map (·.content))).toList := by
  rw [toList_concat]
  refine wholeLines_flatten fun l hl => ?_
  simp only [List.map_map, List.mem_map] at hl
  obtain ⟨b, hb, rfl⟩ := hl
  exact wholeLines_content (h b hb)

theorem noImportLine_contents (h : ∀ b ∈ parts, b.IsDeclarative) :
    NoImportLine (concat (parts.map (·.content))).toList := by
  induction parts with
  | nil => simp [concat, NoImportLine, lines]
  | cons b parts ih =>
    rw [List.map_cons, concat, String.toList_append]
    exact NoImportLine.append (wholeLines_content (h b (by simp))) (h b (by simp)).content_imports
      (ih fun c hc => h c (by simp [hc]))

theorem wholeLines_declarations (h : ∀ b ∈ parts, b.IsDeclarative) :
    WholeLines (declarations parts).toList := by
  cases parts with
  | nil => exact wholeLines_nil
  | cons a parts =>
    rw [declarations, String.toList_append]
    exact (wholeLines_firstContent (h a (by simp))).append
      (wholeLines_contents fun b hb => h b (by simp [hb]))

theorem noImportLine_declarations (h : ∀ b ∈ parts, b.IsDeclarative) :
    NoImportLine (declarations parts).toList := by
  cases parts with
  | nil => simp [declarations, NoImportLine, lines]
  | cons a parts =>
    rw [declarations, String.toList_append]
    exact NoImportLine.append (wholeLines_firstContent (h a (by simp)))
      (noImportLine_firstContent (h a (by simp)))
      (noImportLine_contents fun b hb => h b (by simp [hb]))

/-- A text of one line stands in the declarations if it stands in one share. -/
theorem infix_declarations_iff {n : List Char} (hne : n ≠ []) (hn : '\n' ∉ n)
    (h : ∀ b ∈ parts, b.IsDeclarative) :
    n <:+: (declarations parts).toList ↔ ∃ b ∈ parts, n <:+: b.content.toList := by
  cases parts with
  | nil => simp [declarations, hne]
  | cons a parts =>
    have hw : ∀ l ∈ (parts.map (·.content)).map String.toList, WholeLines l := fun l hl => by
      simp only [List.map_map, List.mem_map] at hl
      obtain ⟨b, hb, rfl⟩ := hl
      exact wholeLines_content (h b (by simp [hb]))
    rw [declarations, String.toList_append,
      infix_append_iff hn (wholeLines_firstContent (h a (by simp))),
      infix_firstContent_iff hne hn, toList_concat, infix_flatten_iff hn hne hw]
    simp

theorem importPaths_allImports (h : ∀ b ∈ parts, f.IsShare (imports b) b) :
    ∀ i ∈ allImports imports parts, IsImportPath i := fun i hi => by
  obtain ⟨b, hb, hi⟩ := List.mem_flatMap.1 (List.mem_eraseDups.1 hi)
  exact (h b hb).importPaths i hi

theorem mem_headLines_of_allImports {l : Line} (hne : parts ≠ [])
    (hl : l ∈ headLines f.package (allImports imports parts)) :
    ∃ b ∈ parts, l ∈ headLines f.package (imports b) := by
  obtain ⟨b, parts, rfl⟩ := List.exists_cons_of_ne_nil hne
  have himports (i : String) (hi : i ∈ allImports imports (b :: parts)) :
      ∃ c ∈ b :: parts, i ∈ imports c := by
    simpa [allImports, List.mem_eraseDups] using hi
  by_cases hall : allImports imports (b :: parts) = []
  · simp only [headLines, hall, if_true, List.mem_cons, List.not_mem_nil, or_false] at hl
    refine ⟨b, by simp, ?_⟩
    rcases hl with rfl | rfl <;> simp [headLines]
  · obtain ⟨i, hi⟩ := List.exists_mem_of_ne_nil _ hall
    obtain ⟨c, hc, hic⟩ := himports i hi
    have hcne : imports c ≠ [] := List.ne_nil_of_mem hic
    simp only [headLines, hall, if_false, List.mem_cons, List.mem_append, List.mem_map,
      List.not_mem_nil, or_false] at hl
    rcases hl with rfl | rfl | rfl | ⟨j, hj, rfl⟩ | rfl | rfl
    · exact ⟨c, hc, by simp [headLines]⟩
    · exact ⟨c, hc, by simp [headLines]⟩
    · exact ⟨c, hc, by simp [headLines, hcne]⟩
    · obtain ⟨d, hd, hjd⟩ := himports j hj
      have hdne : imports d ≠ [] := List.ne_nil_of_mem hjd
      refine ⟨d, hd, ?_⟩
      simp only [headLines, hdne, if_false, List.mem_cons, List.mem_append, List.mem_map]
      exact Or.inr (Or.inr (Or.inr (Or.inl ⟨j, hjd, rfl⟩)))
    · exact ⟨c, hc, by simp [headLines, hcne]⟩
    · exact ⟨c, hc, by simp [headLines, hcne]⟩

theorem not_infix_head (hf : f.WellFormed) (h : ∀ b ∈ parts, f.IsShare (imports b) b)
    (hne : parts ≠ []) {n : List Char} (hnne : n ≠ []) (hn : '\n' ∉ n)
    (hhead : ∀ b ∈ parts, ¬ n <:+: b.header.toList) :
    ¬ n <:+: (goHeader f.package (allImports imports parts)).toList := by
  have hlines (is : List String) (his : ∀ i ∈ is, IsImportPath i) :
      n <:+: (goHeader f.package is).toList ↔ ∃ l ∈ headLines f.package is, n <:+: l := by
    rw [toList_goHeader]
    refine infix_flatten_iff hn hnne fun l hl => ?_
    obtain ⟨m, -, rfl⟩ := exists_headLine hf.package (fun i hi => (his i hi).no_newline) hl
    exact wholeLines_newline m
  rw [hlines _ (importPaths_allImports h)]
  rintro ⟨l, hl, hin⟩
  obtain ⟨b, hb, hlb⟩ := mem_headLines_of_allImports hne hl
  refine hhead b hb ?_
  rw [(h b hb).header, hlines _ (h b hb).importPaths]
  exact ⟨l, hlb, hin⟩

section Under

variable {head : List String}

/-- A text of one line that nothing around the shares has stands in the file if it stands in the
content of some share. -/
theorem infix_textUnder_iff (hf : f.WellFormed) (hi : ∀ i ∈ head, '\n' ∉ i.toList)
    (h : ∀ b ∈ parts, b.IsDeclarative) {n : List Char} (hnne : n ≠ []) (hn : '\n' ∉ n)
    (hhead : ¬ n <:+: (goHeader f.package head).toList) (hopener : ¬ n <:+: f.opener.toList)
    (hcloser : ¬ n <:+: f.closer.toList) :
    n <:+: (f.textUnder head parts).toList ↔ ∃ b ∈ parts, n <:+: b.content.toList := by
  have hw := wholeLines_goHeader hf.package hi
  simp only [textUnder, String.toList_append]
  rw [infix_append_iff hn ((hw.append hf.opener).append (wholeLines_declarations h)),
    infix_append_iff hn (hw.append hf.opener), infix_append_iff hn hw,
    infix_declarations_iff hnne hn h]
  simp only [hhead, hopener, hcloser, false_or, or_false]

theorem endWithNewline_of_wholeLines {s : String} (h : WholeLines s.toList) (hne : s ≠ "") :
    endWithNewline s = s := by
  have hs : endsWith s "\n" = true :=
    List.isSuffixOf_iff_suffix.2 (h.resolve_left (by simpa using hne))
  rw [endWithNewline, if_pos hs]

/-- The body of a file that holds shares, up to its closer. -/
theorem body_textUnder (hf : f.WellFormed) (hi : ∀ i ∈ head, '\n' ∉ i.toList)
    (h : ∀ b ∈ parts, b.IsDeclarative) {body : String}
    (hb : body = goHeader f.package head ++ (f.opener ++ declarations parts)) :
    WholeLines body.toList ∧ body ≠ "" := by
  subst hb
  refine ⟨?_, fun he => ?_⟩
  · simp only [String.toList_append]
    exact (wholeLines_goHeader hf.package hi).append (hf.opener.append (wholeLines_declarations h))
  · have hnil := congrArg String.toList he
    rw [String.toList_append, toList_goHeader] at hnil
    simp [headLines, packageLine] at hnil

theorem noImportLine_rest (hf : f.WellFormed) (h : ∀ b ∈ parts, b.IsDeclarative) :
    NoImportLine (f.opener ++ declarations parts).toList := by
  rw [String.toList_append]
  exact NoImportLine.append hf.opener hf.opener_imports (noImportLine_declarations h)

/-- Merging an artifact that is not present into a file of shares: what its head imports and the
file does not is added to the head, and what it declares to the shares. -/
theorem merge_textUnder (hf : f.WellFormed) (hi : ∀ i ∈ head, '\n' ∉ i.toList)
    (h : ∀ b ∈ parts, b.IsDeclarative) (hne : parts ≠ []) {a : Artifact}
    (hmergeable : a.mergeable = true) (hcloser : a.closer = f.closer)
    (habsent : isPresent (f.textUnder head parts) a = false) {added : List String}
    (hadded : (headerImports a).filter (· ∉ existingImports
      (goHeader f.package head ++ (f.opener ++ declarations parts))) = added) :
    merge (some (f.textUnder head parts)) a =
      (some (f.textUnder (head ++ added) (parts ++ [a])),
        { path := a.path, action := .appended, importsAdded := added }) := by
  set body := goHeader f.package head ++ (f.opener ++ declarations parts) with hbody
  have htext : f.textUnder head parts = body ++ f.closer := by
    simp [textUnder, hbody, String.append_assoc]
  obtain ⟨hw, hbne⟩ := body_textUnder hf hi h hbody
  have hcut : f.closer ≠ "" → withoutCloser? (f.textUnder head parts) f.closer = some body := by
    intro hc
    obtain ⟨line, hline, hl⟩ := hf.closer.resolve_left hc
    rw [htext, hline, withoutCloser_append hw hl]
  have hfits : fits (f.textUnder head parts) a = true := by
    have hclause : hasPackageClause (f.textUnder head parts) = true := by
      rw [htext, hbody, String.append_assoc]
      exact hasPackageClause_goHeader hf.package hi _
    rw [fits, hclause, hcloser]
    by_cases hc : f.closer = ""
    · simp [hc]
    · simp [hcut hc]
  have hcutAt : (if a.closer = "" then f.textUnder head parts
      else (withoutCloser? (f.textUnder head parts) a.closer).getD (f.textUnder head parts)) =
        body := by
    rw [hcloser]
    by_cases hc : f.closer = ""
    · rw [if_pos hc, htext, hc, String.append_empty]
    · rw [if_neg hc, hcut hc, Option.getD_some]
  have hensure := ensureImports_under hf.package hi (noImportLine_rest hf h)
    (headerImports a) rfl
  have hmerge : merge (some (f.textUnder head parts)) a =
      (some ((ensureImports (endWithNewline body) (headerImports a)).1 ++ a.content ++ a.closer),
        { path := a.path, action := .appended,
          importsAdded := (ensureImports (endWithNewline body) (headerImports a)).2 }) := by
    rw [merge]
    simp [hmergeable, habsent, hfits, hcutAt]
  rw [hmerge, endWithNewline_of_wholeLines hw hbne, hbody, hensure, hadded, hcloser]
  simp [textUnder, declarations_append hne, String.append_assoc]

end Under

theorem text_eq (f : SharedFile) (imports : Artifact → List String) (parts : List Artifact) :
    f.text imports parts = f.textUnder (allImports imports parts) parts := rfl

theorem no_newline_allImports (h : ∀ b ∈ parts, f.IsShare (imports b) b) :
    ∀ i ∈ allImports imports parts, '\n' ∉ i.toList := fun i hi =>
  (importPaths_allImports h i hi).no_newline

/-- A text of one line that nothing around the shares has stands in the file if it stands in the
content of some share. -/
theorem infix_text_iff (hf : f.WellFormed) (h : ∀ b ∈ parts, f.IsShare (imports b) b)
    (hne : parts ≠ []) {n : List Char} (hnne : n ≠ []) (hn : '\n' ∉ n)
    (hhead : ∀ b ∈ parts, ¬ n <:+: b.header.toList) (hopener : ¬ n <:+: f.opener.toList)
    (hcloser : ¬ n <:+: f.closer.toList) :
    n <:+: (f.text imports parts).toList ↔ ∃ b ∈ parts, n <:+: b.content.toList :=
  infix_textUnder_iff hf (no_newline_allImports h) (fun b hb => (h b hb).isDeclarative) hnne hn
    (not_infix_head hf h hne hnne hn hhead) hopener hcloser

/-- A share is taken as present if its marker stands in the content of some share. -/
theorem isPresent_text (hf : f.WellFormed) (h : ∀ b ∈ parts, f.IsShare (imports b) b)
    (hne : parts ≠ []) {a : Artifact} (ha : f.IsMarked parts a) :
    isPresent (f.text imports parts) a = true ↔
      ∃ b ∈ parts, contains b.content a.markerText = true := by
  simp only [isPresent_iff, and_iff_right ha.nonempty, contains_iff]
  exact infix_text_iff hf h hne (by simpa using ha.nonempty) ha.no_newline
    (fun b hb => (contains_eq_false_iff _ _).1 (ha.header b hb))
    ((contains_eq_false_iff _ _).1 ha.opener) ((contains_eq_false_iff _ _).1 ha.closer)

theorem headerImports_share (hf : f.WellFormed) {a : Artifact} {is : List String}
    (ha : f.IsShare is a) : headerImports a = is := by
  have hno : NoImportLine ("" : String).toList := by simp [NoImportLine, lines]
  have h := existingImports_goHeader hf.package ha.importPaths hno
  rwa [String.append_empty, ← ha.header] at h

/-- Merging a share into a file of shares. -/
theorem merge_text (hf : f.WellFormed) (h : ∀ b ∈ parts, f.IsShare (imports b) b)
    (hne : parts ≠ []) {a : Artifact} (ha : f.IsShare (imports a) a) (hm : f.IsMarked parts a) :
    merge (some (f.text imports parts)) a =
      if ∃ b ∈ parts, contains b.content a.markerText = true then
        (none, { path := f.path, action := .skipped })
      else
        (some (f.text imports (parts ++ [a])),
          { path := f.path, action := .appended,
            importsAdded := (imports a).filter (· ∉ allImports imports parts) }) := by
  have hpresent := isPresent_text hf h hne hm
  have hdeclarative : ∀ b ∈ parts, b.IsDeclarative := fun b hb => (h b hb).isDeclarative
  by_cases hp : ∃ b ∈ parts, contains b.content a.markerText = true
  · rw [if_pos hp]
    simp [merge, ha.mergeable, hpresent.2 hp, ha.path]
  · rw [if_neg hp]
    have hpf : isPresent (f.text imports parts) a = false := by
      rw [← Bool.not_eq_true, hpresent]
      exact hp
    have hexisting := existingImports_goHeader hf.package (importPaths_allImports h)
      (noImportLine_rest hf hdeclarative)
    have hmerge := merge_textUnder hf (no_newline_allImports h) hdeclarative hne ha.mergeable
      ha.closer hpf rfl
    rw [hexisting, headerImports_share hf ha, ha.path, ← allImports_append ha.nodup] at hmerge
    exact hmerge

theorem merge_none {a : Artifact} (ha : f.IsShare (imports a) a) :
    merge none a = (some (f.text imports [a]), { path := f.path, action := .created }) := by
  have hall : allImports imports [a] = imports a := by
    rw [allImports, List.flatMap_singleton, eraseDups_of_nodup ha.nodup]
  simp [merge, Artifact.freshFile, ha.mergeable, ha.header, ha.opener, ha.closer, ha.path, text,
    hall, declarations, concat]

end Shares

end SharedFile

end GoScaffold

/-! ## Merging twice

Whatever a file holds and whatever merging does with it, the text that is left is one in which the
same artifact is found, so that merging it again changes nothing. -/

namespace GoScaffold

open GoScaffold.Text

/-- A share that can be found again: its marker stands in what it declares. -/
def Artifact.IsTraceable (a : Artifact) : Prop :=
  a.mergeable = true → a.markerText ≠ "" ∧ contains a.firstContent a.markerText = true

def textAfter (existing : Option String) (a : Artifact) : Option String :=
  (merge existing a).1.or existing

theorem contains_of_infix {s part needle : String} (h : contains part needle = true)
    (hp : part.toList <:+: s.toList) : contains s needle = true :=
  (contains_iff _ _).2 (((contains_iff _ _).1 h).trans hp)

theorem firstContent_suffix (a : Artifact) : a.firstContent.toList <:+ a.content.toList := by
  rw [SharedFile.toList_content a]
  exact List.suffix_append _ _

theorem infix_middle (x y z : String) : y.toList <:+: (x ++ y ++ z).toList :=
  ⟨x.toList, z.toList, by simp⟩

theorem merge_of_isPresent {content : String} {a : Artifact} (ha : a.mergeable = true)
    (h : isPresent content a = true) :
    merge (some content) a = (none, { path := a.path, action := .skipped }) := by
  simp [merge, ha, h]

/-- What a merge writes for a share ends with what the share declares, closed or not. -/
theorem exists_merge_eq {a : Artifact} (ha : a.mergeable = true) {existing : Option String}
    (h : ∀ content, existing = some content → isPresent content a = false) :
    ∃ before part, (merge existing a).1 = some (before ++ part ++ a.closer) ∧
      a.firstContent.toList <:+: part.toList := by
  cases existing with
  | none =>
    refine ⟨a.header ++ a.opener, a.firstContent, ?_, List.infix_rfl⟩
    rw [merge, Artifact.freshFile, if_pos ha]
  | some content =>
    have hp := h content rfl
    cases hf : fits content a with
    | true =>
      let body :=
        if a.closer = "" then content else (withoutCloser? content a.closer).getD content
      refine ⟨(ensureImports (endWithNewline body) (headerImports a)).1, a.content, ?_,
        (firstContent_suffix a).isInfix⟩
      simp only [merge, ha, hp, hf, Bool.not_true, Bool.false_eq_true, if_false, body]
    | false =>
      refine ⟨endWithNewline content ++ "\n" ++ a.opener, a.firstContent, ?_, List.infix_rfl⟩
      simp only [merge, ha, hp, hf, Bool.not_true, Bool.not_false, Bool.false_eq_true, if_false,
        if_true, Artifact.ownBlock, String.append_assoc]

/-- A file of one artifact has its text, whatever it was before. -/
theorem textAfter_of_not_mergeable {a : Artifact} (hm : a.mergeable = false)
    (existing : Option String) : textAfter existing a = some a.content := by
  cases existing with
  | none => simp [textAfter, merge, Artifact.freshFile, hm]
  | some content =>
    by_cases hc : content = a.content
    · simp [textAfter, merge, hm, hc]
    · simp [textAfter, merge, hm, hc]

/-- Merging an artifact into the text that it has been merged into changes nothing. -/
theorem merge_textAfter {a : Artifact} (ha : a.IsTraceable) (existing : Option String) :
    merge (textAfter existing a) a = (none, { path := a.path, action := .skipped }) := by
  cases hm : a.mergeable with
  | false =>
    rw [textAfter_of_not_mergeable hm]
    simp [merge, hm]
  | true =>
    obtain ⟨hne, hmarker⟩ := ha hm
    by_cases hp : ∃ content, existing = some content ∧ isPresent content a = true
    · obtain ⟨content, rfl, hpresent⟩ := hp
      have hskip := merge_of_isPresent hm hpresent
      rw [textAfter, hskip]
      exact hskip
    · push Not at hp
      obtain ⟨before, part, hmerge, hpart⟩ := exists_merge_eq hm fun content hc =>
        Bool.eq_false_iff.2 (hp content hc)
      rw [textAfter, hmerge]
      refine merge_of_isPresent hm ((SharedFile.isPresent_iff _ _).2 ⟨hne, ?_⟩)
      exact contains_of_infix hmarker (hpart.trans (infix_middle _ _ _))

end GoScaffold
