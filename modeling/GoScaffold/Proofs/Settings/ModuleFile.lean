import GoScaffold.Proofs.Text.PlainLines
import GoScaffold.Proofs.Text.Trim
import GoScaffold.Proofs.Workspace.Written
import GoScaffold.Settings.Advice

/-!
# The module path of a project

A module file declares its path on a line of its own. The path is read off the first such line that
has a space behind the word `module`; any other gap hides the line. What is read is all the rest of
the line, so a comment behind the path becomes a part of it.
-/
namespace GoScaffold

open GoScaffold.Text

namespace Settings

def moduleWord : List Char := "module".toList

theorem moduleLineStart_eq : moduleLineStart = moduleWord ++ [' '] := by decide

/-- What stands on a line up to its first gap. -/
def firstWord (line : List Char) : List Char :=
  (line.dropWhile isBlank).takeWhile fun c => !isBlank c

/-- White space within a line. -/
def IsSpacing (cs : List Char) : Prop := ∀ c ∈ cs, isBlank c = true ∧ isLineBreak c = false

instance (cs : List Char) : Decidable (IsSpacing cs) :=
  List.decidableBAll (fun c => isBlank c = true ∧ isLineBreak c = false) cs

theorem IsSpacing.blank {cs : List Char} (h : IsSpacing cs) {c : Char} (hc : c ∈ cs) :
    isBlank c = true :=
  (h c hc).1

/-- A line that declares a module path. -/
structure ModuleDirective where
  indent : List Char
  gap : List Char
  path : List Char
  isQuoted : Bool
  margin : List Char
  comment : Option (List Char)
  indent_spacing : IsSpacing indent
  gap_spacing : IsSpacing gap
  gap_ne : gap ≠ []
  path_ne : path ≠ []
  path_plain : ∀ c ∈ path, isBlank c = false ∧ c ≠ '"'
  path_no_comment : ¬ "//".toList <:+: path
  margin_spacing : IsSpacing margin
  comment_inline : ∀ cs ∈ comment, IsOnOneLine cs

section Line

variable {indent rest line : List Char}

theorem moduleOn?_eq_none (h : ¬ moduleLineStart <+: line.dropWhile isBlank) :
    moduleOn? line = none := by
  have hno : moduleLineStart.isPrefixOf (trimWhile isBlank line) = false := by
    rw [Bool.eq_false_iff]
    exact fun hprefix =>
      h ((List.isPrefixOf_iff_prefix.1 hprefix).trans ( trimEndWhile_prefix isBlank _))
  rw [moduleOn?, hno, if_neg Bool.false_ne_true]

theorem moduleOn?_eq_none_of_firstWord (h : firstWord line ≠ moduleWord) : moduleOn? line = none := by
  refine moduleOn?_eq_none fun hprefix => h ?_
  obtain ⟨rest, hrest⟩ := hprefix
  rw [firstWord, ← hrest]
  rfl

theorem dropWhile_indent (hindent : ∀ c ∈ indent, isBlank c = true) (rest : List Char) :
    (indent ++ (moduleWord ++ rest)).dropWhile isBlank = moduleWord ++ rest := by
  rw [List.dropWhile_append_of_pos hindent]
  rfl

theorem moduleOn?_of_hidden (hindent : ∀ c ∈ indent, isBlank c = true) (hrest : rest.head? ≠ some ' ') :
    moduleOn? (indent ++ (moduleWord ++ rest)) = none := by
  refine moduleOn?_eq_none fun hprefix => hrest ?_
  rw [dropWhile_indent hindent, moduleLineStart_eq, List.prefix_append_right_inj] at hprefix
  obtain ⟨tail, rfl⟩ := hprefix
  rfl

/-- Behind the word and a space everything is read, but for white space and quotes at its ends. -/
theorem moduleOn?_of_space (hindent : ∀ c ∈ indent, isBlank c = true)
    (hrest : ¬ ∀ c ∈ rest, isBlank c = true) :
    moduleOn? (indent ++ (moduleWord ++ ' ' :: rest)) =
      some (String.ofList (trimWhile (· == '"') (trimWhile isBlank rest))) := by
  have htrim : trimWhile isBlank (indent ++ (moduleWord ++ ' ' :: rest)) =
      moduleLineStart ++ trimEndWhile isBlank rest := by
    rw [trimWhile, dropWhile_indent hindent, ← trimEndWhile_append _ hrest, moduleLineStart_eq,
      List.append_assoc, List.singleton_append]
  have hprefix : moduleLineStart.isPrefixOf (moduleLineStart ++ trimEndWhile isBlank rest) = true :=
    List.isPrefixOf_iff_prefix.2 (List.prefix_append ..)
  rw [moduleOn?, htrim, if_pos hprefix, List.drop_left, trimWhile_trimEndWhile]

end Line

namespace ModuleDirective

def written (d : ModuleDirective) : List Char :=
  if d.isQuoted then '"' :: (d.path ++ ['"']) else d.path

def remark (d : ModuleDirective) : List Char := (d.comment.map ("//".toList ++ ·)).getD []

def line (d : ModuleDirective) : List Char :=
  d.indent ++ (moduleWord ++ (d.gap ++ (d.written ++ (d.margin ++ d.remark))))

variable (d : ModuleDirective)

theorem written_not_blank {c : Char} (h : c ∈ d.written) : isBlank c = false := by
  rw [written] at h
  split at h
  · rcases List.mem_cons.1 h with rfl | h
    · decide
    · rcases List.mem_append.1 h with h | h
      · exact (d.path_plain c h).1
      · rw [List.mem_singleton.1 h]
        decide
  · exact (d.path_plain c h).1

theorem not_all_blank (front back : List Char) :
    ¬ ∀ c ∈ front ++ (d.written ++ back), isBlank c = true := by
  intro hall
  have hne : d.written ≠ [] := by
    rw [written]
    split
    · exact List.cons_ne_nil _ _
    · exact d.path_ne
  obtain ⟨c, hc⟩ := List.exists_mem_of_ne_nil _ hne
  have hblank := hall c (List.mem_append_right _ (List.mem_append_left _ hc))
  rw [d.written_not_blank hc] at hblank
  cases hblank

theorem trimWhile_written : trimWhile (· == '"') d.written = d.path := by
  have hpath : ∀ c ∈ d.path, (c == '"') = false := fun c hc => by simp [(d.path_plain c hc).2]
  rw [written]
  split
  · exact trimWhile_enclosed rfl hpath
  · exact trimWhile_of_forall_not hpath

theorem line_inline : IsOnOneLine d.line := by
  have hspacing {cs : List Char} (h : IsSpacing cs) : IsOnOneLine cs := fun c hc => (h c hc).2
  have hword : IsOnOneLine moduleWord := by decide
  have hwritten : IsOnOneLine d.written := fun c hc => by
    rw [Bool.eq_false_iff]
    intro hbreak
    have hblank := isBlank_of_isLineBreak hbreak
    rw [d.written_not_blank hc] at hblank
    cases hblank
  have hremark : IsOnOneLine d.remark := by
    rw [remark]
    cases hcomment : d.comment with
    | none => exact List.forall_mem_nil _
    | some cs =>
      have hslashes : IsOnOneLine "//".toList := by decide
      exact List.forall_mem_append.2 ⟨hslashes, d.comment_inline cs hcomment⟩
  simp only [line, IsOnOneLine, List.forall_mem_append]
  exact ⟨hspacing d.indent_spacing, hword, hspacing d.gap_spacing, hwritten,
    hspacing d.margin_spacing, hremark⟩

theorem line_ne : d.line ≠ [] := by
  have hword : moduleWord ≠ [] := by decide
  simp [line, hword]

/-- Only without a comment is the path the text that is left of the rest of the line. -/
theorem trimmed_eq_path_iff {gap : List Char} (hgap : ∀ c ∈ gap, isBlank c = true) :
    trimWhile (· == '"') (trimWhile isBlank (gap ++ (d.written ++ (d.margin ++ d.remark)))) = d.path ↔
      d.comment = none := by
  constructor
  · intro h
    cases hcomment : d.comment with
    | none => rfl
    | some cs =>
      -- neither of the trims takes the slashes away, and the path has no two in a row
      have hblank : ∀ c ∈ "//".toList, isBlank c = false := by simp [isBlank]
      have hquote : ∀ c ∈ "//".toList, (c == '"') = false := by simp
      have hremark : d.remark = "//".toList ++ cs := by rw [remark, hcomment]; rfl
      refine absurd ?_ d.path_no_comment
      rw [← h]
      refine infix_trimWhile hquote (infix_trimWhile hblank ?_)
      exact ⟨gap ++ (d.written ++ d.margin), cs, by simp [hremark]⟩
  · intro hcomment
    have hremark : d.remark = [] := by rw [remark, hcomment]; rfl
    have hwritten := d.not_all_blank [] []
    rw [List.nil_append, List.append_nil] at hwritten
    rw [hremark, List.append_nil, ← List.append_assoc,
      trimWhile_append_of_all _ fun c hc => d.margin_spacing.blank hc,
      (trimWhile_append_eq_iff gap hwritten).2 hgap,
      trimWhile_of_forall_not fun c hc => d.written_not_blank hc, trimWhile_written]

theorem moduleOn?_line_of_space (h : d.gap.head? = some ' ') :
    ∃ read, moduleOn? d.line = some read ∧ (read = String.ofList d.path ↔ d.comment = none) := by
  obtain ⟨gap, hgap⟩ := List.head?_eq_some_iff.1 h
  have hblank : ∀ c ∈ gap, isBlank c = true := fun c hc =>
    d.gap_spacing.blank (hgap ▸ List.mem_cons_of_mem _ hc)
  have hread := moduleOn?_of_space (fun c hc => d.indent_spacing.blank hc)
    (d.not_all_blank gap (d.margin ++ d.remark))
  rw [← List.cons_append, ← hgap] at hread
  refine ⟨_, hread, ?_⟩
  rw [String.ofList_inj, d.trimmed_eq_path_iff hblank]

theorem moduleOn?_line_of_hidden (h : d.gap.head? ≠ some ' ') : moduleOn? d.line = none := by
  refine moduleOn?_of_hidden (fun c hc => d.indent_spacing.blank hc) fun hhead => h ?_
  rwa [List.head?_append_of_ne_nil _ d.gap_ne] at hhead

end ModuleDirective

section Text

variable {above below : List Char} (d : ModuleDirective)

/-- Text that goes on with a break starts with an empty line, which declares nothing. -/
theorem findSome?_tail_plainLines (h : ∀ c ∈ below.head?, isLineBreak c = true) :
    (plainLines below).tail.findSome? moduleOn? = (plainLines below).findSome? moduleOn? := by
  have hhead := headD_plainLines h
  cases hlines : plainLines below with
  | nil => rfl
  | cons l ls =>
    rw [hlines, List.headD_cons] at hhead
    rw [hhead]
    rfl

/-- The text below a directive counts only if nothing is read off the directive. -/
theorem moduleIn_directive (habove : ∀ l ∈ plainLines above, firstWord l ≠ moduleWord)
    (hstart : ∀ c ∈ above.getLast?, isLineBreak c = true)
    (hend : ∀ c ∈ below.head?, isLineBreak c = true) :
    moduleIn (String.ofList (above ++ (d.line ++ below))) =
      (moduleOn? d.line).getD (moduleIn (String.ofList below)) := by
  have hfirst : (d.line ++ below).head? ≠ some '\n' := fun h => by
    rw [List.head?_append_of_ne_nil _ d.line_ne] at h
    exact absurd (d.line_inline _ (List.mem_of_head? h)) (by decide)
  have hnone : (plainLines above).findSome? moduleOn? = none :=
    List.findSome?_eq_none_iff.2 fun l hl => moduleOn?_eq_none_of_firstWord (habove l hl)
  rw [moduleIn, moduleIn, String.toList_ofList, String.toList_ofList,
    plainLines_append hstart hfirst, plainLines_line_append d.line_ne d.line_inline hend,
    List.findSome?_append, hnone, Option.none_or, List.findSome?_cons, findSome?_tail_plainLines hend]
  cases moduleOn? d.line <;> rfl

theorem moduleIn_withNewlines (s : String) : moduleIn (withNewlines s) = moduleIn s := by
  rw [moduleIn, moduleIn, withNewlines, String.toList_ofList, plainLines_normalizeNewlines]

variable {t : Tree} {root : Path} {stamp : Nat}

theorem detectModule_of_file {text : String} (hz : (root / "go.mod").hasZero = false)
    (hfile : t.find (root / "go.mod") = .ok (.file text.toUTF8 stamp)) :
    detectModule t root = .ok (moduleIn text) := by
  have hpresent : t.isFile (root / "go.mod") = .ok true := by
    simp [Tree.isFile, Tree.probe, hz, hfile, Except.map]
  have hread := Tree.readText_of_file hfile (Tree.decodeUtf8_toByteArray text)
  simp only [detectModule, hpresent, hread, Except.map, moduleIn_withNewlines]

/-- Below lines that start with other words, a directive with a space behind its first word decides
what the module path is, and this is its own path just when no comment follows. A directive with
another gap counts as nothing: the path is what the text below it says, or the default. -/
theorem detectModule_directive (hz : (root / "go.mod").hasZero = false)
    (hfile : t.find (root / "go.mod") =
      .ok (.file (String.ofList (above ++ (d.line ++ below))).toUTF8 stamp))
    (habove : ∀ l ∈ plainLines above, firstWord l ≠ moduleWord)
    (hstart : ∀ c ∈ above.getLast?, isLineBreak c = true)
    (hend : ∀ c ∈ below.head?, isLineBreak c = true) :
    (d.gap.head? = some ' ' → ∃ read, detectModule t root = .ok read ∧
      (read = String.ofList d.path ↔ d.comment = none)) ∧
    (d.gap.head? ≠ some ' ' → detectModule t root = .ok (moduleIn (String.ofList below))) := by
  have htext := detectModule_of_file hz hfile
  rw [moduleIn_directive d habove hstart hend] at htext
  constructor
  · intro hspace
    obtain ⟨read, hread, hpath⟩ := d.moduleOn?_line_of_space hspace
    rw [hread] at htext
    exact ⟨read, htext, hpath⟩
  · intro hhidden
    rw [d.moduleOn?_line_of_hidden hhidden] at htext
    exact htext

end Text

def moduleTree (text : String) : Tree where
  entries := [(["go.mod"], .file text.toUTF8 1)]
  clock := 1

def spacedDirective : ModuleDirective where
  indent := [' ']
  gap := [' ', '\t']
  path := "example.com/shop".toList
  isQuoted := true
  margin := ['\t']
  comment := none
  indent_spacing := by decide
  gap_spacing := by decide
  gap_ne := by decide
  path_ne := by decide
  path_plain := by simp [isBlank]
  path_no_comment := by decide
  margin_spacing := by decide
  comment_inline := by simp

def tabbedDirective : ModuleDirective :=
  { spacedDirective with
    gap := ['\t']
    gap_spacing := by decide
    gap_ne := by decide }

theorem detectModule_directive_shop :
    detectModule (moduleTree "// shop\r\n module \t\"example.com/shop\"\t\r\ngo 1.22\r\n") .here =
      .ok "example.com/shop" ∧
    detectModule (moduleTree "// shop\r\n module\t\"example.com/shop\"\t\r\ngo 1.22\r\n") .here =
      .ok defaultModule := by
  have hz : (Path.here / "go.mod" : Path).hasZero = false := by
    rw [Tree.hasZero_eq]
    decide +kernel
  have habove : ∀ l ∈ plainLines "// shop\r\n".toList, firstWord l ≠ moduleWord := by decide
  have hstart : ∀ c ∈ "// shop\r\n".toList.getLast?, isLineBreak c = true := by
    simp [isLineBreak]
  have hend : ∀ c ∈ "\r\ngo 1.22\r\n".toList.head?, isLineBreak c = true := by
    simp [isLineBreak]
  have hfile (text : String) :
      (moduleTree text).find (Path.here / "go.mod") = .ok (.file text.toUTF8 1) := rfl
  constructor
  · obtain ⟨read, hread, hpath⟩ :=
      (detectModule_directive spacedDirective hz (hfile _) habove hstart hend).1 rfl
    rw [hpath.2 rfl] at hread
    exact hread
  · exact (detectModule_directive tabbedDirective hz (hfile _) habove hstart hend).2 (by decide)

end Settings

end GoScaffold
