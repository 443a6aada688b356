import GoScaffold.Proofs.Entity.Described
import GoScaffold.Proofs.Layer.Catalog
import GoScaffold.Proofs.SharedFile.Run

/-!
# The catalog of domain errors

All entities have their errors in one file. The share of an entity is found by the error for an
invalid record, and a field of another entity can spell that error too: then the share counts as
present before it has come.
-/
namespace GoScaffold

open GoScaffold.Text GoScaffold.Naming GoScaffold.Template

namespace Entity

/-- The errors of the entity under their comment, as they stand in the file. -/
def errorsBlock (e : Entity) : String := textOf e.errorsLines.tail

def errorsArtifact (e : Entity) : Artifact := Piece.errors.artifact e (textOf e.errorsLines)

/-- The error for a field of this entity is named like the error for an invalid record of the
other. -/
def Hides (e other : Entity) : Prop :=
  ∃ m ∈ e.userMembers, e.name ++ m.name = other.name ++ "Data"

instance (e other : Entity) : Decidable (e.Hides other) :=
  inferInstanceAs (Decidable (∃ m ∈ e.userMembers, e.name ++ m.name = other.name ++ "Data"))

end Entity

def errorsPath : String := "internal/domain/errors.go"

def errorsFile : SharedFile where
  path := errorsPath
  package := "domain"
  opener := "var (\n"
  closer := ")\n"

def errorsImports (_ : Artifact) : List String := ["errors"]

/-- The file with the shares of some entities, or none if there are none. -/
def errorsFile? (parts : List Entity) : Option String :=
  errorsFile.file? errorsImports (parts.map Entity.errorsArtifact)

/-- The entities with a share after one more entity has come: it gets none if it is hidden. -/
def withErrors (parts : List Entity) (e : Entity) : List Entity :=
  if ∃ b ∈ parts, b.Hides e then parts else parts ++ [e]

theorem errorsFile_wellFormed : errorsFile.WellFormed where
  package := ⟨by decide, List.all_eq_true.1 (by decide)⟩
  opener := Or.inr ⟨"var (".toList, by decide⟩
  opener_imports := by unfold NoImportLine; decide
  closer := Or.inr ⟨")", rfl, isCloserLine_parenthesis⟩

section Share

variable {e e' : Entity}

theorem markerText_errorsArtifact (e : Entity) :
    e.errorsArtifact.markerText = "\t" ++ e.recordError ++ " " := rfl

theorem marker_start (e : Entity) :
    e.errorsArtifact.markerText = "\tE" ++ ("rrInvalid" ++ e.name ++ "Data ") := by
  simp [markerText_errorsArtifact, Entity.recordError, ← String.toList_inj]

theorem content_errorsArtifact (e : Entity) :
    e.errorsArtifact.content = "\n" ++ e.errorsBlock := by
  change textOf e.errorsLines = _
  rw [Entity.errorsBlock, Entity.errorsLines, blockLines, List.tail_cons, ← String.toList_inj]
  simp [Entity.toList_textOf]

theorem firstContent_errorsArtifact (e : Entity) :
    e.errorsArtifact.firstContent = e.errorsBlock := by
  rw [Artifact.firstContent, content_errorsArtifact, ← String.toList_inj, String.toList_ofList]
  simp [Entity.errorsBlock, Entity.errorsLines, blockLines, Entity.toList_textOf]

theorem isDeclarative_errorsArtifact (h : e.IsDescribed) : e.errorsArtifact.IsDeclarative :=
  Piece.isDeclarative_share (p := .errors) h rfl

theorem isShare_errorsArtifact (h : e.IsDescribed) :
    errorsFile.IsShare ["errors"] e.errorsArtifact where
  path := rfl
  mergeable := rfl
  header := rfl
  opener := rfl
  closer := rfl
  importPaths := by
    intro i hi
    exact ⟨by revert i; decide, by revert i; decide, by revert i; decide⟩
  nodup := by decide
  content := (isDeclarative_errorsArtifact h).content
  content_imports := (isDeclarative_errorsArtifact h).content_imports

theorem word_recordError (h : e.IsDescribed) : IsWord e.recordError := by
  simp +decide only [Entity.recordError, isWord_append, h.name.word, and_self]

/-- The marker of a share is found in the shares that declare its name: that of its own entity and
those of entities that hide it. -/
theorem contains_marker_iff (h : e.IsDescribed) (h' : e'.IsDescribed) :
    contains e'.errorsArtifact.content e.errorsArtifact.markerText = true ↔
      e'.name = e.name ∨ e'.Hides e := by
  have hcomment : IsInline (e'.name ++ " errors") := by
    simp +decide only [isInline_append, h'.inline_name, and_self]
  have hcount := occurrences_blockLines (word_recordError h) hcomment h'.isBlock_domainErrors
  have hne : ("\t" ++ e.recordError ++ " ").toList ≠ [] := by simp
  rw [contains_iff, markerText_errorsArtifact, ← not_iff_not, ← occurrences_eq_zero_iff hne]
  change occurrences _ (textOf (blockLines _ _)).toList = 0 ↔ _
  rw [hcount, List.count_eq_zero, not_iff_not]
  simp only [Entity.domainErrors, List.map_cons, List.map_map, List.mem_cons, List.mem_map,
    Function.comp_apply, Entity.recordError, Entity.fieldError, Entity.Hides]
  have hrecord : "ErrInvalid" ++ e.name ++ "Data" = "ErrInvalid" ++ e'.name ++ "Data" ↔
      e'.name = e.name := affixes_inj.trans eq_comm
  have hfield (m : Member) : "ErrInvalid" ++ e'.name ++ m.name = "ErrInvalid" ++ e.name ++ "Data" ↔
      e'.name ++ m.name = e.name ++ "Data" := by
    simp [← String.toList_inj]
  simp only [hrecord, hfield]

theorem not_contains_append {s a : String} (h : contains s a = false) (b : String) :
    contains s (a ++ b) = false := by
  rw [contains_eq_false_iff, String.toList_append] at *
  exact fun hin => h ((List.prefix_append _ _).isInfix.trans hin)

theorem isMarked_errorsArtifact (h : e.IsDescribed) (parts : List Entity) :
    errorsFile.IsMarked (parts.map Entity.errorsArtifact) e.errorsArtifact where
  nonempty := by simp [markerText_errorsArtifact, ← String.toList_inj]
  no_newline := by
    simp [markerText_errorsArtifact, (word_recordError h).not_mem (c := '\n') (by decide)]
  inside := (contains_marker_iff h h).2 (Or.inl rfl)
  header := by
    have hheader : contains (goHeader "domain" ["errors"]) "\tE" = false := by decide
    rw [List.forall_mem_map, marker_start]
    exact fun b _ => not_contains_append hheader _
  opener := by
    rw [marker_start]
    exact not_contains_append (by decide) _
  closer := by
    rw [marker_start]
    exact not_contains_append (by decide) _

theorem infix_tabbed_iff {n l : List Char} (hl : '\t' ∉ l) :
    '\t' :: n <:+: '\t' :: l ↔ n <+: l := by
  rw [List.infix_cons_iff, List.cons_prefix_cons]
  simp only [true_and, or_iff_left_iff_imp]
  exact fun hin => absurd (hin.subset (by simp)) hl

/-- The comment of a share is in no share of an entity with another name. -/
theorem not_infix_comment (h : e.IsDescribed) (h' : e'.IsDescribed) (hne : e'.name ≠ e.name) :
    ¬ ("\t// " ++ (e.name ++ " errors")).toList <:+: e'.errorsArtifact.content.toList := by
  have hneedle (e : Entity) : ("\t// " ++ (e.name ++ " errors")).toList =
      '\t' :: ("// ".toList ++ (e.name.toList ++ ' ' :: "errors".toList)) := by simp
  have hn : '\n' ∉ ("\t// " ++ (e.name ++ " errors")).toList := by simp [h.inline_name.2]
  have hblock := h'.isBlock_domainErrors
  change ¬ _ <:+: (textOf e'.errorsLines).toList
  rw [Entity.toList_textOf, infix_flatten_iff hn (by simp)
    (List.forall_mem_map.2 fun l _ => wholeLines_newline l.toList), hneedle]
  simp only [List.mem_map, exists_exists_and_eq_and, Entity.errorsLines, blockLines, List.mem_cons]
  rintro ⟨l, rfl | rfl | ⟨d, hd, rfl⟩, hin⟩
  · simpa using hin.subset (List.mem_cons_self ..)
  · rw [hneedle, List.cons_append, infix_tabbed_iff, List.append_assoc, List.append_assoc,
      List.prefix_append_right_inj, List.cons_append, word_prefix_iff] at hin
    · exact hne (String.toList_inj.1 hin.1.symm)
    · exact h.name.word.not_mem (by decide)
    · exact h'.name.word.not_mem (by decide)
    · simp [h'.inline_name.1]
  · have hword := hblock.names d hd
    have hline : ("\t" ++ d.1 ++ " = " ++ d.2).toList =
        '\t' :: (d.1.toList ++ ' ' :: ('=' :: ' ' :: d.2.toList)) := by simp
    have hslashes (rest : List Char) : "// ".toList ++ rest = ['/', '/'] ++ ' ' :: rest := rfl
    rw [hline, List.cons_append, infix_tabbed_iff, List.append_assoc, List.cons_append, hslashes,
      word_prefix_iff (by decide) (hword.not_mem (by decide))] at hin
    · exact hword.not_mem (c := '/') (by decide) (by simp [← hin.1])
    · simp [hword.not_mem (c := '\t') (by decide), (hblock.values d hd).1]

end Share

section Catalog

variable {e : Entity} {parts : List Entity}

theorem exists_marker_iff (hparts : ∀ b ∈ parts, b.IsDescribed) (h : e.IsDescribed) :
    (∃ b ∈ parts.map Entity.errorsArtifact,
      contains b.content e.errorsArtifact.markerText = true) ↔
        ∃ b ∈ parts, b.name = e.name ∨ b.Hides e := by
  simp only [List.mem_map, exists_exists_and_eq_and]
  exact exists_congr fun b => and_congr_right fun hb => contains_marker_iff h (hparts b hb)

theorem shares_of_isDescribed (hparts : ∀ b ∈ parts, b.IsDescribed) :
    ∀ a ∈ parts.map Entity.errorsArtifact, errorsFile.IsShare (errorsImports a) a :=
  List.forall_mem_map.2 fun b hb => isShare_errorsArtifact (hparts b hb)

/-- What merging the share of an entity into the file comes to: nothing if the entity has come before
or is hidden. -/
theorem merge_errorsFile (hparts : ∀ b ∈ parts, b.IsDescribed) (h : e.IsDescribed) :
    textAfter (errorsFile? parts) e.errorsArtifact = errorsFile?
        (if ∃ b ∈ parts, b.name = e.name ∨ b.Hides e then parts else parts ++ [e]) ∧
      ((merge (errorsFile? parts) e.errorsArtifact).2.action = .skipped ↔
        ∃ b ∈ parts, b.name = e.name ∨ b.Hides e) := by
  have hshare : errorsFile.IsShare (errorsImports e.errorsArtifact) e.errorsArtifact :=
    isShare_errorsArtifact h
  by_cases hempty : parts = []
  · subst hempty
    have hmerge := SharedFile.merge_none hshare
    simp [textAfter, errorsFile?, SharedFile.file?, hmerge]
  · have hne : parts.map Entity.errorsArtifact ≠ [] := by simpa using hempty
    have hfile : errorsFile? parts =
        some (errorsFile.text errorsImports (parts.map Entity.errorsArtifact)) := if_neg hne
    have hmerge := SharedFile.merge_text errorsFile_wellFormed (shares_of_isDescribed hparts) hne
      hshare (isMarked_errorsArtifact h parts)
    rw [textAfter, hfile, hmerge]
    by_cases hfound : ∃ b ∈ parts, b.name = e.name ∨ b.Hides e
    · rw [if_pos ((exists_marker_iff hparts h).2 hfound), if_pos hfound, ← hfile]
      simp [hfound]
    · rw [if_neg fun hm => hfound ((exists_marker_iff hparts h).1 hm), if_neg hfound]
      simp [hfound, errorsFile?, SharedFile.file?]

/-- The share of a new entity is left out if the entity is hidden. -/
theorem merge_errorsFile_new (hparts : ∀ b ∈ parts, b.IsDescribed) (h : e.IsDescribed)
    (hnew : e.name ∉ parts.map Entity.name) :
    textAfter (errorsFile? parts) e.errorsArtifact = errorsFile? (withErrors parts e) ∧
      ((merge (errorsFile? parts) e.errorsArtifact).2.action = .skipped ↔
        ∃ b ∈ parts, b.Hides e) := by
  have hfound : (∃ b ∈ parts, b.name = e.name ∨ b.Hides e) ↔ ∃ b ∈ parts, b.Hides e :=
    exists_congr fun b => and_congr_right fun hb =>
      or_iff_right fun hname => hnew (hname ▸ List.mem_map_of_mem hb)
  have hmerge := merge_errorsFile hparts h
  simp only [hfound] at hmerge
  exact hmerge

/-- Where no other entity hides it, an entity has the share with which it first came. -/
theorem textAfter_errorsFile (hparts : ∀ b ∈ parts, b.IsDescribed) (h : e.IsDescribed)
    (hnone : ∀ b ∈ parts, b.Hides e → b.name = e.name) :
    textAfter (errorsFile? parts) e.errorsArtifact = errorsFile? (withFirst parts e) := by
  have hfound : (∃ b ∈ parts, b.name = e.name ∨ b.Hides e) ↔ e.name ∈ parts.map Entity.name := by
    rw [List.mem_map]
    exact exists_congr fun b => and_congr_right fun hb => or_iff_left_of_imp (hnone b hb)
  rw [(merge_errorsFile hparts h).1, withFirst]
  simp only [hfound]

/-- The file declares the errors of all entities that have a share. -/
theorem declaredNames_errorsFile (hparts : ∀ b ∈ parts, b.IsDescribed) {text : String}
    (htext : errorsFile? parts = some text) :
    declaredNames text = parts.flatMap fun b => b.domainErrors.map (·.1) := by
  have hne : parts.map Entity.errorsArtifact ≠ [] := by
    intro hnil
    rw [errorsFile?, SharedFile.file?, if_pos hnil] at htext
    cases htext
  obtain rfl := Option.some.inj ((if_neg hne).symm.trans htext)
  generalize hhead : SharedFile.allImports errorsImports (parts.map Entity.errorsArtifact) = head
  have hshares := shares_of_isDescribed hparts
  have hnewline : ∀ i ∈ head, Lacks ['\n'] i := fun i hi => by
    simpa [Lacks] using SharedFile.no_newline_allImports hshares i (hhead ▸ hi)
  have hquoted : ∀ i ∈ head, declared? ("\t\"" ++ i ++ "\"") = none := fun i hi => by
    obtain ⟨a, -, ha⟩ := List.mem_flatMap.1 (List.mem_eraseDups.1 (hhead ▸ hi))
    exact List.mem_singleton.1 ha ▸ rfl
  have hfile : errorsFile.text errorsImports (parts.map Entity.errorsArtifact) =
      errorsFile.textUnder head (parts.map Piece.errors.share) := by
    rw [SharedFile.text_eq, hhead]
    rfl
  have hnil : parts ≠ [] := fun hnil => hne (by simp [hnil])
  have hopener : errorsFile.opener = textOf ["var ("] := rfl
  rw [hfile, Piece.declaredNames_textUnder rfl hparts hnil hopener (by decide) rfl (by decide)
    hnewline (by decide) hquoted]
  rfl

theorem contains_block (he : e ∈ parts) {text : String} (htext : errorsFile? parts = some text) :
    contains text e.errorsBlock = true := by
  have hmem : e.errorsArtifact ∈ parts.map Entity.errorsArtifact := List.mem_map_of_mem he
  obtain rfl := Option.some.inj ((if_neg (List.ne_nil_of_mem hmem)).symm.trans htext)
  rw [contains_iff, ← firstContent_errorsArtifact, SharedFile.text, String.toList_append,
    String.toList_append]
  exact (SharedFile.firstContent_infix_declarations hmem).trans
    ((List.suffix_append _ _).isInfix.trans (List.prefix_append _ _).isInfix)

/-- A block that is in the file came with the share of an entity of that name. -/
theorem exists_of_contains_block (hparts : ∀ b ∈ parts, b.IsDescribed) (h : e.IsDescribed)
    {text : String} (htext : errorsFile? parts = some text)
    (hc : contains text e.errorsBlock = true) : ∃ b ∈ parts, b.name = e.name := by
  have hne : parts.map Entity.errorsArtifact ≠ [] := by
    intro hnil
    rw [errorsFile?, SharedFile.file?, if_pos hnil] at htext
    cases htext
  obtain rfl := Option.some.inj ((if_neg hne).symm.trans htext)
  have hn : '\n' ∉ ("\t// " ++ (e.name ++ " errors")).toList := by simp [h.inline_name.2]
  have hstart : ("\t// " ++ (e.name ++ " errors")).toList =
      "\t/".toList ++ ("/ " ++ e.name ++ " errors").toList := by simp
  have habsent {s : String} (hs : contains s "\t/" = false) :
      ¬ ("\t// " ++ (e.name ++ " errors")).toList <:+: s.toList := fun hin =>
    (contains_eq_false_iff _ _).1 hs ((hstart ▸ (List.prefix_append _ _).isInfix).trans hin)
  have hcomment : ("\t// " ++ (e.name ++ " errors")).toList <:+: e.errorsBlock.toList :=
    Entity.infix_textOf_of_mem (List.mem_cons_self ..)
  have hheader : contains (goHeader "domain" ["errors"]) "\t/" = false := by decide
  obtain ⟨a, ha, hin⟩ := (SharedFile.infix_text_iff errorsFile_wellFormed
    (shares_of_isDescribed hparts) hne (by simp) hn
    (List.forall_mem_map.2 fun b _ => habsent hheader) (habsent (by decide)) (habsent (by decide))).1
    (hcomment.trans ((contains_iff _ _).1 hc))
  obtain ⟨b, hb, rfl⟩ := List.mem_map.1 ha
  by_contra hnone
  exact not_infix_comment h (hparts b hb) (fun hname => hnone ⟨b, hb, hname⟩) hin

theorem return_not_mem_content (h : e.IsDescribed) :
    '\r' ∉ e.errorsArtifact.content.toList := by
  have hname : '\r' ∉ e.name.toList := h.name.word.not_mem (by decide)
  have hlabel : '\r' ∉ e.label.toList :=
    not_mem_join_lowerWords h.name.word (by decide) (by decide)
  have hfield : ∀ m ∈ e.userMembers, '\r' ∉ m.name.toList ∧ '\r' ∉ (label m.name).toList :=
    fun m hm => ⟨(h.word_member hm).not_mem (by decide),
      not_mem_join_lowerWords (h.word_member hm) (by decide) (by decide)⟩
  change '\r' ∉ (textOf e.errorsLines).toList
  have hlines : ∀ l ∈ e.errorsLines, '\r' ∉ l.toList := by
    simp only [Entity.errorsLines, blockLines, Entity.domainErrors, Entity.recordError,
      Entity.fieldError, newError, goLiteral, List.forall_mem_cons, List.forall_mem_map]
    refine ⟨by decide, by simp [hname], by simp [hname, hlabel], fun m hm => ?_⟩
    simp [hname, hlabel, hfield m hm]
  rw [Entity.toList_textOf]
  intro hmem
  obtain ⟨_, hline, hc⟩ := List.mem_flatten.1 hmem
  obtain ⟨l, hl, rfl⟩ := List.mem_map.1 hline
  exact hlines l hl (by simpa using hc)

/-- Every store gives the file back as it was written. -/
theorem keeps_errorsFile (hparts : ∀ b ∈ parts, b.IsDescribed) (s : Store) :
    ∀ text ∈ errorsFile? parts, s.Keeps text := by
  intro text htext
  have hne : parts.map Entity.errorsArtifact ≠ [] := by
    intro hnil
    rw [errorsFile?, SharedFile.file?, if_pos hnil] at htext
    cases htext
  obtain rfl := Option.some.inj ((if_neg hne).symm.trans htext)
  have hheader : ¬ ['\r'] <:+: (goHeader "domain" ["errors"]).toList := by decide
  cases s with
  | memory => trivial
  | overlay root => trivial
  | disk root =>
    intro hreturn
    obtain ⟨a, ha, hin⟩ := (SharedFile.infix_text_iff errorsFile_wellFormed
      (shares_of_isDescribed hparts) hne (by simp) (by simp) (List.forall_mem_map.2 fun b _ => hheader)
      (by decide) (by decide)).1 ((List.singleton_infix_iff _ _).2 hreturn)
    obtain ⟨b, hb, rfl⟩ := List.mem_map.1 ha
    exact return_not_mem_content (hparts b hb) ((List.singleton_infix_iff _ _).1 hin)

theorem mem_withErrors {b : Entity} (h : b ∈ withErrors parts e) : b ∈ parts ∨ b = e := by
  rw [withErrors] at h
  split at h
  · exact Or.inl h
  · exact (List.mem_append.1 h).imp_right List.mem_singleton.1

theorem mem_foldl_withErrors {es : List Entity} {b : Entity} (h : b ∈ es.foldl withErrors parts) :
    b ∈ parts ∨ b ∈ es := by
  induction es generalizing parts with
  | nil => exact Or.inl h
  | cons e es ih =>
    rcases ih h with h | h
    · rcases mem_withErrors h with h | rfl
      · exact Or.inl h
      · exact Or.inr (List.mem_cons_self ..)
    · exact Or.inr (List.mem_cons_of_mem _ h)

theorem subset_foldl_withErrors {es : List Entity} {b : Entity} (h : b ∈ parts) :
    b ∈ es.foldl withErrors parts := by
  induction es generalizing parts with
  | nil => exact h
  | cons e es ih =>
    refine ih ?_
    rw [withErrors]
    split
    · exact h
    · exact List.mem_append_left _ h

section Order

variable {es : List Entity}

theorem withErrors_sublist : (withErrors parts e ++ es).Sublist (parts ++ e :: es) := by
  rw [withErrors]
  split
  · exact (List.sublist_cons_self e es).append_left parts
  · simp

theorem foldl_withErrors_sublist (es parts : List Entity) :
    (es.foldl withErrors parts).Sublist (parts ++ es) := by
  induction es generalizing parts with
  | nil => simp
  | cons e es ih => exact (ih _).trans withErrors_sublist

/-- The first entity has a share if none hides it, whatever comes later. -/
theorem mem_foldl_cons_iff (hnodup : (parts ++ e :: es).Nodup) :
    e ∈ (e :: es).foldl withErrors parts ↔ ¬ ∃ b ∈ parts, b.Hides e := by
  rw [List.foldl_cons, withErrors]
  by_cases hhidden : ∃ b ∈ parts, b.Hides e
  · rw [if_pos hhidden, iff_false_right (not_not_intro hhidden)]
    intro hmem
    have hapart := List.nodup_append.1 hnodup
    rcases mem_foldl_withErrors hmem with hmem | hmem
    · exact hapart.2.2 e hmem e (by simp) rfl
    · exact (List.nodup_cons.1 hapart.2.1).1 hmem
  · rw [if_neg hhidden, iff_true_right hhidden]
    exact subset_foldl_withErrors (by simp)

/-- All entities have a share if none is hidden by one that came before it. -/
theorem forall_mem_foldl_iff (hnodup : (parts ++ es).Nodup) :
    (∀ e ∈ es, e ∈ es.foldl withErrors parts) ↔
      es.Pairwise (fun e e' => ¬ e.Hides e') ∧ ∀ b ∈ parts, ∀ e ∈ es, ¬ b.Hides e := by
  induction es generalizing parts with
  | nil => simp
  | cons e es ih =>
    rw [List.forall_mem_cons, mem_foldl_cons_iff hnodup, List.foldl_cons,
      ih (hnodup.sublist withErrors_sublist)]
    by_cases hhidden : ∃ b ∈ parts, b.Hides e
    · refine iff_of_false (fun hall => hall.1 hhidden) fun hnone => ?_
      obtain ⟨b, hb, hhides⟩ := hhidden
      exact hnone.2 b hb e (by simp) hhides
    · rw [withErrors, if_neg hhidden]
      push Not at hhidden
      simp only [List.pairwise_cons, List.mem_append, List.mem_singleton, List.forall_mem_cons]
      refine ⟨fun ⟨_, hes, hlater⟩ => ⟨⟨hlater e (Or.inr rfl), hes⟩, fun b hb => ?_⟩,
        fun ⟨⟨he, hes⟩, hlater⟩ => ⟨?_, hes, ?_⟩⟩
      · exact ⟨hhidden b hb, hlater b (Or.inl hb)⟩
      · exact fun ⟨b, hb, hhides⟩ => hhidden b hb hhides
      · rintro b (hb | rfl)
        · exact (hlater b hb).2
        · exact he

/-- The file has all blocks if no entity is hidden by one that came before it. -/
theorem contains_all_iff (hes : ∀ e ∈ es, e.IsDescribed) (hnames : (es.map Entity.name).Nodup) :
    (∀ e ∈ es, ∃ text, errorsFile? (es.foldl withErrors []) = some text ∧
      contains text e.errorsBlock = true) ↔ es.Pairwise fun e e' => ¬ e.Hides e' := by
  have hsubset : ∀ b ∈ es.foldl withErrors [], b ∈ es := fun b hb =>
    (mem_foldl_withErrors hb).resolve_left List.not_mem_nil
  have hnodup : ([] ++ es).Nodup := hnames.of_map _
  have hall := forall_mem_foldl_iff hnodup
  simp only [List.not_mem_nil, false_implies, implies_true, and_true] at hall
  rw [← hall]
  refine forall₂_congr fun e he => ⟨fun ⟨text, htext, hc⟩ => ?_, fun hmem => ?_⟩
  · obtain ⟨b, hb, hname⟩ :=
      exists_of_contains_block (fun b hb => hes b (hsubset b hb)) (hes e he) htext hc
    rwa [← List.inj_on_of_nodup_map hnames (hsubset b hb) he hname]
  · have hne : (es.foldl withErrors []).map Entity.errorsArtifact ≠ [] :=
      List.ne_nil_of_mem (List.mem_map_of_mem hmem)
    exact ⟨_, if_neg hne, contains_block hmem (if_neg hne)⟩

end Order

end Catalog

end GoScaffold
