import GoScaffold.Proofs.Layer.SharedText
import GoScaffold.Proofs.Text.Occurrence

/-!
# Blocks of declarations

In a block every name stands behind the only tab of its line and is a word, so a tab and a name and
a blank are found as often as the name is declared.
-/
namespace GoScaffold

open GoScaffold.Text GoScaffold.Naming GoScaffold.Template

/-- Without tab and newline. -/
def IsInline (s : String) : Prop := '\t' ∉ s.toList ∧ '\n' ∉ s.toList

instance (s : String) : Decidable (IsInline s) :=
  inferInstanceAs (Decidable ('\t' ∉ s.toList ∧ '\n' ∉ s.toList))

theorem isInline_append {s t : String} : IsInline (s ++ t) ↔ IsInline s ∧ IsInline t := by
  simp only [IsInline, String.toList_append, List.mem_append, not_or]
  exact ⟨fun h => ⟨⟨h.1.1, h.2.1⟩, h.1.2, h.2.2⟩, fun h => ⟨⟨h.1.1, h.2.1⟩, h.1.2, h.2.2⟩⟩

theorem isInline_of_isWord {s : String} (h : IsWord s) : IsInline s :=
  ⟨h.not_mem (by decide), h.not_mem (by decide)⟩

theorem isInline_join_lowerWords {s sep : String} (h : IsWord s) (hsep : IsInline sep) :
    IsInline (join sep (lowerWords s)) :=
  ⟨not_mem_join_lowerWords h (by decide) hsep.1, not_mem_join_lowerWords h (by decide) hsep.2⟩

theorem isInline_plural {s : String} (h : IsInline s) : IsInline (plural s) :=
  ⟨not_mem_plural (by decide) h.1, not_mem_plural (by decide) h.2⟩

theorem mem_replaceFrom {old new cs : List Char} {skip : Nat} {c : Char}
    (h : c ∈ replaceFrom old new skip cs) : c ∈ new ∨ c ∈ cs := by
  induction cs generalizing skip with
  | nil => simp [replaceFrom] at h
  | cons d cs ih =>
    cases skip with
    | succ skip => exact (ih h).imp_right (List.mem_cons_of_mem d)
    | zero =>
      rw [replaceFrom] at h
      split at h
      · rcases List.mem_append.1 h with h | h
        · exact Or.inl h
        · exact (ih h).imp_right (List.mem_cons_of_mem d)
      · rcases List.mem_cons.1 h with rfl | h
        · exact Or.inr (by simp)
        · exact (ih h).imp_right (List.mem_cons_of_mem d)

theorem isInline_replace {old new s : String} (hold : old.isEmpty = false) (hnew : IsInline new)
    (hs : IsInline s) : IsInline (replace old new s) := by
  rw [replace, hold]
  simp only [Bool.false_eq_true, if_false, IsInline, String.toList_ofList]
  exact ⟨fun h => (mem_replaceFrom h).elim hnew.1 hs.1,
    fun h => (mem_replaceFrom h).elim hnew.2 hs.2⟩

/-- Each name is a word, and its value stays on the line. -/
structure IsBlock (declarations : List (String × String)) : Prop where
  names : ∀ d ∈ declarations, IsWord d.1
  values : ∀ d ∈ declarations, IsInline d.2

/-- A text of one line is found in some lines as often as in all of them together. -/
theorem occurrences_textOf {n : List Char} (hn : '\n' ∉ n) (hne : n ≠ []) (ls : List String) :
    occurrences n (textOf ls).toList = (ls.map fun l => occurrences n l.toList).sum := by
  have htext : (textOf ls).toList = ((ls.map String.toList).map (· ++ ['\n'])).flatten := by
    rw [Entity.toList_textOf, List.map_map]
    rfl
  rw [htext, occurrences_lines hn hne, List.map_map]
  rfl

/-- The name of a share's marker is found as often as it is declared. -/
theorem occurrences_blockLines {x comment : String} {declarations : List (String × String)}
    (hx : IsWord x) (hcomment : IsInline comment) (h : IsBlock declarations) :
    occurrences ("\t" ++ x ++ " ").toList (textOf (blockLines comment declarations)).toList =
      (declarations.map (·.1)).count x := by
  have hneedle : ("\t" ++ x ++ " ").toList = '\t' :: (x.toList ++ [' ']) := by simp
  have hxblank : ' ' ∉ x.toList := hx.not_mem (by decide)
  have hxline : '\n' ∉ '\t' :: (x.toList ++ [' ']) := by
    simp [hx.not_mem (c := '\n') (by decide)]
  have hfirst : occurrences ('\t' :: (x.toList ++ [' '])) ("\t// " ++ comment).toList = 0 := by
    have hne : x.toList ≠ ['/', '/'] := fun he => hx.not_mem (c := '/') (by decide) (by simp [he])
    have htext : ("\t// " ++ comment).toList = '\t' :: (['/', '/'] ++ ' ' :: comment.toList) := by
      simp
    rw [htext, occurrences_tabbed hxblank (by decide) (by decide) hcomment.1, if_neg hne]
  have hrest : (declarations.map fun d =>
      occurrences ('\t' :: (x.toList ++ [' '])) ("\t" ++ d.1 ++ " = " ++ d.2).toList).sum =
      (declarations.map (·.1)).count x := by
    induction declarations with
    | nil => rfl
    | cons d declarations ih =>
      have hd := h.names d (by simp)
      have htext : ("\t" ++ d.1 ++ " = " ++ d.2).toList =
          '\t' :: (d.1.toList ++ ' ' :: ('=' :: ' ' :: d.2.toList)) := by simp
      have ih := ih ⟨fun d hd => h.names d (by simp [hd]), fun d hd => h.values d (by simp [hd])⟩
      rw [List.map_cons, List.sum_cons, ih, htext, occurrences_tabbed hxblank
        (hd.not_mem (by decide)) (hd.not_mem (by decide)) (by simp [(h.values d (by simp)).1]),
        List.map_cons, List.count_cons, Nat.add_comm]
      simp only [String.toList_inj, beq_iff_eq, @eq_comm _ x d.1]
  rw [hneedle, occurrences_textOf hxline (by simp)]
  simp only [blockLines, List.map_cons, List.sum_cons, List.map_map, Function.comp_def, hfirst]
  rw [hrest]
  simp [occurrences]

namespace Entity.IsDescribed

variable {e : Entity}

theorem word_member (h : e.IsDescribed) {m : Member} (hm : m ∈ e.userMembers) : IsWord m.name :=
  (h.fieldName m (h.userMembers ▸ hm)).word

theorem inline_label (h : e.IsDescribed) : IsInline e.label :=
  isInline_join_lowerWords h.name.word (by decide)

theorem inline_name (h : e.IsDescribed) : IsInline e.name := isInline_of_isWord h.name.word

theorem inline_column (h : e.IsDescribed) {m : Member} (hm : m ∈ e.userMembers) :
    IsInline m.column :=
  isInline_join_lowerWords (h.word_member hm) (by decide)

theorem isBlock_domainErrors (h : e.IsDescribed) : IsBlock e.domainErrors := by
  have hfield (m : Member) (hm : m ∈ e.userMembers) : IsInline (Naming.label m.name) :=
    isInline_join_lowerWords (h.word_member hm) (by decide)
  constructor
  · simp only [domainErrors, List.forall_mem_cons, List.forall_mem_map, recordError, fieldError]
    refine ⟨?_, fun m hm => ?_⟩
    · simp +decide only [isWord_append, h.name.word, and_self]
    · simp +decide only [isWord_append, h.name.word, h.word_member hm, and_self]
  · simp only [domainErrors, List.forall_mem_cons, List.forall_mem_map, newError]
    refine ⟨?_, fun m hm => ?_⟩
    · simp +decide only [isInline_append, goLiteral, h.inline_label, and_self]
    · simp +decide only [isInline_append, goLiteral, h.inline_label, hfield m hm, and_self]

theorem isBlock_errorMessages (h : e.IsDescribed) : IsBlock e.errorMessages := by
  have hcolumn (m : Member) (hm : m ∈ e.userMembers) : IsInline (replace "_" " " m.column) :=
    isInline_replace (by decide) (by decide) (h.inline_column hm)
  constructor
  · simp only [errorMessages, List.forall_mem_append, List.forall_mem_cons, List.forall_mem_map,
      List.mem_filter, List.not_mem_nil, false_implies, implies_true, and_true]
    refine ⟨⟨?_, fun m hm => ?_⟩, ?_⟩
    · simp +decide only [isWord_append, h.name.word, and_self]
    · simp +decide only [isWord_append, h.name.word, h.word_member hm.1, and_self]
    · simp +decide only [isWord_append, h.name.word, and_self]
  · simp only [errorMessages, List.forall_mem_append, List.forall_mem_cons, List.forall_mem_map,
      List.mem_filter, List.not_mem_nil, false_implies, implies_true, and_true]
    refine ⟨⟨?_, fun m hm => ?_⟩, ?_⟩
    · simp +decide only [isInline_append, goLiteral, h.inline_label, and_self]
    · simp +decide only [isInline_append, goLiteral, h.inline_label, hcolumn m hm.1, and_self]
    · simp +decide only [isInline_append, goLiteral, h.inline_label, and_self]

theorem isBlock_successMessages (h : e.IsDescribed) : IsBlock e.successMessages := by
  have hplural : IsInline e.pluralLabel := isInline_plural h.inline_label
  have hname : IsWord e.pluralName := h.name.word.plural
  constructor
  · simp only [successMessages, List.forall_mem_cons, List.not_mem_nil, false_implies, implies_true,
      and_true]
    simp +decide only [isWord_append, h.name.word, hname, and_self]
  · simp only [successMessages, List.forall_mem_cons, List.not_mem_nil, false_implies, implies_true,
      and_true]
    simp +decide only [isInline_append, goLiteral, h.inline_label, hplural, and_self]

theorem isBlock_constants (h : e.IsDescribed) : IsBlock e.constants := by
  have hsnake : IsInline (snake e.name) := isInline_join_lowerWords h.name.word (by decide)
  have htable : IsInline e.table := isInline_plural hsnake
  have hroute : IsInline e.route :=
    isInline_plural (isInline_join_lowerWords h.name.word (by decide))
  constructor
  · simp only [constants, List.forall_mem_append, List.forall_mem_cons, List.forall_mem_map,
      List.not_mem_nil, false_implies, implies_true, and_true]
    refine ⟨?_, fun m hm => ?_⟩
    · simp +decide only [isWord_append, h.name.word, and_self]
    · simp +decide only [isWord_append, h.name.word, h.word_member hm, and_self]
  · simp only [constants, List.forall_mem_append, List.forall_mem_cons, List.forall_mem_map,
      List.not_mem_nil, false_implies, implies_true, and_true]
    refine ⟨?_, fun m hm => ?_⟩
    · simp +decide only [isInline_append, goLiteral, hsnake, htable, hroute, and_self]
    · simp +decide only [isInline_append, goLiteral, h.inline_column hm, and_self]

end Entity.IsDescribed

end GoScaffold
