import GoScaffold.Proofs.GoSource.Outline
import GoScaffold.Proofs.Layer.Lookup

/-!
# Parts of generated lines

The names, labels and tags of an entity as the gaps that they fill in the outlines of its lines.
-/
namespace GoScaffold

open GoScaffold.Text GoScaffold.Naming GoScaffold.Template

section Lacking

variable {cs : List Char}

theorem lacks_replace {old new s : String} (hold : old.isEmpty = false) (hnew : Lacks cs new)
    (hs : Lacks cs s) : Lacks cs (replace old new s) := fun c hc hmem => by
  rw [replace, hold] at hmem
  simp only [Bool.false_eq_true, if_false, String.toList_ofList] at hmem
  exact (mem_replaceFrom hmem).elim (hnew c hc) (hs c hc)

/-- Where the first character to be replaced is missing, nothing is replaced. -/
theorem replace_of_not_mem {old new s : String} {c : Char} {rest : List Char}
    (hold : old.toList = c :: rest) (h : c ∉ s.toList) : replace old new s = s := by
  have hfrom (ds : List Char) (hds : c ∉ ds) : replaceFrom (c :: rest) new.toList 0 ds = ds := by
    induction ds with
    | nil => rfl
    | cons d ds ih =>
      rw [List.mem_cons, not_or] at hds
      rw [replaceFrom, ih hds.2, if_neg (by simp [hds.1])]
  have hne : old.isEmpty = false := by
    rw [String.isEmpty_eq_false_iff]
    rintro rfl
    cases hold
  rw [replace, hne, hold, hfrom _ h]
  exact String.ofList_toList

theorem lacks_join {sep : String} {ss : List String} (hsep : Lacks cs sep)
    (hss : ∀ s ∈ ss, Lacks cs s) : Lacks cs (join sep ss) := fun c hc hmem =>
  (mem_join hmem).elim (hsep c hc) fun ⟨s, hs, hmem⟩ => hss s hs c hc hmem

theorem lacks_trimmed {p : Char → Bool} {s : String} (h : Lacks cs s) :
    Lacks cs (.ofList (trimWhile p s.toList)) := fun c hc hmem => by
  rw [String.toList_ofList] at hmem
  obtain ⟨tail, htail, -⟩ := exists_trimEndWhile p (s.toList.dropWhile p)
  exact h c hc ((List.dropWhile_sublist p).subset (htail ▸ List.mem_append_left tail hmem))

end Lacking

theorem not_isAlphanum_of_literalEnds : literalEnds.all (!·.isAlphanum) = true := by decide +kernel

theorem outlined_typeName {s : String} (h : IsTypeName s) : Outlined s [.gap .word] := by
  obtain ⟨c, cs, hcs, hc⟩ := h.capital
  exact .word h.word ⟨c, cs, hcs, by simp [Char.isAlpha, hc]⟩

theorem outlined_goIdentifier {s : String} (h : Descriptor.isIdentifier s.toList = true) :
    Outlined (goIdentifier s) [.gap .word] := by
  obtain ⟨hword, c, cs, hcs, hc, -⟩ := goIdentifier_of_isIdentifier h
  exact .word hword ⟨c, cs, hcs, hc⟩

/-- A plural starts with a letter, as what it is the plural of does. -/
theorem exists_plural {s : String} (h : IsTypeName s) :
    ∃ c rest, (plural s).toList = c :: rest ∧ c.isAlpha = true := by
  obtain ⟨c, cs, hcs, hc⟩ := h.capital
  have halpha : c.isAlpha = true := by simp [Char.isAlpha, hc]
  rw [plural, String.toList_ofList, pluralChars, hcs]
  simp only [List.isEmpty_cons, Bool.false_eq_true, if_false]
  split_ifs
  · -- one letter alone is replaced as a whole
    cases cs with
    | nil => exact ⟨'i', ['e', 's'], rfl, by decide⟩
    | cons d cs => exact ⟨c, (d :: cs).dropLast ++ ['i', 'e', 's'], rfl, halpha⟩
  · exact ⟨c, cs ++ ['e', 's'], rfl, halpha⟩
  · exact ⟨c, cs ++ ['s'], rfl, halpha⟩

theorem isIdentifier_plural {s : String} (h : IsTypeName s) :
    Descriptor.isIdentifier (plural s).toList = true := by
  obtain ⟨c, cs, hcs, hc⟩ := exists_plural h
  have hword : ∀ d ∈ c :: cs, d.isAlphanum = true := hcs ▸ h.word.plural
  rw [hcs, Descriptor.isIdentifier, hc, Bool.true_and, List.all_eq_true]
  exact fun d hd => by simp [hword d (List.mem_cons_of_mem c hd)]

theorem outlined_plural {s : String} (h : IsTypeName s) : Outlined (plural s) [.gap .word] :=
  .word h.word.plural (exists_plural h)

section Joined

variable {s sep : String}

theorem lacks_joined (h : IsWord s) (hsep : Lacks literalEnds sep) :
    Lacks literalEnds (join sep (lowerWords s)) :=
  lacks_join_lowerWords h not_isAlphanum_of_literalEnds hsep

theorem lacks_plural (h : Lacks literalEnds s) : Lacks literalEnds (plural s) := fun c hc =>
  not_mem_plural (by simpa using List.all_eq_true.1 not_isAlphanum_of_literalEnds c hc) (h c hc)

theorem outlined_label (h : IsWord s) : Outlined (label s) [.gap .phrase] :=
  .phrase (lacks_joined h (by decide))

theorem outlined_snake (h : IsWord s) : Outlined (snake s) [.gap .phrase] :=
  .phrase (lacks_joined h (by decide))

end Joined

namespace Entity

section Parts

variable {e : Entity}

theorem outlined_receiver (h : e.IsDescribed) : Outlined e.receiver [.gap .letter] :=
  ⟨Outline.fits_gap (exists_receiver h)⟩

theorem outlined_variableName (h : e.IsDescribed) : Outlined e.variableName [.gap .word] :=
  outlined_goIdentifier (isIdentifier_of_isTypeName h.name)

theorem outlined_pluralVariableName (h : e.IsDescribed) :
    Outlined e.pluralVariableName [.gap .word] :=
  outlined_goIdentifier (isIdentifier_plural h.name)

theorem outlined_table (h : e.IsDescribed) : Outlined e.table [.gap .phrase] :=
  .phrase (lacks_plural (lacks_joined h.name.word (by decide)))

theorem outlined_route (h : e.IsDescribed) : Outlined e.route [.gap .phrase] :=
  .phrase (lacks_plural (lacks_joined h.name.word (by decide)))

end Parts

end Entity

end GoScaffold
