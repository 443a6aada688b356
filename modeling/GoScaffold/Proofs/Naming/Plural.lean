import GoScaffold.Proofs.Naming.TypeName

/-!
# Singulars of plurals

Every plural is a stem with an `s` behind it, and the singular goes by how that stem ends. So it gives
back the word of a plural, unless the rule for the plural has lost a capital, or the stem ends like
that of another word.
-/
namespace GoScaffold.Naming

open GoScaffold.Text

/-- The word ends in one of the endings, in letters of either case. -/
def EndsIn (endings : List String) (word : List Char) : Prop :=
  ∃ t ∈ endings, t.toList <:+ word.map Char.toLower

instance (endings : List String) (word : List Char) : Decidable (EndsIn endings word) :=
  inferInstanceAs (Decidable (∃ t ∈ endings, t.toList <:+ word.map Char.toLower))

/-- The endings after which a plural takes `es`. -/
def hissing : List String := ["s", "x", "ch", "sh"]

theorem concat_suffix_concat {s t : List Char} {c d : Char} :
    s ++ [c] <:+ t ++ [d] ↔ c = d ∧ s <:+ t := by
  rw [← List.reverse_prefix, List.reverse_concat, List.reverse_concat, List.cons_prefix_cons,
    List.reverse_prefix]

section Endings

variable {front : List Char} {c : Char}

theorem endsIn_concat {ending : String} {before : List Char} {d : Char}
    (hending : ending.toList = before ++ [d]) :
    EndsIn [ending] (front ++ [c]) ↔ d = c.toLower ∧ before <:+ front.map Char.toLower := by
  simp only [EndsIn, List.mem_singleton, exists_eq_left, hending, List.map_append, List.map_cons,
    List.map_nil, concat_suffix_concat]

theorem endsIn_e : EndsIn ["e"] (front ++ [c]) ↔ c.toLower = 'e' := by
  have hletter : "e".toList = [] ++ ['e'] := by decide
  rw [endsIn_concat hletter, and_iff_left List.nil_suffix, eq_comm]

theorem endsIn_ie {d : Char} :
    EndsIn ["ie"] (front ++ [c] ++ [d]) ↔ d.toLower = 'e' ∧ c.toLower = 'i' := by
  have hletters : "ie".toList = ['i'] ++ ['e'] := by decide
  have hi : ['i'] <:+ front.map Char.toLower ++ [c.toLower] ↔ 'i' = c.toLower :=
    concat_suffix_concat.trans (and_iff_left List.nil_suffix)
  rw [endsIn_concat hletters, List.map_append, List.map_singleton, hi]
  simp only [eq_comm]

theorem toLower_of_endsIn_ie (h : EndsIn ["ie"] (front ++ [c])) : c.toLower = 'e' := by
  have hletters : "ie".toList = ['i'] ++ ['e'] := by decide
  exact ((endsIn_concat hletters).1 h).1.symm

theorem toLower_of_endsIn_hissing (h : EndsIn hissing (front ++ [c])) :
    c.toLower ∈ ['s', 'x', 'h'] := by
  obtain ⟨t, ht, hsuffix⟩ := h
  have hall : ∀ t ∈ hissing, t.toList.getLast? ∈ [some 's', some 'x', some 'h'] := by decide
  have hlast := hall t ht
  obtain ⟨d, hd⟩ : ∃ d, t.toList.getLast? = some d := by
    rw [← Option.isSome_iff_exists]
    exact (by decide : ∀ o ∈ [some 's', some 'x', some 'h'], o.isSome) _ hlast
  obtain ⟨before, hbefore⟩ := List.getLast?_eq_some_iff.1 hd
  rw [hbefore, List.map_append, List.map_singleton, concat_suffix_concat] at hsuffix
  rw [hd, hsuffix.1] at hlast
  simpa using hlast

end Endings

theorem hisses_map_toLower (word : List Char) :
    hisses (word.map Char.toLower) = true ↔ EndsIn hissing word := by
  simp [hisses, hissingEndings, EndsIn, hissing, List.isSuffixOf_iff_suffix]

section Stems

theorem pluralChars_concat {front : List Char} {c : Char}
    (hascii : ∀ d ∈ front ++ [c], d.toNat < 128) :
    pluralChars (front ++ [c]) =
      (if c.toLower = 'y' then front ++ ['i'] ++ ['e']
        else if EndsIn hissing (front ++ [c]) then front ++ [c] ++ ['e']
        else front ++ [c]) ++ ['s'] := by
  have hy : ['y'].isSuffixOf ((front ++ [c]).map Char.toLower) = true ↔ c.toLower = 'y' := by
    rw [List.isSuffixOf_iff_suffix, List.map_append]
    exact (concat_suffix_concat (s := [])).trans (by simp [eq_comm])
  have hne : (front ++ [c]).isEmpty = false := by simp
  rw [pluralChars, lowerChars_of_ascii hascii, hne, if_neg Bool.false_ne_true]
  simp only [hy, hisses_map_toLower]
  split_ifs <;> simp

theorem singularChars_concat {stem : List Char} (hascii : ∀ c ∈ stem, c.toNat < 128)
    (hne : stem ≠ []) :
    singularChars (stem ++ ['s']) =
      if EndsIn ["ie"] stem ∧ 3 ≤ stem.length then stem.take (stem.length - 2) ++ ['y']
      else if EndsIn ["e"] stem ∧ EndsIn hissing stem.dropLast then stem.dropLast
      else stem := by
  have hlower : lowerChars (stem ++ ['s']) = stem.map Char.toLower ++ ['s'] := by
    rw [lowerChars_of_ascii (by simpa [or_imp, forall_and] using hascii), List.map_append]
    rfl
  have hies : ['i', 'e', 's'].isSuffixOf (stem.map Char.toLower ++ ['s']) = true ↔
      EndsIn ["ie"] stem := by
    rw [List.isSuffixOf_iff_suffix]
    exact (concat_suffix_concat (s := ['i', 'e'])).trans (by simp [EndsIn])
  have hes : ['e', 's'].isSuffixOf (stem.map Char.toLower ++ ['s']) = true ↔
      EndsIn ["e"] stem := by
    rw [List.isSuffixOf_iff_suffix]
    exact (concat_suffix_concat (s := ['e'])).trans (by simp [EndsIn])
  have hs : ['s'].isSuffixOf (stem.map Char.toLower ++ ['s']) = true :=
    List.isSuffixOf_iff_suffix.2 (List.suffix_append _ _)
  have hlength : 0 < stem.length := List.length_pos_iff.2 hne
  have hfront : (stem.map Char.toLower ++ ['s']).take (stem.length + 1 - 2) =
      stem.dropLast.map Char.toLower := by
    rw [List.take_append_of_le_length (by simp), ← List.map_take, List.dropLast_eq_take]
    rfl
  have htake (n : ℕ) (hn : n ≤ stem.length) : (stem ++ ['s']).take n = stem.take n :=
    List.take_append_of_le_length hn
  have hinner : 3 < stem.length + 1 ↔ 3 ≤ stem.length := by omega
  have hlong : 1 < stem.length + 1 := by omega
  simp only [singularChars, hlower, List.length_append, List.length_map, List.length_cons,
    List.length_nil, Nat.zero_add, Bool.and_eq_true, decide_eq_true_eq, hies, hes, hs, hfront,
    hisses_map_toLower, hinner, hlong, and_self, if_true]
  rw [htake _ (by omega), htake _ (by omega), List.dropLast_concat, List.dropLast_eq_take,
    show stem.length + 1 - 3 = stem.length - 2 by omega,
    show stem.length + 1 - 2 = stem.length - 1 by omega]

end Stems

/-- The words that are not the singular of their plural. -/
def IsIrregular (word : List Char) : Prop :=
  word.getLast? = some 'Y' ∨ word = ['y'] ∨ (3 ≤ word.length ∧ EndsIn ["ie"] word) ∨
    (EndsIn ["e"] word ∧ EndsIn hissing word.dropLast)

instance (word : List Char) : Decidable (IsIrregular word) :=
  inferInstanceAs (Decidable (word.getLast? = some 'Y' ∨ word = ['y'] ∨
    (3 ≤ word.length ∧ EndsIn ["ie"] word) ∨ (EndsIn ["e"] word ∧ EndsIn hissing word.dropLast)))

section Words

variable {front : List Char} {c : Char}

theorem isIrregular_of_y (hc : c.toLower = 'y') :
    IsIrregular (front ++ [c]) ↔ c = 'Y' ∨ (front = [] ∧ c = 'y') := by
  have he : ¬ c.toLower = 'e' := by simp [hc]
  have hie : ¬ EndsIn ["ie"] (front ++ [c]) := fun h => he (toLower_of_endsIn_ie h)
  rw [IsIrregular, endsIn_e, List.getLast?_concat, Option.some.injEq, List.append_eq_singleton_iff]
  simp [he, hie]

theorem isIrregular_of_not_y (hc : ¬ c.toLower = 'y') : IsIrregular (front ++ [c]) ↔
    (EndsIn ["ie"] (front ++ [c]) ∧ 3 ≤ (front ++ [c]).length) ∨
      (EndsIn ["e"] (front ++ [c]) ∧ EndsIn hissing (front ++ [c]).dropLast) := by
  have hY : ¬ c = 'Y' := fun h => hc (by rw [h]; rfl)
  have hy : ¬ c = 'y' := fun h => hc (by rw [h]; rfl)
  rw [IsIrregular, List.getLast?_concat, Option.some.injEq, List.append_eq_singleton_iff,
    and_comm (b := EndsIn ["ie"] (front ++ [c]))]
  simp only [hY, List.cons.injEq, hy, List.cons_ne_nil, false_and, and_false, or_self, false_or]

/-- A `y` becomes `ies`, which stands for a small `y` behind something else. -/
theorem singularChars_ies (hascii : ∀ d ∈ front ++ [c], d.toNat < 128) (hc : c.toLower = 'y') :
    singularChars (front ++ ['i'] ++ ['e'] ++ ['s']) = front ++ [c] ↔ ¬ IsIrregular (front ++ [c]) := by
  have hcase : c = 'y' ∨ c = 'Y' :=
    ascii_induction (P := fun c => c.toLower = 'y' → c = 'y' ∨ c = 'Y') (by decide +kernel)
      (hascii c (by simp)) hc
  have hstem : ∀ d ∈ front ++ ['i'] ++ ['e'], d.toNat < 128 := by
    simp only [List.forall_mem_append] at hascii ⊢
    exact ⟨⟨hascii.1, by simp⟩, by simp⟩
  have hends : EndsIn ["ie"] (front ++ ['i'] ++ ['e']) := endsIn_ie.2 ⟨rfl, rfl⟩
  rw [isIrregular_of_y hc, singularChars_concat hstem (by simp)]
  cases front with
  | nil =>
    -- the stem is too short to stand for the letter alone
    have hi : ¬ EndsIn hissing ['i'] := by decide +kernel
    have hshort : ¬ 3 ≤ ([] ++ ['i'] ++ ['e'] : List Char).length := by simp
    rw [if_neg fun h => hshort h.2, if_neg fun h => hi h.2]
    simp [hcase.symm]
  | cons d front =>
    have hlong : 3 ≤ (d :: front ++ ['i'] ++ ['e']).length := by simp
    have htake : (d :: front ++ ['i'] ++ ['e']).take ((d :: front ++ ['i'] ++ ['e']).length - 2) =
        d :: front := by
      rw [List.append_assoc]
      exact List.take_left' (by simp)
    rw [if_pos ⟨hends, hlong⟩, htake, List.append_cancel_left_eq]
    rcases hcase with rfl | rfl <;> simp

/-- Behind a hissing ending the `es` falls off again. -/
theorem singularChars_es (hascii : ∀ d ∈ front ++ [c], d.toNat < 128)
    (hhisses : EndsIn hissing (front ++ [c])) :
    singularChars (front ++ [c] ++ ['e'] ++ ['s']) = front ++ [c] := by
  have hie : ¬ EndsIn ["ie"] (front ++ [c] ++ ['e']) := fun h => by
    simpa [(endsIn_ie.1 h).2] using toLower_of_endsIn_hissing hhisses
  have hdrop : EndsIn hissing (front ++ [c] ++ ['e']).dropLast := by rwa [List.dropLast_concat]
  have hstem : ∀ d ∈ front ++ [c] ++ ['e'], d.toNat < 128 :=
    List.forall_mem_append.2 ⟨hascii, by simp⟩
  rw [singularChars_concat hstem (by simp), if_neg fun h => hie h.1,
    if_pos ⟨endsIn_e.2 rfl, hdrop⟩, List.dropLast_concat]

/-- Exactly the irregular words are lost on the way into the plural and back. -/
theorem singularChars_pluralChars_iff (hascii : ∀ d ∈ front ++ [c], d.toNat < 128) :
    singularChars (pluralChars (front ++ [c])) = front ++ [c] ↔ ¬ IsIrregular (front ++ [c]) := by
  rw [pluralChars_concat hascii]
  split_ifs with hy hhisses
  · exact singularChars_ies hascii hy
  · have he : ¬ c.toLower = 'e' := fun he => by simpa [he] using toLower_of_endsIn_hissing hhisses
    have hie : ¬ EndsIn ["ie"] (front ++ [c]) := fun h => he (toLower_of_endsIn_ie h)
    rw [singularChars_es hascii hhisses, isIrregular_of_not_y hy, endsIn_e]
    simp [hie, he]
  · rw [singularChars_concat hascii (by simp), isIrregular_of_not_y hy]
    -- either rule leaves another word than the one in front of the `s`
    split_ifs with hie he
    · refine iff_of_false (fun h => ?_) (not_not.2 (Or.inl hie))
      have hlength := congrArg List.length h
      have hlong := hie.2
      simp only [List.length_append, List.length_take, List.length_cons, List.length_nil] at hlength hlong
      omega
    · refine iff_of_false (fun h => ?_) (not_not.2 (Or.inr he))
      simpa using congrArg List.length h
    · exact iff_of_true rfl (not_or.2 ⟨hie, he⟩)

end Words

/-- In ASCII letters, exactly the words of four kinds are not the singular of their plural: those with
a capital `Y` at their end, the letter `y` alone, longer ones that end in `ie`, and those that end in an
`e` behind a hissing ending. -/
theorem singular_plural_iff {word : String} (hne : word ≠ "")
    (hascii : ∀ c ∈ word.toList, c.toNat < 128) :
    singular (plural word) = word ↔ ¬ IsIrregular word.toList := by
  have hchars : word.toList ≠ [] := fun he => hne (String.toList_eq_nil_iff.1 he)
  obtain ⟨front, c, hword⟩ : ∃ front c, word.toList = front ++ [c] :=
    ⟨_, _, (List.dropLast_append_getLast hchars).symm⟩
  rw [← String.toList_inj, singular, plural, String.toList_ofList, String.toList_ofList, hword]
  exact singularChars_pluralChars_iff (hword ▸ hascii)

/-- A category is given back, and of a movie only a `movy` is left. -/
theorem singular_plural_category : singular (plural "Category") = "Category" ∧
    singular (plural "Movie") ≠ "Movie" :=
  ⟨(singular_plural_iff (by decide) (by simp)).2 (by decide +kernel),
    (singular_plural_iff (by decide) (by simp)).not.2 (not_not.2 (by decide +kernel))⟩

end GoScaffold.Naming
