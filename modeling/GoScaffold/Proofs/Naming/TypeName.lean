import GoScaffold.Field.Descriptor
import GoScaffold.Naming.GoName
import GoScaffold.Proofs.Text.Lines
import GoScaffold.Proofs.Text.Occurrence
import GoScaffold.Proofs.Text.Pieces
import Mathlib

/-!
# Names of types and fields

An accepted name becomes letters and digits behind a capital. What is derived from such a name is
made of letters, digits and the separators of the derived spelling.
-/
namespace GoScaffold.Naming

open GoScaffold.Text

/-- Letters and digits. -/
def IsWord (s : String) : Prop := ∀ c ∈ s.toList, c.isAlphanum = true

instance (s : String) : Decidable (IsWord s) :=
  List.decidableBAll (fun c : Char => c.isAlphanum = true) s.toList

theorem isWord_append {s t : String} : IsWord (s ++ t) ↔ IsWord s ∧ IsWord t := by
  simp only [IsWord, String.toList_append, List.mem_append]
  exact ⟨fun h => ⟨fun c hc => h c (Or.inl hc), fun c hc => h c (Or.inr hc)⟩,
    fun h c hc => hc.elim (h.1 c) (h.2 c)⟩

theorem IsWord.not_mem {s : String} (h : IsWord s) {c : Char} (hc : c.isAlphanum = false) :
    c ∉ s.toList := fun hmem => by simp [h c hmem] at hc

theorem IsWord.lacks {s : String} (h : IsWord s) {cs : List Char}
    (hcs : cs.all (!·.isAlphanum) = true) : Lacks cs s := fun c hc =>
  h.not_mem (by simpa using List.all_eq_true.1 hcs c hc)

/-- Letters and digits behind a capital. -/
structure IsTypeName (s : String) : Prop where
  word : IsWord s
  capital : ∃ c cs, s.toList = c :: cs ∧ c.isUpper = true

theorem IsTypeName.append {s t : String} (hs : IsTypeName s) (ht : IsWord t) :
    IsTypeName (s ++ t) := by
  obtain ⟨c, cs, hcs, hc⟩ := hs.capital
  exact ⟨isWord_append.2 ⟨hs.word, ht⟩, c, cs ++ t.toList, by simp [hcs], hc⟩

theorem ascii_induction {P : Char → Prop} (h : ∀ n < 128, P (Char.ofNat n)) {c : Char}
    (hc : c.toNat < 128) : P c := by
  have hp := h c.toNat hc
  rwa [Char.ofNat_toNat] at hp

theorem toNat_lt_of_isAlphanum {c : Char} (h : c.isAlphanum = true) : c.toNat < 128 := by
  simp [Char.isAlphanum, Char.isAlpha, Char.isUpper, Char.isLower, Char.isDigit,
    UInt32.le_iff_toNat_le] at h
  rcases h with (h | h) | h <;> omega

/-- A fact about letters and digits is checked on the ASCII characters. -/
theorem alphanum_induction {P : Char → Prop}
    (h : ∀ n < 128, (Char.ofNat n).isAlphanum = true → P (Char.ofNat n)) {c : Char}
    (hc : c.isAlphanum = true) : P c :=
  ascii_induction (P := fun c => c.isAlphanum = true → P c) h (toNat_lt_of_isAlphanum hc) hc

theorem isAlphanum_toUpper {c : Char} (h : c.isAlphanum = true) : c.toUpper.isAlphanum = true := by
  by_cases hlower : c.isLower = true
  · have halpha : c.toUpper.isAlpha = true := by simp [Char.isAlpha, hlower]
    simp [Char.isAlphanum, halpha]
  · rwa [Char.toUpper_eq_of_not_isLower hlower]

theorem isAlphanum_toLower {c : Char} (h : c.isAlphanum = true) : c.toLower.isAlphanum = true := by
  by_cases hupper : c.isUpper = true
  · have halpha : c.toLower.isAlpha = true := by simp [Char.isAlpha, hupper]
    simp [Char.isAlphanum, halpha]
  · rwa [Char.toLower_eq_of_not_isUpper hupper]

theorem not_isSeparator {c : Char} (h : c.isAlphanum = true) : isSeparator c = false :=
  alphanum_induction (P := fun c => isSeparator c = false) (by decide +kernel) h

theorem mem_of_mem_wordsOf {cs w : List Char} (hw : w ∈ wordsOf cs) {c : Char} (hc : c ∈ w) :
    c ∈ cs ∧ isSeparator c = false := by
  have hflat : c ∈ (wordsOf cs).flatten := List.mem_flatten.2 ⟨w, hw, hc⟩
  rw [flatten_wordsOf, List.mem_filter] at hflat
  exact ⟨hflat.1, by simpa using hflat.2⟩

theorem stretches_cons {c : Char} (hc : isSeparator c = false) (cs : List Char) :
    ∃ w ws, stretches (c :: cs) = (c :: w) :: ws := by
  unfold stretches
  simp only [hc, Bool.false_eq_true, if_false]
  split
  · split
    · exact ⟨[], _, rfl⟩
    · exact ⟨_, _, rfl⟩
  · exact ⟨[], _, rfl⟩
  · exact ⟨[], _, rfl⟩

/-- The first word starts with the first character if that one is no separator. -/
theorem wordsOf_cons {c : Char} (hc : isSeparator c = false) (cs : List Char) :
    ∃ w ws, wordsOf (c :: cs) = (c :: w) :: ws := by
  obtain ⟨w, ws, hs⟩ := stretches_cons hc cs
  exact ⟨w, ws.filter (!·.isEmpty), by simp [wordsOf, hs]⟩

/-- Without separators every stretch but the first starts at a capital. -/
theorem capital_of_mem_tail_stretches {cs : List Char} (h : ∀ c ∈ cs, isSeparator c = false)
    {w : List Char} (hw : w ∈ (stretches cs).tail) : ∃ d ds, w = d :: ds ∧ d.isUpper = true := by
  induction cs generalizing w with
  | nil => simp [stretches] at hw
  | cons c cs ih =>
    have ih {w : List Char} (hw : w ∈ (stretches cs).tail) := ih (fun d hd => h d (by simp [hd])) hw
    unfold stretches at hw
    simp only [h c (by simp), Bool.false_eq_true, if_false] at hw
    split at hw <;> rename_i hs <;> simp only [hs, List.tail_cons] at ih
    · split at hw
      · next hstarts =>
        rcases List.mem_cons.1 hw with rfl | hw
        · simp only [startsWord, Bool.and_eq_true] at hstarts
          exact ⟨_, _, rfl, hstarts.2⟩
        · exact ih hw
      · exact ih hw
    · exact ih hw
    · simp at hw

theorem capitalize_cons {c : Char} (hc : c.toNat < 128) (cs : List Char) :
    capitalize (c :: cs) = c.toUpper :: cs := by
  rw [capitalize, upperChars_of_ascii (by simpa using hc)]
  rfl

theorem isAlphanum_of_mem_capitalize {w : List Char} (hw : ∀ c ∈ w, c.isAlphanum = true) :
    ∀ c ∈ capitalize w, c.isAlphanum = true := by
  cases w with
  | nil => simp [capitalize]
  | cons d w =>
    have hd := hw d (by simp)
    intro c hc
    rw [capitalize_cons (toNat_lt_of_isAlphanum hd), List.mem_cons] at hc
    rcases hc with rfl | hc
    · exact isAlphanum_toUpper hd
    · exact hw c (by simp [hc])

theorem map_toLower_capitalize {w : List Char} (hw : ∀ c ∈ w, c.isAlphanum = true) :
    (capitalize w).map Char.toLower = w.map Char.toLower := by
  cases w with
  | nil => rfl
  | cons c w =>
    rw [capitalize_cons (toNat_lt_of_isAlphanum (hw c (by simp))), List.map_cons, List.map_cons,
      Char.toLower_toUpper_eq_toLower]

theorem isAlphanum_of_isIdentifier {cs : List Char} (h : Descriptor.isIdentifier cs = true)
    {c : Char} (hc : c ∈ cs) (hs : isSeparator c = false) : c.isAlphanum = true := by
  cases cs with
  | nil => simp at hc
  | cons d cs =>
    simp only [Descriptor.isIdentifier, Bool.and_eq_true, List.all_eq_true, Bool.or_eq_true,
      beq_iff_eq] at h
    rcases List.mem_cons.1 hc with rfl | hc
    · simp [Char.isAlphanum, h.1]
    · rcases h.2 c hc with hc | rfl
      · exact hc
      · exact absurd hs (by decide)

theorem isTypeName_pascal {name : String} (h : Descriptor.isIdentifier name.toList = true) :
    IsTypeName (pascal name) := by
  have hword : ∀ w ∈ wordsOf name.toList, ∀ c ∈ w, c.isAlphanum = true := fun w hw c hc => by
    obtain ⟨hmem, hsep⟩ := mem_of_mem_wordsOf hw hc
    exact isAlphanum_of_isIdentifier h hmem hsep
  refine ⟨fun c hc => ?_, ?_⟩
  · simp only [pascal, String.toList_ofList, List.mem_flatMap] at hc
    obtain ⟨w, hw, hc⟩ := hc
    exact isAlphanum_of_mem_capitalize (hword w hw) c hc
  · cases hn : name.toList with
    | nil => simp [hn, Descriptor.isIdentifier] at h
    | cons c cs =>
      have hc : c.isAlpha = true := by
        simp only [hn, Descriptor.isIdentifier, Bool.and_eq_true] at h
        exact h.1
      have halnum : c.isAlphanum = true := by simp [Char.isAlphanum, hc]
      obtain ⟨w, ws, hws⟩ := wordsOf_cons (not_isSeparator halnum) cs
      refine ⟨c.toUpper, w ++ ws.flatMap capitalize, ?_, by simpa using hc⟩
      simp [pascal, hn, hws, capitalize_cons (toNat_lt_of_isAlphanum halnum)]

theorem isIdentifier_of_isTypeName {name : String} (h : IsTypeName name) :
    Descriptor.isIdentifier name.toList = true := by
  obtain ⟨c, cs, hname, hc⟩ := h.capital
  have hword (d : Char) (hd : d ∈ cs) : d.isAlphanum = true := h.word d (by simp [hname, hd])
  simp only [hname, Descriptor.isIdentifier, Char.isAlpha, hc, Bool.true_or, Bool.true_and,
    List.all_eq_true]
  exact fun d hd => by simp [hword d hd]

theorem capitalize_of_not_isLower {c : Char} (hc : c.isAlphanum = true) (hlower : c.isLower = false)
    (cs : List Char) : capitalize (c :: cs) = c :: cs := by
  rw [capitalize_cons (toNat_lt_of_isAlphanum hc), Char.toUpper_eq_of_not_isLower (by simp [hlower])]

theorem capitalize_of_isUpper {c : Char} (hc : c.isUpper = true) (cs : List Char) :
    capitalize (c :: cs) = c :: cs :=
  capitalize_of_not_isLower (by simp [Char.isAlphanum, Char.isAlpha, hc])
    (by simpa using Char.not_isLower_of_isUpper hc) cs

/-- The words of the name of a type are told apart by their capitals. -/
theorem capital_of_mem_wordsOf {name : String} (h : IsTypeName name) {w : List Char}
    (hw : w ∈ wordsOf name.toList) : ∃ d ds, w = d :: ds ∧ d.isUpper = true := by
  obtain ⟨c, cs, hname, hc⟩ := h.capital
  have hsep (d : Char) (hd : d ∈ name.toList) : isSeparator d = false := not_isSeparator (h.word d hd)
  have hstretch : w ∈ stretches name.toList := (List.mem_filter.1 hw).1
  obtain ⟨v, ws, hs⟩ := stretches_cons (hsep c (by simp [hname])) cs
  rw [hname, hs, List.mem_cons] at hstretch
  rcases hstretch with rfl | hw
  · exact ⟨c, v, rfl, hc⟩
  · exact capital_of_mem_tail_stretches hsep (by simpa [hname, hs] using hw)

section Joined

variable {s : String}

theorem flatten_wordsOf_of_isWord (h : IsWord s) : (wordsOf s.toList).flatten = s.toList := by
  rw [flatten_wordsOf]
  exact List.filter_eq_self.2 fun c hc => by simp [not_isSeparator (h c hc)]

/-- Without separators every word but the first has its capital. -/
theorem exists_wordsOf_of_isWord (h : IsWord s) : wordsOf s.toList = [] ∨ ∃ c w ws,
    wordsOf s.toList = (c :: w) :: ws ∧ s.toList.head? = some c ∧ ∀ v ∈ ws, capitalize v = v := by
  have hkept (c : Char) (hc : c ∈ s.toList) : isSeparator c = false := not_isSeparator (h c hc)
  cases hs : s.toList with
  | nil => exact Or.inl rfl
  | cons c cs =>
    rw [hs] at hkept
    obtain ⟨w, ws, hws⟩ := stretches_cons (hkept c (by simp)) cs
    refine Or.inr ⟨c, w, ws.filter (!·.isEmpty), by simp [wordsOf, hws], rfl, fun v hv => ?_⟩
    have htail : v ∈ (stretches (c :: cs)).tail := by simpa [hws] using List.mem_of_mem_filter hv
    obtain ⟨d, ds, rfl, hd⟩ := capital_of_mem_tail_stretches hkept htail
    exact capitalize_of_isUpper hd ds

/-- Letters and digits that start with no small letter are spelled as the name of a type already. -/
theorem pascal_of_isWord (h : IsWord s) (hhead : ∀ c ∈ s.toList.head?, c.isLower = false) :
    pascal s = s := by
  rw [← String.toList_inj, pascal, String.toList_ofList, List.flatMap_def]
  rcases exists_wordsOf_of_isWord h with hnil | ⟨c, w, ws, hwords, hc, hws⟩
  · rw [hnil, ← flatten_wordsOf_of_isWord h, hnil]
    rfl
  · have hmem : c ∈ s.toList := List.mem_of_mem_head? hc
    rw [hwords, List.map_cons, List.map_congr_left hws, List.map_id',
      capitalize_of_not_isLower (h c hmem) (hhead c hc), ← hwords, flatten_wordsOf_of_isWord h]

theorem pascal_of_isTypeName (h : IsTypeName s) : pascal s = s := by
  obtain ⟨c, cs, hs, hc⟩ := h.capital
  refine pascal_of_isWord h.word fun d hd => ?_
  obtain rfl : c = d := by simpa [hs] using hd
  simpa using Char.not_isLower_of_isUpper hc

end Joined

section Derived

variable {s : String}

theorem lower_of_mem_words (h : IsWord s) {w : List Char}
    (hw : w ∈ wordsOf s.toList) : lowerChars w = w.map Char.toLower :=
  lowerChars_of_ascii fun c hc => toNat_lt_of_isAlphanum (h c (mem_of_mem_wordsOf hw hc).1)

theorem isAlphanum_of_mem_lowerWords (h : IsWord s) {t : String}
    (ht : t ∈ lowerWords s) : ∀ c ∈ t.toList, c.isAlphanum = true := by
  simp only [lowerWords, words, List.map_map, List.mem_map, Function.comp_apply] at ht
  obtain ⟨w, hw, rfl⟩ := ht
  intro c hc
  rw [lower, String.toList_ofList, String.toList_ofList, lower_of_mem_words h hw,
    List.mem_map] at hc
  obtain ⟨d, hd, rfl⟩ := hc
  exact isAlphanum_toLower (h d (mem_of_mem_wordsOf hw hd).1)

theorem mem_join_lowerWords (h : IsWord s) {sep : String} {c : Char}
    (hc : c ∈ (join sep (lowerWords s)).toList) : c ∈ sep.toList ∨ c.isAlphanum = true := by
  rcases mem_join hc with hc | ⟨t, ht, hc⟩
  · exact Or.inl hc
  · exact Or.inr (isAlphanum_of_mem_lowerWords h ht c hc)

/-- A character that joins no words and is in none does not get into joined words. -/
theorem not_mem_join_lowerWords (h : IsWord s) {c : Char} (hc : c.isAlphanum = false) {sep : String}
    (hsep : c ∉ sep.toList) : c ∉ (join sep (lowerWords s)).toList := fun hmem => by
  rcases mem_join_lowerWords h hmem with hmem | hmem
  · exact hsep hmem
  · simp [hmem] at hc

theorem lacks_join_lowerWords (h : IsWord s) {cs : List Char} (hcs : cs.all (!·.isAlphanum) = true)
    {sep : String} (hsep : Lacks cs sep) : Lacks cs (join sep (lowerWords s)) := fun c hc =>
  not_mem_join_lowerWords h (by simpa using List.all_eq_true.1 hcs c hc) (hsep c hc)

/-- Whatever the convention, a file is named by letters, digits, underscores and hyphens. -/
theorem not_mem_fileName (h : IsWord s) {c : Char} (hc : c.isAlphanum = false)
    (hjoins : c ≠ '_' ∧ c ≠ '-') (convention : FileNaming) :
    c ∉ (fileName s convention).toList := by
  cases convention with
  | snake => exact not_mem_join_lowerWords h hc (by simpa using hjoins.1)
  | kebab => exact not_mem_join_lowerWords h hc (by simpa using hjoins.2)
  | lowercase =>
    have hwords : (concat (words s)).toList = (wordsOf s.toList).flatten := by
      simp [toList_concat, words, Function.comp_def]
    have hword : ∀ d ∈ (wordsOf s.toList).flatten, d.isAlphanum = true := fun d hd => by
      obtain ⟨w, hw, hd⟩ := List.mem_flatten.1 hd
      exact h d (mem_of_mem_wordsOf hw hd).1
    rw [fileName, lower, String.toList_ofList, hwords,
      lowerChars_of_ascii fun d hd => toNat_lt_of_isAlphanum (hword d hd), List.mem_map]
    rintro ⟨d, hd, rfl⟩
    simp [isAlphanum_toLower (hword d hd)] at hc

theorem mem_plural {c : Char} (hc : c ∈ (plural s).toList) :
    c ∈ s.toList ∨ c.isAlphanum = true := by
  rw [plural, String.toList_ofList, pluralChars] at hc
  split at hc
  · simp at hc
  · have hsuffix (ds : List Char) (hds : ds.all Char.isAlphanum = true) (cs : List Char)
        (hcs : ∀ d ∈ cs, d ∈ s.toList) (hc : c ∈ cs ++ ds) :
        c ∈ s.toList ∨ c.isAlphanum = true := by
      rcases List.mem_append.1 hc with hc | hc
      · exact Or.inl (hcs c hc)
      · exact Or.inr (List.all_eq_true.1 hds c hc)
    dsimp only at hc
    split at hc
    · exact hsuffix ['i', 'e', 's'] (by decide) _ (fun d hd => List.dropLast_subset _ hd) hc
    · split at hc
      · exact hsuffix ['e', 's'] (by decide) _ (fun d hd => hd) hc
      · exact hsuffix ['s'] (by decide) _ (fun d hd => hd) hc

theorem not_mem_plural {c : Char} (hc : c.isAlphanum = false) (h : c ∉ s.toList) :
    c ∉ (plural s).toList := fun hmem => by
  rcases mem_plural hmem with hmem | hmem
  · exact h hmem
  · simp [hmem] at hc

theorem IsWord.plural (h : IsWord s) : IsWord (plural s) := fun c hc =>
  (mem_plural hc).elim (h c) id

theorem newline_not_mem_word {cs w : List Char} (hw : w ∈ wordsOf cs) : '\n' ∉ w := fun hc =>
  absurd (mem_of_mem_wordsOf hw hc).2 (by decide)

theorem newline_not_mem_capitalize {w : List Char} (h : '\n' ∉ w) : '\n' ∉ capitalize w := by
  cases w with
  | nil => simp [capitalize]
  | cons c w =>
    simp only [List.mem_cons, not_or] at h
    rw [capitalize, List.mem_append, not_or]
    exact ⟨newline_not_mem_upperChars (by simpa using h.1), h.2⟩

theorem newline_not_mem_capitalized {ws : List (List Char)} (h : ∀ w ∈ ws, '\n' ∉ w) :
    '\n' ∉ ws.flatMap capitalize := fun hc => by
  obtain ⟨w, hw, hc⟩ := List.mem_flatMap.1 hc
  exact newline_not_mem_capitalize (h w hw) hc

theorem newline_not_mem_pascal (s : String) : '\n' ∉ (pascal s).toList := by
  rw [pascal, String.toList_ofList]
  exact newline_not_mem_capitalized fun w hw => newline_not_mem_word hw

theorem newline_not_mem_camel (s : String) : '\n' ∉ (camel s).toList := by
  have hwords : ∀ w ∈ wordsOf s.toList, '\n' ∉ w := fun w hw => newline_not_mem_word hw
  rw [camel]
  split
  · simp
  · next w ws hws =>
    rw [hws, List.forall_mem_cons] at hwords
    rw [String.toList_ofList, List.mem_append, not_or]
    exact ⟨newline_not_mem_lowerChars hwords.1, newline_not_mem_capitalized hwords.2⟩

/-- An identifier stays on one line, whatever text it is made of. -/
theorem newline_not_mem_goIdentifier (s : String) : '\n' ∉ (goIdentifier s).toList := by
  have hcamel := newline_not_mem_camel s
  have hident : '\n' ∉ (if camel s = "" then "value" else camel s).toList := by
    split
    · decide
    · exact hcamel
  unfold goIdentifier
  generalize (if camel s = "" then "value" else camel s) = ident at hident ⊢
  simp only
  split
  · simp [hident]
  · exact hident

/-- The camel-case spelling starts with a letter that is no capital. -/
theorem camel_of_isIdentifier (h : Descriptor.isIdentifier s.toList = true) :
    IsWord (camel s) ∧ ∃ c cs, (camel s).toList = c :: cs ∧ c.isAlpha = true ∧ c.isUpper = false := by
  cases hs : s.toList with
  | nil => simp [hs, Descriptor.isIdentifier] at h
  | cons c cs =>
    have hc : c.isAlpha = true := by
      simp only [hs, Descriptor.isIdentifier, Bool.and_eq_true] at h
      exact h.1
    have halnum : c.isAlphanum = true := by simp [Char.isAlphanum, hc]
    obtain ⟨w, ws, hws⟩ := wordsOf_cons (not_isSeparator halnum) cs
    have hwords : ∀ v ∈ (c :: w) :: ws, ∀ d ∈ v, d.isAlphanum = true := fun v hv d hd => by
      have hv' : v ∈ wordsOf s.toList := hs ▸ hws ▸ hv
      obtain ⟨hmem, hsep⟩ := mem_of_mem_wordsOf hv' hd
      exact isAlphanum_of_isIdentifier h hmem hsep
    have hfirst := hwords _ List.mem_cons_self
    have hlow : lowerChars (c :: w) = c.toLower :: w.map Char.toLower :=
      lowerChars_of_ascii fun d hd => toNat_lt_of_isAlphanum (hfirst d hd)
    have hcamel : (camel s).toList = c.toLower :: (w.map Char.toLower ++ ws.flatMap capitalize) := by
      simp [camel, hs, hws, hlow]
    refine ⟨fun d hd => ?_, c.toLower, _, hcamel, by simpa using hc, Char.isUpper_toLower_eq_false c⟩
    rw [hcamel] at hd
    simp only [List.mem_cons, List.mem_append, List.mem_map, List.mem_flatMap] at hd
    rcases hd with rfl | ⟨e, he, rfl⟩ | ⟨v, hv, hd⟩
    · exact isAlphanum_toLower halnum
    · exact isAlphanum_toLower (hfirst e (List.mem_cons_of_mem c he))
    · exact isAlphanum_of_mem_capitalize (hwords v (List.mem_cons_of_mem _ hv)) d hd

/-- A variable that would have one of Go's own names is set apart from it. -/
theorem goIdentifier_cases (h : Descriptor.isIdentifier s.toList = true) :
    (goIdentifier s = camel s ∧ isGoName (camel s) = false) ∨
      (goIdentifier s = camel s ++ "Value" ∧ isGoName (camel s) = true) := by
  obtain ⟨-, c, cs, hcs, -⟩ := camel_of_isIdentifier h
  have hne : camel s ≠ "" := fun he => by simp [he] at hcs
  unfold goIdentifier
  simp only [hne, if_false]
  cases hgo : isGoName (camel s) <;> simp

theorem goIdentifier_of_isIdentifier (h : Descriptor.isIdentifier s.toList = true) :
    IsWord (goIdentifier s) ∧
      ∃ c cs, (goIdentifier s).toList = c :: cs ∧ c.isAlpha = true ∧ c.isUpper = false := by
  obtain ⟨hword, c, cs, hcs, hc⟩ := camel_of_isIdentifier h
  rcases goIdentifier_cases h with ⟨he, -⟩ | ⟨he, -⟩
  · rw [he]
    exact ⟨hword, c, cs, hcs, hc⟩
  · rw [he]
    exact ⟨isWord_append.2 ⟨hword, by decide⟩, c, cs ++ "Value".toList, by simp [hcs], hc⟩

theorem goIdentifier_of_isTypeName (h : IsTypeName s) :
    (∀ c ∈ (goIdentifier s).toList, c.isAlphanum = true) ∧
      ∃ c cs, (goIdentifier s).toList = c :: cs ∧ c.isUpper = false := by
  obtain ⟨hword, c, cs, hcs, -, hc⟩ := goIdentifier_of_isIdentifier (isIdentifier_of_isTypeName h)
  exact ⟨hword, c, cs, hcs, hc⟩

end Derived

end GoScaffold.Naming

/-! ## Names between affixes

Identifiers are names with fixed texts before and behind them. Where these texts tell the identifiers
apart, only the names can make two of them the same. -/

namespace GoScaffold.Naming

open GoScaffold.Text

/-- What stands before and behind a name in an identifier. -/
structure Affix where
  before : String := ""
  after : String := ""

namespace Affix

def around (a : Affix) (name : String) : String := a.before ++ name ++ a.after

/-- Neither is what the other one starts with, or ends with. -/
def IsUnlike (a b : Affix) : Prop :=
  (¬ a.before.toList <+: b.before.toList ∧ ¬ b.before.toList <+: a.before.toList) ∨
    (¬ a.after.toList <:+ b.after.toList ∧ ¬ b.after.toList <:+ a.after.toList)

instance (a b : Affix) : Decidable (a.IsUnlike b) :=
  inferInstanceAs (Decidable
    ((¬ a.before.toList <+: b.before.toList ∧ ¬ b.before.toList <+: a.before.toList) ∨
      (¬ a.after.toList <:+ b.after.toList ∧ ¬ b.after.toList <:+ a.after.toList)))

variable {a b : Affix}

theorem around_injective (a : Affix) : Function.Injective a.around := fun _ _ h => affixes_inj.1 h

theorem IsUnlike.symm (h : a.IsUnlike b) : b.IsUnlike a := h.imp And.symm And.symm

instance : Std.Symm IsUnlike := ⟨fun _ _ => IsUnlike.symm⟩

theorem IsUnlike.around_ne (h : a.IsUnlike b) (s t : String) : a.around s ≠ b.around t := by
  rcases h with ⟨hab, hba⟩ | ⟨hab, hba⟩
  · intro he
    have hchars : a.before.toList ++ (s ++ a.after).toList =
        b.before.toList ++ (t ++ b.after).toList := by
      simpa [around] using congrArg String.toList he
    exact (List.prefix_or_prefix_of_prefix (hchars ▸ List.prefix_append _ _)
      (List.prefix_append _ _)).elim hab hba
  · exact ne_of_endings hab hba _ _

variable {fixed : List Affix} {extra : Affix}

/-- Names that are all different give different identifiers with unlike affixes. -/
theorem nodup_around (h : fixed.Pairwise IsUnlike) {names : List String} (hnames : names.Nodup) :
    (names.flatMap fun s => fixed.map (·.around s)).Nodup := by
  rw [List.nodup_flatMap]
  refine ⟨fun s _ => ?_, hnames.imp fun hst => ?_⟩
  · exact List.pairwise_map.2 (h.imp fun hab => hab.around_ne s s)
  · rename_i s t
    simp only [Function.onFun, List.disjoint_left, List.mem_map]
    rintro _ ⟨a, ha, rfl⟩ ⟨b, hb, heq⟩
    by_cases hab : b = a
    · exact hst (a.around_injective (hab ▸ heq)).symm
    · exact (h.forall hb ha hab).around_ne t s heq

/-- Some things each give identifiers made of a name of their own, and further ones made of other
words. All are different if no two of the words are the same. -/
theorem nodup_identifiers_iff (h : (extra :: fixed).Pairwise IsUnlike) {α : Type} {name : α → String}
    {words : α → List String} {xs : List α} (hnames : (xs.map name).Nodup) :
    (xs.flatMap fun x => fixed.map (·.around (name x)) ++ (words x).map extra.around).Nodup ↔
      (xs.flatMap words).Nodup := by
  obtain ⟨hextra, hfixed⟩ := List.pairwise_cons.1 h
  have hown : (xs.flatMap fun x => fixed.map (·.around (name x))).Nodup := by
    have hall := nodup_around hfixed hnames
    rwa [List.flatMap_map] at hall
  have hwords : (xs.flatMap fun x => (words x).map extra.around) =
      (xs.flatMap words).map extra.around := by
    rw [List.map_flatMap]
  have hapart : List.Disjoint (xs.flatMap fun x => fixed.map (·.around (name x)))
      ((xs.flatMap words).map extra.around) := by
    simp only [List.disjoint_left, List.mem_flatMap, List.mem_map]
    rintro _ ⟨x, -, a, ha, rfl⟩ ⟨s, -, heq⟩
    exact (hextra a ha).around_ne s _ heq
  rw [← (List.flatMap_append_perm xs _ _).nodup_iff, hwords, List.nodup_append',
    List.nodup_map_iff extra.around_injective]
  exact ⟨fun hall => hall.2.1, fun hnodup => ⟨hown, hnodup, hapart⟩⟩

end Affix

end GoScaffold.Naming
