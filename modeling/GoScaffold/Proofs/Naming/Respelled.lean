import GoScaffold.Proofs.Naming.Words
import GoScaffold.Proofs.Text.LowerCase

/-!
# Spellings of spellings

A spelling of a name is a name again. In lower case its words are what they were; as the name of a type
it keeps a word apart from the next one if that starts with a letter and it ends with a digit, or with
a small letter behind its capital.
-/
namespace GoScaffold.Naming

open GoScaffold.Text

/-- Letters and digits of ASCII, underscores, hyphens and spaces. -/
def IsPlainName (s : String) : Prop := ∀ c ∈ s.toList, c.isAlphanum = true ∨ c ∈ ['_', '-', ' ']

instance (s : String) : Decidable (IsPlainName s) :=
  List.decidableBAll (fun c : Char => c.isAlphanum = true ∨ c ∈ ['_', '-', ' ']) s.toList

theorem isPlainName_of_isIdentifier {s : String} (h : Descriptor.isIdentifier s.toList = true) :
    IsPlainName s := fun c hc => by
  cases hs : s.toList with
  | nil => simp [hs] at hc
  | cons d cs =>
    simp only [hs, Descriptor.isIdentifier, Bool.and_eq_true, List.all_eq_true, Bool.or_eq_true,
      beq_iff_eq] at h
    rcases List.mem_cons.1 (hs ▸ hc) with rfl | hc
    · exact Or.inl (by simp [Char.isAlphanum, h.1])
    · exact (h.2 c hc).imp_right fun he => by simp [he]

/-- A word of letters and digits. -/
structure IsPlainWord (w : List Char) : Prop extends IsOneWord w where
  alphanum : ∀ c ∈ w, c.isAlphanum = true

theorem isPlainWord_of_mem_wordsOf {s : String} (h : IsPlainName s) {w : List Char}
    (hw : w ∈ wordsOf s.toList) : IsPlainWord w := by
  refine ⟨isOneWord_of_mem_wordsOf hw, fun c hc => ?_⟩
  obtain ⟨hmem, hkept⟩ := mem_of_mem_wordsOf hw hc
  refine (h c hmem).resolve_right fun hsep => ?_
  have hall : ∀ c ∈ ['_', '-', ' '], isSeparator c = true := by simp [isSeparator, isBlank]
  rw [hall c hsep] at hkept
  cases hkept

theorem startsWord_of_isUpper {c : Char} (hc : c.isUpper = true) (d : Char) :
    startsWord c d = false := by
  have halnum : c.isAlphanum = true := by simp [Char.isAlphanum, Char.isAlpha, hc]
  have hsmall : (c.isLower || c.isDigit) = false :=
    alphanum_induction (P := fun c => c.isUpper = true → (c.isLower || c.isDigit) = false)
      (by decide +kernel) halnum hc
  rw [startsWord, hsmall, Bool.false_and]

theorem startsWord_of_not_isUpper (c : Char) {d : Char} (hd : d.isUpper = false) :
    startsWord c d = false := by
  rw [startsWord, hd, Bool.and_false]

namespace IsPlainWord

variable {w : List Char}

theorem of_small (hne : w ≠ []) (halphanum : ∀ c ∈ w, c.isAlphanum = true)
    (hsmall : ∀ c ∈ w, c.isUpper = false) : IsPlainWord w where
  kept c hc := not_isSeparator (halphanum c hc)
  closed := List.isChain_iff_forall_rel_of_append_cons_cons.2 fun c d _ _ he =>
    startsWord_of_not_isUpper c (hsmall d (by simp [he]))
  ne_nil := hne
  alphanum := halphanum

theorem toLower (hw : IsPlainWord w) : IsPlainWord (w.map Char.toLower) :=
  of_small (by simpa using hw.ne_nil)
    (List.forall_mem_map.2 fun c hc => isAlphanum_toLower (hw.alphanum c hc))
    (List.forall_mem_map.2 fun c _ => Char.isUpper_toLower_eq_false c)

/-- Only its first character may be a capital that another follows. -/
theorem small_of_head {c : Char} (hw : IsPlainWord (c :: w)) (hc : c.isUpper = false) :
    ∀ d ∈ c :: w, d.isUpper = false := by
  induction w generalizing c with
  | nil => simpa using hc
  | cons d w ih =>
    obtain ⟨hstarts, hclosed⟩ := List.isChain_cons_cons.1 hw.closed
    have hbehind : (c.isLower || c.isDigit) = true :=
      alphanum_induction (P := fun c => c.isUpper = false → (c.isLower || c.isDigit) = true)
        (by decide +kernel) (hw.alphanum c (by simp)) hc
    have hd : d.isUpper = false := by rwa [startsWord, hbehind, Bool.true_and] at hstarts
    have hrest : IsPlainWord (d :: w) :=
      ⟨⟨⟨fun e he => hw.kept e (by simp [he]), hclosed⟩, by simp⟩, fun e he => hw.alphanum e (by simp [he])⟩
    exact List.forall_mem_cons.2 ⟨hc, ih hrest hd⟩

theorem capitalize (hw : IsPlainWord w) : IsPlainWord (capitalize w) := by
  have halphanum := isAlphanum_of_mem_capitalize hw.alphanum
  cases w with
  | nil => exact absurd rfl hw.ne_nil
  | cons c w =>
    have hc : c.isAlphanum = true := hw.alphanum c (by simp)
    rw [capitalize_cons (toNat_lt_of_isAlphanum hc)] at halphanum ⊢
    refine ⟨⟨⟨fun d hd => not_isSeparator (halphanum d hd), ?_⟩, by simp⟩, halphanum⟩
    cases hlower : c.isLower with
    | false => rw [Char.toUpper_eq_of_not_isLower (by simp [hlower])]; exact hw.closed
    | true =>
      have hupper : c.toUpper.isUpper = true := by simp [Char.isAlpha, hlower]
      exact hw.closed.tail.cons fun d _ => startsWord_of_isUpper hupper d

end IsPlainWord

section LowerCase

variable {s : String}

theorem toList_lowerWords (h : IsPlainName s) :
    (lowerWords s).map String.toList = (wordsOf s.toList).map (·.map Char.toLower) := by
  rw [lowerWords, words, List.map_map, List.map_map]
  refine List.map_congr_left fun w hw => ?_
  have hascii (c : Char) (hc : c ∈ w) : c.toNat < 128 :=
    toNat_lt_of_isAlphanum ((isPlainWord_of_mem_wordsOf h hw).alphanum c hc)
  simp [lower, lowerChars_of_ascii hascii]

theorem isPlainWord_of_mem_lowerWords (h : IsPlainName s) {t : String} (ht : t ∈ lowerWords s) :
    IsPlainWord t.toList := by
  have hmem : t.toList ∈ (lowerWords s).map String.toList := List.mem_map_of_mem ht
  rw [toList_lowerWords h, List.mem_map] at hmem
  obtain ⟨w, hw, hlower⟩ := hmem
  exact hlower ▸ (isPlainWord_of_mem_wordsOf h hw).toLower

theorem underscore_not_mem_lowerWords (h : IsPlainName s) {t : String} (ht : t ∈ lowerWords s) :
    '_' ∉ t.toList := fun hc =>
  absurd ((isPlainWord_of_mem_lowerWords h ht).kept '_' hc) (by decide)

/-- Joined by separators the words in lower case are words again, and stay in lower case. -/
theorem words_join_lowerWords (h : IsPlainName s) {d : Char} (hd : isSeparator d = true) :
    words (join (String.singleton d) (lowerWords s)) = lowerWords s ∧
      lowerWords (join (String.singleton d) (lowerWords s)) = lowerWords s := by
  have hwords : words (join (String.singleton d) (lowerWords s)) = lowerWords s := by
    rw [words, wordsOf_join hd fun t ht => (isPlainWord_of_mem_lowerWords h ht).toIsOneWord,
      List.map_map]
    simp [Function.comp_def]
  refine ⟨hwords, ?_⟩
  rw [lowerWords, hwords, lowerWords, List.map_map]
  exact List.map_congr_left fun w _ => lower_lower w

theorem count_snake (h : IsPlainName s) :
    (snake s).toList.count '_' = (wordsOf s.toList).length - 1 := by
  have hlength : (wordsOf s.toList).length = (lowerWords s).length := by simp [lowerWords, words]
  rw [hlength]
  exact count_join fun t ht => underscore_not_mem_lowerWords h ht

end LowerCase

section Twice

variable {s : String}

theorem isAlphanum_capitalized (h : IsPlainName s) {ws : List (List Char)}
    (hws : ∀ w ∈ ws, w ∈ wordsOf s.toList) : ∀ c ∈ ws.flatMap capitalize, c.isAlphanum = true := by
  intro c hc
  obtain ⟨w, hw, hc⟩ := List.mem_flatMap.1 hc
  exact isAlphanum_of_mem_capitalize (isPlainWord_of_mem_wordsOf h (hws w hw)).alphanum c hc

theorem isWord_pascal (h : IsPlainName s) :
    IsWord (pascal s) ∧ ∀ c ∈ (pascal s).toList.head?, c.isLower = false := by
  have hword := isAlphanum_capitalized h fun w hw => hw
  rw [IsWord, pascal, String.toList_ofList]
  refine ⟨hword, fun c hc => ?_⟩
  cases hwords : wordsOf s.toList with
  | nil => simp [hwords] at hc
  | cons w ws =>
    have hw : IsPlainWord w := isPlainWord_of_mem_wordsOf h (hwords ▸ List.mem_cons_self)
    obtain ⟨d, ds, rfl⟩ := List.exists_cons_of_ne_nil hw.ne_nil
    have hd : d.toNat < 128 := toNat_lt_of_isAlphanum (hw.alphanum d (by simp))
    rw [hwords, List.flatMap_cons, capitalize_cons hd] at hc
    simp only [List.cons_append, List.head?_cons, Option.mem_some_iff] at hc
    exact hc ▸ Char.isLower_toUpper_eq_false d

/-- Letters and digits that start with no capital are spelled as a variable already. -/
theorem camel_of_isWord (h : IsWord s) (hhead : ∀ c ∈ s.toList.head?, c.isUpper = false) :
    camel s = s := by
  rw [← String.toList_inj, camel]
  rcases exists_wordsOf_of_isWord h with hnil | ⟨c, w, ws, hwords, hc, hws⟩
  · rw [hnil, ← flatten_wordsOf_of_isWord h, hnil]
    rfl
  · have hfirst : IsPlainWord (c :: w) :=
      isPlainWord_of_mem_wordsOf (fun c hc => Or.inl (h c hc)) (hwords ▸ List.mem_cons_self)
    have hsmall := hfirst.small_of_head (hhead c hc)
    have hlower : (c :: w).map Char.toLower = c :: w := by
      conv_rhs => rw [← List.map_id (c :: w)]
      exact List.map_congr_left fun d hd => Char.toLower_eq_of_not_isUpper (by simp [hsmall d hd])
    rw [hwords, String.toList_ofList, lower_of_mem_words h (hwords ▸ List.mem_cons_self), hlower,
      List.flatMap_def, List.map_congr_left hws, List.map_id', ← List.flatten_cons, ← hwords,
      flatten_wordsOf_of_isWord h]

theorem isWord_camel (h : IsPlainName s) :
    IsWord (camel s) ∧ ∀ c ∈ (camel s).toList.head?, c.isUpper = false := by
  rw [IsWord, camel]
  cases hwords : wordsOf s.toList with
  | nil => simp
  | cons w ws =>
    have hw : IsPlainWord w := isPlainWord_of_mem_wordsOf h (hwords ▸ List.mem_cons_self)
    have hlower : lowerChars w = w.map Char.toLower :=
      lowerChars_of_ascii fun c hc => toNat_lt_of_isAlphanum (hw.alphanum c hc)
    have hrest : ∀ c ∈ ws.flatMap capitalize, c.isAlphanum = true :=
      isAlphanum_capitalized h fun v hv => hwords ▸ List.mem_cons_of_mem w hv
    rw [String.toList_ofList, hlower]
    refine ⟨List.forall_mem_append.2 ⟨hw.toLower.alphanum, hrest⟩, fun c hc => ?_⟩
    obtain ⟨d, ds, rfl⟩ := List.exists_cons_of_ne_nil hw.ne_nil
    simp only [List.map_cons, List.cons_append, List.head?_cons, Option.mem_some_iff] at hc
    exact hc ▸ Char.isUpper_toLower_eq_false d

theorem isWord_goIdentifier (h : IsPlainName s) : IsWord (goIdentifier s) := by
  have hident : IsWord (if camel s = "" then "value" else camel s) := by
    split
    · decide
    · exact (isWord_camel h).1
  unfold goIdentifier
  generalize (if camel s = "" then "value" else camel s) = ident at hident ⊢
  simp only
  split
  · exact isWord_append.2 ⟨hident, by decide⟩
  · exact hident

/-- Spelled twice a name is spelled as once, and the snake and the kebab spelling of one another are
those of the name: their words are its words in lower case. -/
theorem respelled (h : IsPlainName s) :
    pascal (pascal s) = pascal s ∧ camel (camel s) = camel s ∧
      snake (snake s) = snake s ∧ kebab (kebab s) = kebab s ∧
      snake (kebab s) = snake s ∧ kebab (snake s) = kebab s ∧
      words (snake s) = lowerWords s := by
  obtain ⟨hwords, hsnake⟩ := words_join_lowerWords h (d := '_') (by decide)
  obtain ⟨-, hkebab⟩ := words_join_lowerWords h (d := '-') (by decide)
  have hsnake : lowerWords (snake s) = lowerWords s := hsnake
  have hkebab : lowerWords (kebab s) = lowerWords s := hkebab
  refine ⟨pascal_of_isWord (isWord_pascal h).1 (isWord_pascal h).2,
    camel_of_isWord (isWord_camel h).1 (isWord_camel h).2, ?_, ?_, ?_, ?_, hwords⟩
  · rw [snake, hsnake, ← snake]
  · rw [kebab, hkebab, ← kebab]
  · rw [snake, hkebab, ← snake]
  · rw [kebab, hsnake, ← kebab]

/-- Capitals in a row stay together, and a digit starts no word of its own. -/
theorem respelled_server : let name := "a HTTPServer_2x--idB9"
    camel (camel name) = "aHTTPServer2xIdB9" ∧
      words (snake name) = ["a", "httpserver", "2x", "id", "b9"] := by
  intro name
  obtain ⟨-, hcamel, -, -, -, -, hwords⟩ := respelled (s := name) (by decide)
  rw [hcamel, hwords]
  decide +kernel

end Twice

section Canonical

variable {u v : List Char}

/-- With capitals the two words stay apart. -/
def KeepsApart (u v : List Char) : Prop :=
  u.getLast?.any (fun c => c.isDigit || (2 ≤ u.length && c.isLower)) = true ∧
    v.head?.any Char.isAlpha = true

instance : DecidableRel KeepsApart := fun u v => inferInstanceAs (Decidable
  (u.getLast?.any (fun c => c.isDigit || (2 ≤ u.length && c.isLower)) = true ∧
    v.head?.any Char.isAlpha = true))

theorem isSeam_capitalize_iff (hu : IsPlainWord u) (hv : IsPlainWord v) :
    IsSeam (capitalize u) (capitalize v) ↔ KeepsApart u v := by
  obtain ⟨c, u, rfl⟩ := List.exists_cons_of_ne_nil hu.ne_nil
  obtain ⟨d, v, rfl⟩ := List.exists_cons_of_ne_nil hv.ne_nil
  have hc : c.isAlphanum = true := hu.alphanum c (by simp)
  have hd : d.isAlphanum = true := hv.alphanum d (by simp)
  rw [capitalize_cons (toNat_lt_of_isAlphanum hc), capitalize_cons (toNat_lt_of_isAlphanum hd)]
  cases u with
  | nil =>
    have hdigit : c.toUpper.isDigit = c.isDigit :=
      alphanum_induction (P := fun c => c.toUpper.isDigit = c.isDigit) (by decide +kernel) hc
    simp [IsSeam, KeepsApart, startsWord, hdigit]
  | cons e u =>
    rw [isSeam_cons_cons, KeepsApart, List.getLast?_cons_cons]
    simp [IsSeam, startsWord, Option.any_eq_true, or_comm, ← and_assoc]

/-- The canonical spelling of an identifier keeps its column just when capitals keep all its words
apart. Every other one has fewer underscores in its column. -/
theorem snake_pascal_iff {name : String} (h : Descriptor.isIdentifier name.toList = true) :
    (snake (pascal name) = snake name ↔ (wordsOf name.toList).IsChain KeepsApart) ∧
      (¬ (wordsOf name.toList).IsChain KeepsApart →
        (snake (pascal name)).toList.count '_' < (snake name).toList.count '_') := by
  have hname := isPlainName_of_isIdentifier h
  have hplain {w : List Char} (hw : w ∈ wordsOf name.toList) : IsPlainWord w :=
    isPlainWord_of_mem_wordsOf hname hw
  have hcapitalized : ∀ w ∈ (wordsOf name.toList).map capitalize, IsOneWord w :=
    List.forall_mem_map.2 fun w hw => (hplain hw).capitalize.toIsOneWord
  have hseams : ((wordsOf name.toList).map capitalize).IsChain IsSeam ↔
      (wordsOf name.toList).IsChain KeepsApart := by
    rw [List.isChain_map]
    exact List.IsChain.iff_of_mem_imp fun u v hu hv => isSeam_capitalize_iff (hplain hu) (hplain hv)
  have hpascal : (pascal name).toList = ((wordsOf name.toList).map capitalize).flatten := by
    rw [pascal, String.toList_ofList, List.flatMap_def]
  have hfewer (happart : ¬ (wordsOf name.toList).IsChain KeepsApart) :
      (snake (pascal name)).toList.count '_' < (snake name).toList.count '_' := by
    have hlength := length_wordsOf_flatten_lt hcapitalized (hseams.not.2 happart)
    have htype := isTypeName_pascal h
    have hpositive : 0 < (wordsOf (pascal name).toList).length := by
      obtain ⟨c, cs, hcs, -⟩ := htype.capital
      obtain ⟨w, ws, hws⟩ := wordsOf_cons (not_isSeparator (htype.word c (by simp [hcs]))) cs
      simp [hcs, hws]
    rw [count_snake hname, count_snake fun c hc => Or.inl (htype.word c hc)]
    rw [← hpascal, List.length_map] at hlength
    omega
  refine ⟨⟨fun heq => ?_, fun hchain => ?_⟩, hfewer⟩
  · by_contra happart
    exact absurd (hfewer happart) (by simp [heq])
  · have hwords : wordsOf (pascal name).toList = (wordsOf name.toList).map capitalize := by
      rw [hpascal, wordsOf_flatten hcapitalized (hseams.2 hchain)]
    have hlower : lowerWords (pascal name) = lowerWords name := by
      apply List.map_injective_iff.2 fun _ _ => String.toList_injective
      rw [toList_lowerWords fun c hc => Or.inl ((isTypeName_pascal h).word c hc), hwords,
        toList_lowerWords hname, List.map_map]
      exact List.map_congr_left fun w hw => map_toLower_capitalize (hplain hw).alphanum
    rw [snake, hlower, ← snake]

theorem snake_pascal_lines : snake (pascal "order_line2_tax") = snake "order_line2_tax" ∧
    (snake (pascal "x_id")).toList.count '_' < (snake "x_id").toList.count '_' :=
  ⟨(snake_pascal_iff (by decide)).1.2 (by decide +kernel),
    (snake_pascal_iff (by decide)).2 (by decide +kernel)⟩

end Canonical

end GoScaffold.Naming
