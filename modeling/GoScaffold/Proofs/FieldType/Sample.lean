import GoScaffold.Proofs.Layer.Spelled
import GoScaffold.Proofs.Text.Numeral

/-!
# Samples by number

What a sample has to do with the number of its record. A text sample tells the number, or it is one
of a few texts that come in turn. The latter is so for names, titles, states and phone numbers only.
-/
namespace GoScaffold

open GoScaffold.Text GoScaffold.Naming

namespace Naming

variable {column : String} {terms terms' : List String}

/-- A column is called by a term if it ends in it, an underscore in front of both. -/
theorem isCalled_iff : isCalled column terms = true ↔
    ∃ t ∈ terms, '_' :: t.toList <:+ '_' :: column.toList := by
  have hterm (t : String) : ((column == t || endsWith column ("_" ++ t)) = true) ↔
      '_' :: t.toList <:+ '_' :: column.toList := by
    rw [List.suffix_cons_iff, Bool.or_eq_true, beq_iff_eq, endsWith, List.isSuffixOf_iff_suffix,
      List.cons.injEq, String.toList_inj, String.toList_append]
    simp [eq_comm]
  simp only [isCalled, List.any_eq_true, hterm]

theorem isCalled_mono (h : isCalled column terms = true) (hterms : terms ⊆ terms') :
    isCalled column terms' = true := by
  obtain ⟨t, ht, hsuffix⟩ := isCalled_iff.1 h
  exact isCalled_iff.2 ⟨t, hterms ht, hsuffix⟩

/-- Terms that end in one another with an underscore in front. -/
def akin (t t' : String) : Bool :=
  ('_' :: t.toList).isSuffixOf ('_' :: t'.toList) || ('_' :: t'.toList).isSuffixOf ('_' :: t.toList)

/-- No column is called by terms of which none ends in another. -/
theorem isCalled_eq_false (h : isCalled column terms = true)
    (hapart : terms.all (fun t => terms'.all fun t' => !akin t t') = true) :
    isCalled column terms' = false := by
  rw [← Bool.not_eq_true]
  intro h'
  obtain ⟨t, ht, hsuffix⟩ := isCalled_iff.1 h
  obtain ⟨t', ht', hsuffix'⟩ := isCalled_iff.1 h'
  have hakin : akin t t' = false := by
    simpa using List.all_eq_true.1 (List.all_eq_true.1 hapart t ht) t' ht'
  rw [akin, Bool.or_eq_false_iff, ← Bool.not_eq_true, ← Bool.not_eq_true,
    List.isSuffixOf_iff_suffix, List.isSuffixOf_iff_suffix] at hakin
  exact (List.suffix_or_suffix_of_suffix hsuffix hsuffix').elim hakin.1 hakin.2

end Naming

namespace FieldType

section Rules

variable {name : String} {index : Int}

theorem literal_text : SampleRule.text.literal name index = textSample name index := rfl

theorem literal_integer : SampleRule.integer.literal name index = integerSample name index := rfl

theorem literal_fraction : SampleRule.fraction.literal name index = fractionSample name index := rfl

end Rules

def recurringTerms : List String := ["name", "title", "status", "phone"]

def recurringTexts : List String :=
  people ++ statuses ++ (List.range 10).map fun d : Nat => "+1-555-010" ++ toString d

/-- What ends a literal in Go or in SQL. -/
def sampleEnds : List Char := '\'' :: literalEnds

theorem pick_mem {values : List String} (h : values ≠ []) (index : Nat) : pick values index ∈ values := by
  have hlength : 0 < values.length := List.length_pos_iff.2 h
  have hlt : index % values.length < values.length := Nat.mod_lt _ hlength
  have hindex : ((index : Int) % values.length).toNat = index % values.length := by
    omega
  rw [pick, hindex, List.getD_eq_getElem _ _ hlt]
  exact List.getElem_mem hlt

/-- The contents of the text samples of a column by the number of the record: each has its number in
it, or all are among the texts that come in turn. -/
inductive IsSample (column : String) (content : Nat → String) : Prop
  | numbered (front : Nat → String) (width : Nat) (back : String) (told : IsTold front)
      (lacksFront : ∀ i, Lacks sampleEnds (front i)) (lacksBack : Lacks sampleEnds back)
      (eq : ∀ i, content i = front i ++ zeroPadded width (i + 1 : Nat) ++ back)
  | recurring (called : isCalled column recurringTerms = true)
      (mem : ∀ i, content i ∈ recurringTexts)

theorem IsSample.ite {column : String} {f g : Nat → String} {c : Prop} [Decidable c]
    (hf : c → IsSample column f) (hg : ¬ c → IsSample column g) :
    IsSample column fun i => if c then f i else g i := by
  by_cases hc : c
  · simpa only [if_pos hc] using hf hc
  · simpa only [if_neg hc] using hg hc

theorem IsSample.behind {column : String} (front : String) (width : Nat)
    (hfront : Lacks sampleEnds front) {content : Nat → String}
    (h : ∀ i, content i = front ++ zeroPadded width (i + 1 : Nat)) : IsSample column content :=
  .numbered (fun _ => front) width "" (Or.inl fun _ _ => rfl) (fun _ => hfront) (by decide)
    (by simpa using h)

theorem IsSample.user {column : String} (back : String) (hback : Lacks sampleEnds back)
    {content : Nat → String}
    (h : ∀ i : Nat, content i = pick mailUsers i ++ zeroPadded 0 (i + 1 : Nat) ++ back) :
    IsSample column content := by
  have hdigits : (mailUsers.all fun u => u.toList.all fun c => !c.isDigit) = true := by decide
  have hlacks : ∀ u ∈ mailUsers, Lacks sampleEnds u := by decide
  have hpick (i : Nat) : pick mailUsers i ∈ mailUsers := pick_mem (by decide) i
  have htold : IsTold fun i => pick mailUsers i := Or.inr fun i c hc => by
    simpa using List.all_eq_true.1 (List.all_eq_true.1 hdigits _ (hpick i)) c hc
  exact .numbered _ 0 back htold (fun i => hlacks _ (hpick i)) hback h

theorem IsSample.turn {column : String} (hcalled : isCalled column recurringTerms = true)
    {values : List String} (hne : values ≠ []) (hvalues : ∀ v ∈ values, v ∈ recurringTexts) :
    IsSample column fun i => pick values i :=
  .recurring hcalled fun i => hvalues _ (pick_mem hne i)

section Lacking

variable {name : String}

theorem not_isAlphanum_of_sampleEnds : sampleEnds.all (!·.isAlphanum) = true := by decide +kernel

theorem lacks_upper_snake (h : IsWord name) : Lacks sampleEnds (upper (snake name)) := by
  have hcolumn : ∀ d ∈ (snake name).toList,
      d.toNat < 128 ∧ (d.toUpper = '_' ∨ d.toUpper.isAlphanum) := by
    intro d hd
    rcases mem_join_lowerWords h hd with hd | hd
    · obtain rfl : d = '_' := by simpa using hd
      decide
    · exact ⟨toNat_lt_of_isAlphanum hd, Or.inr (isAlphanum_toUpper hd)⟩
  intro c hc hmem
  rw [upper, String.toList_ofList, upperChars_of_ascii fun d hd => (hcolumn d hd).1] at hmem
  obtain ⟨d, hd, rfl⟩ := List.mem_map.1 hmem
  have hends := List.all_eq_true.1 not_isAlphanum_of_sampleEnds _ hc
  rcases (hcolumn d hd).2 with he | he
  · exact absurd (he ▸ hc) (by decide)
  · simp [he] at hends

end Lacking

theorem exists_textSample {name : String} (h : IsWord name) : ∃ content,
    IsSample (snake name) content ∧ ∀ i : Nat, textSample name i = doubleQuoted (content i) := by
  have hnumber (i : Nat) : toString ((i : Int) + 1) = zeroPadded 0 (i + 1 : Nat) :=
    toString_eq_zeroPadded (i + 1)
  have hname := h.lacks not_isAlphanum_of_sampleEnds
  have hdashed : Lacks sampleEnds (replace "_" "-" (snake name)) := lacks_replace (by decide)
    (by decide) (lacks_join_lowerWords h not_isAlphanum_of_sampleEnds (by decide))
  refine ⟨_, ?_, fun i => rfl⟩
  refine .ite (fun _ => ?mail) fun _ => .ite (fun hcalled => ?person) fun _ => .ite (fun _ => ?user)
    fun _ => .ite (fun hcalled => ?status) fun _ => .ite (fun _ => ?code) fun _ =>
    .ite (fun _ => ?slug) fun _ => .ite (fun hcalled => ?phone) fun _ => .ite (fun _ => ?site) fun _ =>
    ?other
  case mail => exact .user "@example.com" (by decide) fun i => by rw [hnumber]
  case person =>
    refine .turn ?_ (by decide) fun v hv => by simp [recurringTexts, hv]
    rcases Bool.or_eq_true_iff.1 hcalled with hterm | hend
    · have hterms : ∀ t ∈ ["name", "full_name", "title"], isCalled t recurringTerms = true := by decide
      exact hterms _ (List.contains_iff_mem.1 hterm)
    · have hone : isCalled (snake name) ["name"] = true :=
        isCalled_iff.2 ⟨"name", by simp, List.suffix_cons_iff.2 (Or.inr (List.isSuffixOf_iff_suffix.1 hend))⟩
      exact isCalled_mono hone (by simp [recurringTerms])
  case user => exact .user "" (by decide) fun i => by rw [hnumber, String.append_empty]
  case status =>
    refine .turn ?_ (by decide) fun v hv => by simp [recurringTexts, hv]
    rw [hcalled]
    decide
  case code =>
    exact .behind (upper (snake name) ++ "-") 4 (lacks_append.2 ⟨lacks_upper_snake h, by decide⟩)
      fun i => rfl
  case slug =>
    refine .behind ("sample-" ++ replace "_" "-" (snake name) ++ "-") 0 ?_ fun i => by rw [hnumber]
    exact lacks_append.2 ⟨lacks_append.2 ⟨by decide, hdashed⟩, by decide⟩
  case phone =>
    refine .recurring (isCalled_mono hcalled (by simp [recurringTerms])) fun i => ?_
    have hdigit : toString (((i : Int) + 1) % 10) = toString ((i + 1) % 10) := rfl
    rw [hdigit]
    exact List.mem_append_right _ (List.mem_map_of_mem (List.mem_range.2 (Nat.mod_lt _ (by omega))))
  case site =>
    refine .behind ("https://example.com/" ++ replace "_" "-" (snake name) ++ "/") 0 ?_ fun i => by
      rw [hnumber]
    exact lacks_append.2 ⟨lacks_append.2 ⟨by decide, hdashed⟩, by decide⟩
  case other =>
    refine .behind ("Sample " ++ name ++ " ") 0 ?_ fun i => by rw [hnumber]
    exact lacks_append.2 ⟨lacks_append.2 ⟨by decide, hname⟩, by decide⟩

namespace IsSample

variable {column : String} {content : Nat → String}

theorem lacks (h : IsSample column content) (i : Nat) : Lacks sampleEnds (content i) := by
  have hdigits (width n : Nat) : Lacks sampleEnds (zeroPadded width n) := fun c hc hmem => by
    have hends := List.all_eq_true.1 not_isAlphanum_of_sampleEnds c hc
    simp [Char.isAlphanum, isDigit_of_mem_zeroPadded hmem] at hends
  have hrecurring : ∀ s ∈ recurringTexts, Lacks sampleEnds s := by decide
  cases h with
  | numbered front width back _ hfront hback heq =>
    rw [heq]
    exact lacks_append.2 ⟨lacks_append.2 ⟨hfront i, hdigits width (i + 1)⟩, hback⟩
  | recurring _ hmem => exact hrecurring _ (hmem i)

theorem ne_empty (h : IsSample column content) (i : Nat) : content i ≠ "" := by
  have hrecurring : ∀ s ∈ recurringTexts, s ≠ "" := by decide
  cases h with
  | numbered front width back _ _ _ heq =>
    rw [heq]
    intro hempty
    obtain ⟨hfront, -⟩ := String.append_eq_empty_iff.1 hempty
    exact zeroPadded_ne_nil width (i + 1)
      (String.toList_eq_nil_iff.2 (String.append_eq_empty_iff.1 hfront).2)
  | recurring _ hmem => exact hrecurring _ (hmem i)

/-- The samples of a column that identifies a record are all different: such columns are not called
by terms whose samples come in turn. -/
theorem injective (h : IsSample column content) (hunique : isCalled column uniqueTerms = true) :
    Function.Injective content := by
  cases h with
  | numbered front width back htold _ _ heq =>
    intro i j hij
    exact htold.injective width back ((heq i).symm.trans (hij.trans (heq j)))
  | recurring hcalled _ =>
    rw [isCalled_eq_false hunique (by decide)] at hcalled
    cases hcalled

end IsSample

/-- An integer sample is a natural number, and it tells the number of the record unless it is an
age. -/
theorem exists_integerSample (name : String) (i : Nat) : ∃ n : Nat,
    integerSample name i = zeroPadded 0 n ∧
      (isCalled (snake name) ["age"] = false → n = (i + 1) * 10) := by
  by_cases hage : isCalled (snake name) ["age"] = true
  · refine ⟨18 + i * 7 % 60, ?_, by simp [hage]⟩
    rw [integerSample, if_pos hage]
    exact toString_eq_zeroPadded (18 + i * 7 % 60)
  · refine ⟨(i + 1) * 10, ?_, fun _ => rfl⟩
    rw [integerSample, if_neg hage]
    exact toString_eq_zeroPadded ((i + 1) * 10)

/-- A sample with a fraction has digits on both sides of the point. -/
theorem exists_fractionSample (name : String) (i : Nat) : ∃ n k : Nat, ∃ width,
    fractionSample name i = zeroPadded 0 n ++ "." ++ zeroPadded width k := by
  have hprices : ∀ p ∈ prices, ∃ n k : Nat, ∃ width,
      p = zeroPadded 0 n ++ "." ++ zeroPadded width k := by
    simp only [prices, List.forall_mem_cons]
    exact ⟨⟨99, 99, 0, by decide⟩, ⟨149, 50, 0, by decide⟩, ⟨199, 99, 0, by decide⟩,
      ⟨249, 0, 2, by decide⟩, ⟨299, 95, 0, by decide⟩, by simp⟩
  rw [fractionSample]
  split
  · exact hprices _ (pick_mem (by decide) i)
  · refine ⟨i + 1, 5, 0, ?_⟩
    have hhalf : ".5" = "." ++ zeroPadded 0 5 := by decide
    rw [hhalf, ← String.append_assoc]
    exact congrArg (· ++ "." ++ zeroPadded 0 5) (toString_eq_zeroPadded (i + 1))

end FieldType

end GoScaffold
