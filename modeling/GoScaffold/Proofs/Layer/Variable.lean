import GoScaffold.Proofs.Field.Seed
import GoScaffold.Proofs.Layer.InputOutput

/-!
# Names of variables

The variables for one and for several records, and the parameters of lookups. Names go different ways
from the name of a type to a variable, a plural or a column, but the letter at their end tells them
apart.
-/
namespace GoScaffold

open GoScaffold.Text GoScaffold.Naming

namespace Naming

/-- The letter or digit at the end, a capital in lower case. -/
def lastLetter? (s : String) : Option Char := (s.toList.map Char.toLower).getLast?

theorem lastLetter?_append (s : String) {t : String} (ht : t ≠ "") :
    lastLetter? (s ++ t) = lastLetter? t := by
  have hne : t.toList.map Char.toLower ≠ [] := by simpa [String.toList_eq_nil_iff] using ht
  rw [lastLetter?, String.toList_append, List.map_append, List.getLast?_append_of_ne_nil _ hne]
  rfl

/-- What is set apart from other names ends with an `e`. -/
theorem lastLetter?_value (s : String) : lastLetter? (s ++ "Value") = some 'e' := by
  rw [lastLetter?_append s (by decide)]
  decide

/-- Go's own names end in other letters than plurals. -/
theorem lastLetter?_isGoName {s : String} (h : isGoName s = true) : lastLetter? s ≠ some 's' := by
  have hall : ∀ t ∈ goKeywords ++ goPredeclared, lastLetter? t ≠ some 's' := by decide
  simp only [isGoName, Bool.or_eq_true, List.contains_iff_mem] at h
  exact hall s (List.mem_append.2 h)

section Spelled

variable {s t : String}

theorem letters_camel (h : IsWord s) :
    (camel s).toList.map Char.toLower = s.toList.map Char.toLower := by
  have hwords := flatten_wordsOf_of_isWord h
  have hcapital {w : List Char} (hw : w ∈ wordsOf s.toList) :
      (capitalize w).map Char.toLower = w.map Char.toLower :=
    map_toLower_capitalize fun c hc => h c (mem_of_mem_wordsOf hw hc).1
  rw [camel]
  split
  · next hnil =>
    rw [hnil] at hwords
    simp [← hwords]
  · next w ws hws =>
    have hword {v : List Char} (hv : v ∈ w :: ws) : v ∈ wordsOf s.toList := hws ▸ hv
    have hlow : (lowerChars w).map Char.toLower = w.map Char.toLower := by
      rw [lower_of_mem_words h (hword List.mem_cons_self), List.map_map]
      exact List.map_congr_left fun c _ => c.toLower_toLower_eq_toLower
    rw [String.toList_ofList, List.map_append, hlow, List.map_flatMap,
      List.flatMap_congr fun v hv => hcapital (hword (List.mem_cons_of_mem w hv)), ← hwords, hws,
      List.flatten_cons, List.map_append, List.map_flatten, List.flatMap_def]

/-- A name in small letters alone is that of a variable and of a column, or of neither. -/
theorem camel_eq_iff (h : IsTypeName s) (ht : ∀ c ∈ t.toList, c.isLower = true) :
    camel s = t ↔ snake s = t := by
  obtain ⟨c, cs, hcs, hc⟩ := h.capital
  obtain ⟨w, ws, hws⟩ := wordsOf_cons (not_isSeparator (h.word c (by simp [hcs]))) cs
  rw [← hcs] at hws
  have hcamel : camel s = .ofList (lowerChars (c :: w) ++ ws.flatMap capitalize) := by
    rw [camel, hws]
  have hsnake : snake s = join "_" (lower (.ofList (c :: w)) :: (ws.map .ofList).map lower) := by
    rw [snake, lowerWords, words, hws]
    rfl
  cases ws with
  | nil => rw [hcamel, hsnake]; simp [join, lower]
  | cons v vs =>
    -- a second word brings a capital to the variable and an underscore to the column
    obtain ⟨d, ds, rfl, hd⟩ := capital_of_mem_wordsOf h (w := v) (hws ▸ by simp)
    have hcapital : d ∈ (camel s).toList := by
      rw [hcamel, List.flatMap_cons, capitalize_of_isUpper hd]
      simp
    have hjoined : '_' ∈ (snake s).toList := by
      rw [hsnake]
      simp [join]
    refine iff_of_false (fun he => ?_) fun he => ?_
    · exact absurd (ht d (he ▸ hcapital)) (by simp [Char.not_isLower_of_isUpper hd])
    · exact absurd (ht '_' (he ▸ hjoined)) (by decide)

theorem lastLetter?_camel (h : IsWord s) : lastLetter? (camel s) = lastLetter? s := by
  rw [lastLetter?, letters_camel h, lastLetter?]

/-- A variable that is set apart from Go's own names ends with an `e`, every other one like the name. -/
theorem lastLetter?_goIdentifier (h : IsTypeName s) :
    lastLetter? (goIdentifier s) = lastLetter? s ∨ lastLetter? (goIdentifier s) = some 'e' := by
  rcases goIdentifier_cases (isIdentifier_of_isTypeName h) with ⟨he, -⟩ | ⟨he, -⟩
  · rw [he, lastLetter?_camel h.word]
    exact Or.inl rfl
  · exact Or.inr (he ▸ lastLetter?_value _)

/-- The variable for several ends with an `s`, as no name of Go's own does. -/
theorem lastLetter?_plural (h : IsTypeName s) : lastLetter? (goIdentifier (plural s)) = some 's' := by
  have hne : s ≠ "" := by
    obtain ⟨c, cs, hcs, -⟩ := h.capital
    rintro rfl
    simp at hcs
  have hlast : lastLetter? (camel (plural s)) = some 's' := by
    obtain ⟨front, hfront⟩ := Naming.exists_plural hne
    rw [lastLetter?_camel h.word.plural, hfront, lastLetter?_append _ (by decide)]
    decide
  rcases goIdentifier_cases (isIdentifier_plural h) with ⟨he, -⟩ | ⟨-, hgo⟩
  · rw [he, hlast]
  · exact absurd hlast (lastLetter?_isGoName hgo)

/-- A name in small letters is that of a variable just when it is that of a column, unless it is one of
Go's own or could be the name of a variable set apart from those. -/
theorem goIdentifier_eq_iff (h : IsTypeName s) (ht : ∀ c ∈ t.toList, c.isLower = true)
    (hgo : isGoName t = false) (hlast : lastLetter? t ≠ some 'e') : goIdentifier s = t ↔ snake s = t := by
  rw [← camel_eq_iff h ht]
  rcases goIdentifier_cases (isIdentifier_of_isTypeName h) with ⟨he, -⟩ | ⟨he, hgo'⟩
  · rw [he]
  · exact iff_of_false (fun h => hlast (h ▸ he ▸ lastLetter?_value _)) fun h => by simp [h, hgo] at hgo'

/-- No name that identifies a record ends like a plural. -/
theorem lastLetter?_of_isCalled (h : IsWord s) (hcalled : isCalled (snake s) uniqueTerms = true) :
    lastLetter? s ≠ some 's' := by
  have hall : ∀ t ∈ uniqueTerms, ∃ d ∈ (('_' :: t.toList).filter (· != '_')).getLast?, d ≠ 's' := by
    simp [uniqueTerms]
  obtain ⟨t, ht, hsuffix⟩ := isCalled_iff.1 hcalled
  obtain ⟨d, hd, hne⟩ := hall t ht
  obtain ⟨before, hbefore⟩ := List.getLast?_eq_some_iff.1 hd
  have hletters : ('_' :: (snake s).toList).filter (· != '_') = s.toList.map Char.toLower := by
    rw [List.filter_cons_of_neg (by decide), letters_snake h]
  have hend := hsuffix.filter (· != '_')
  rw [hletters, hbefore] at hend
  obtain ⟨front, hfront⟩ := hend
  rw [lastLetter?, ← hfront, ← List.append_assoc, List.getLast?_concat]
  simpa using hne

end Spelled

end Naming

namespace Entity

variable {e : Entity} {a : Accessor} {m : Member}

theorem lastLetter?_pluralVariable (h : e.IsDescribed) : lastLetter? e.pluralVariableName = some 's' :=
  lastLetter?_plural h.name

theorem pluralVariable_ne (h : e.IsDescribed) {s : String} (hs : lastLetter? s ≠ some 's') :
    e.pluralVariableName ≠ s := fun he => hs (he ▸ lastLetter?_pluralVariable h)

def foundVariable (e : Entity) (m : Member) : String :=
  if m.plan.unique then e.variableName else e.pluralVariableName

/-- No field that identifies a record is called like something else that a lookup binds. -/
theorem not_mem_of_unique (h : e.IsDescribed) (hname : IsTypeName m.name) (hunique : m.plan.unique = true) :
    goIdentifier m.name ∉ ["r", "result", e.pluralVariableName] := by
  have hcalled : isCalled (snake m.name) uniqueTerms = true := (Member.of_isUnique hunique).2
  have happears {t : String} (ht : ∀ c ∈ t.toList, c.isLower = true) (hgo : isGoName t = false)
      (hlast : lastLetter? t ≠ some 'e') (hother : isCalled t uniqueTerms = false) :
      goIdentifier m.name ≠ t := fun he => by
    rw [goIdentifier_eq_iff hname ht hgo hlast] at he
    simp [he, hother] at hcalled
  have hplural : goIdentifier m.name ≠ e.pluralVariableName := fun he => by
    have hlast : lastLetter? (goIdentifier m.name) = some 's' := he ▸ lastLetter?_pluralVariable h
    rcases lastLetter?_goIdentifier hname with hown | hvalue
    · exact lastLetter?_of_isCalled hname.word hcalled (hown ▸ hlast)
    · simp [hvalue] at hlast
  simp only [List.mem_cons, List.not_mem_nil, or_false, not_or]
  exact ⟨happears (by simp) (by decide) (by decide) (by decide),
    happears (by simp) (by decide) (by decide) (by decide), hplural⟩

/-- The parameter is none of the other names that the lookup binds. -/
theorem lookupParameter_not_mem (h : e.IsDescribed) (hname : IsTypeName m.name)
    (hfield : a.field = m.name) : e.lookupParameter a ∉ ["r", "result", e.foundVariable m] := by
  have hcases := lookupParameter_cases e a
  simp only [List.mem_cons, List.not_mem_nil, or_false, not_or, foundVariable] at hcases ⊢
  rcases hcases with ⟨he, hr, hresult, hvariable, hplural⟩ | ⟨he, hmem⟩
  · rw [he]
    refine ⟨hr, hresult, ?_⟩
    split_ifs
    · exact hvariable
    · exact hplural
  · have hlast : lastLetter? (e.lookupParameter a) = some 'e' := he ▸ lastLetter?_value _
    -- the plural ends with an `s`, and only a field that is not unique could be called like it
    have hapart {t : String} (ht : lastLetter? t ≠ some 'e') : e.lookupParameter a ≠ t := fun he =>
      ht (he ▸ hlast)
    refine ⟨hapart (by decide), hapart (by decide), ?_⟩
    split_ifs with hunique
    · have hothers := not_mem_of_unique h hname hunique
      simp only [List.mem_cons, List.not_mem_nil, or_false, not_or, ← hfield] at hothers
      have hvariable : goIdentifier a.field = e.variableName :=
        ((hmem.resolve_left hothers.1).resolve_left hothers.2.1).resolve_right hothers.2.2
      rw [he, hvariable]
      simp [← String.toList_inj]
    · exact hapart (by simp [lastLetter?_pluralVariable h])

/-- A name in small letters is that of the parameter just when the column has it and the variable has
not. -/
theorem lookupParameter_eq_iff (h : e.IsDescribed) (hname : IsTypeName m.name)
    (hfield : a.field = m.name) {t : String} (ht : ∀ c ∈ t.toList, c.isLower = true)
    (hgo : isGoName t = false) (hlast : lastLetter? t ≠ some 'e') (hplural : lastLetter? t ≠ some 's')
    (hfixed : t ∉ ["r", "result"]) :
    e.lookupParameter a = t ↔ m.column = t ∧ e.variableName ≠ t := by
  have hcolumn : goIdentifier a.field = t ↔ m.column = t :=
    hfield ▸ goIdentifier_eq_iff hname ht hgo hlast
  rcases lookupParameter_cases e a with ⟨he, hother⟩ | ⟨he, hmem⟩
  · rw [he, hcolumn]
    refine ⟨fun hm => ⟨hm, fun hv => hother ?_⟩, And.left⟩
    rw [hcolumn.2 hm, ← hv]
    simp
  · refine iff_of_false (fun heq => hlast (heq ▸ he ▸ lastLetter?_value _)) fun ⟨hm, hv⟩ => ?_
    · rw [hcolumn.2 hm] at hmem
      simp only [List.mem_cons, List.not_mem_nil, or_false, not_or] at hmem hfixed
      rcases hmem with hr | hresult | hvariable | hpluralVariable
      · exact hfixed.1 hr
      · exact hfixed.2 hresult
      · exact hv hvariable.symm
      · exact pluralVariable_ne h hplural hpluralVariable.symm

end Entity

end GoScaffold
