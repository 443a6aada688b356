import GoScaffold.Proofs.FieldType.Sample
import GoScaffold.Proofs.Naming.Respelled

/-!
# Terms of a dictionary

A term is one or more words. It stands for a name whose last words they are, however the name is
spelled, and never for a part of a word.
-/
namespace GoScaffold

open GoScaffold.Text GoScaffold.Naming

/-- Words without underscores. -/
structure DictionaryTerm where
  words : List String
  words_ne : words ≠ []
  word_ne : ∀ w ∈ words, w ≠ ""
  underscore : ∀ w ∈ words, '_' ∉ w.toList

namespace DictionaryTerm

def text (t : DictionaryTerm) : String := join "_" t.words

theorem text_ne (t : DictionaryTerm) : t.text ≠ "" := fun he => by
  have hsplit : splitAt '_' t.text = t.words := splitAt_join t.words_ne t.underscore
  rw [he] at hsplit
  exact t.word_ne "" (hsplit ▸ by decide) rfl

variable {name : String}

theorem suffix_snake_iff (t : DictionaryTerm) (hname : IsPlainName name) :
    '_' :: t.text.toList <:+ '_' :: (snake name).toList ↔ t.words <:+ lowerWords name := by
  by_cases hwords : lowerWords name = []
  · have hsnake : snake name = "" := by rw [snake, hwords]; rfl
    have htext : t.text.toList ≠ [] := by simpa using t.text_ne
    simp [hsnake, hwords, t.words_ne, List.suffix_cons_iff, htext]
  · exact cons_join_suffix_iff hwords t.words_ne
      (fun w hw => underscore_not_mem_lowerWords hname hw) t.underscore

end DictionaryTerm

/-- A name is called by a term just when the words of the term are the last words of the name in lower
case. So its spelling does not count, and a word counts only as a whole. -/
theorem matchesTerm_iff {name : String} (hname : IsPlainName name) (terms : List DictionaryTerm) :
    (matchesTerm name (terms.map (·.text)) = true ↔ ∃ t ∈ terms, t.words <:+ lowerWords name) ∧
    (∀ other, lowerWords other = lowerWords name →
      matchesTerm other (terms.map (·.text)) = matchesTerm name (terms.map (·.text))) ∧
    ((∀ t ∈ terms, ∃ w ∈ t.words, w ∉ lowerWords name) →
      matchesTerm name (terms.map (·.text)) = false) := by
  have hiff : matchesTerm name (terms.map (·.text)) = true ↔
      ∃ t ∈ terms, t.words <:+ lowerWords name := by
    simp only [matchesTerm, isCalled_iff, List.mem_map, exists_exists_and_eq_and,
      DictionaryTerm.suffix_snake_iff _ hname]
  refine ⟨hiff, fun other hother => ?_, fun hwords => ?_⟩
  · rw [matchesTerm, matchesTerm, snake, snake, hother]
  · rw [← Bool.not_eq_true, hiff]
    rintro ⟨t, ht, hsuffix⟩
    obtain ⟨w, hw, hnot⟩ := hwords t ht
    exact hnot (hsuffix.subset hw)

theorem matchesTerm_national : matchesTerm "UserNationalID" ["email", "national_id"] = true ∧
    matchesTerm "Nickname" ["name"] = false := by
  let email : DictionaryTerm := ⟨["email"], by decide, by decide, by decide⟩
  let nationalId : DictionaryTerm := ⟨["national", "id"], by decide, by decide, by decide⟩
  let ownName : DictionaryTerm := ⟨["name"], by decide, by decide, by decide⟩
  have hlast : nationalId.words <:+ lowerWords "UserNationalID" := ⟨["user"], by decide +kernel⟩
  refine ⟨(matchesTerm_iff (by decide) [email, nationalId]).1.2 ⟨nationalId, by simp, hlast⟩,
    (matchesTerm_iff (by decide) [ownName]).2.2 fun t ht => ⟨"name", ?_, by decide +kernel⟩⟩
  obtain rfl := List.mem_singleton.1 ht
  exact List.mem_cons_self

end GoScaffold
