import GoScaffold.Proofs.Naming.Words

/-!
# Where the words of a name stand

A name consists of its words and of separators in front of, between and behind them. Two words touch
only where a capital follows a small letter or a digit, and no word goes on over such a place. The
words are told by this alone: however a name is cut that way, the pieces are its words.
-/
namespace GoScaffold.Naming

open GoScaffold.Text

/-- White space, an underscore or a hyphen. -/
def Separates (c : Char) : Prop := isBlank c = true ∨ c = '_' ∨ c = '-'

instance : DecidablePred Separates := fun _ => inferInstanceAs (Decidable (_ ∨ _))

/-- An ASCII capital behind a small ASCII letter or a digit. -/
def IsCaseBoundary (c d : Char) : Prop :=
  (('a' ≤ c ∧ c ≤ 'z') ∨ ('0' ≤ c ∧ c ≤ '9')) ∧ 'A' ≤ d ∧ d ≤ 'Z'

theorem isSeparator_iff {c : Char} : isSeparator c = true ↔ Separates c := by
  simp [isSeparator, Separates, or_assoc]

theorem isSeparator_eq_false_iff {c : Char} : isSeparator c = false ↔ ¬ Separates c := by
  rw [← isSeparator_iff, Bool.not_eq_true]

theorem startsWord_iff {c d : Char} : startsWord c d = true ↔ IsCaseBoundary c d := by
  simp [startsWord, IsCaseBoundary, Char.isLower, Char.isDigit, Char.isUpper, Char.le_def]

theorem startsWord_eq_false_iff {c d : Char} : startsWord c d = false ↔ ¬ IsCaseBoundary c d := by
  rw [← startsWord_iff, Bool.not_eq_true]

/-- A word and the separators up to the next one. -/
structure Segment where
  word : List Char
  gap : List Char
  ne_nil : word ≠ []
  kept : ∀ c ∈ word, ¬ Separates c
  closed : word.IsChain fun c d => ¬ IsCaseBoundary c d
  separated : ∀ c ∈ gap, Separates c

namespace Segment

def text (s : Segment) : List Char := s.word ++ s.gap

/-- The second word may stand behind the segment: if it touches the first one, then at a boundary. -/
def Precedes (s t : Segment) : Prop :=
  s.gap = [] → ∃ c ∈ s.word.getLast?, ∃ d ∈ t.word.head?, IsCaseBoundary c d

theorem isOneWord (s : Segment) : IsOneWord s.word where
  kept c hc := isSeparator_eq_false_iff.2 (s.kept c hc)
  closed := s.closed.imp fun _ _ => startsWord_eq_false_iff.2
  ne_nil := s.ne_nil

theorem Precedes.isSeam {s t : Segment} (h : s.Precedes t) (hgap : s.gap = []) :
    IsSeam s.word t.word := by
  simpa only [IsSeam, startsWord_iff] using h hgap

/-- The word with one more character in front. -/
def grow {c : Char} (hc : ¬ Separates c) (s : Segment)
    (h : ∀ d ∈ s.word.head?, ¬ IsCaseBoundary c d) : Segment :=
  { s with
    word := c :: s.word
    ne_nil := List.cons_ne_nil c s.word
    kept := List.forall_mem_cons.2 ⟨hc, s.kept⟩
    closed := s.closed.cons h }

theorem Precedes.grow {c : Char} {s t : Segment} (hst : s.Precedes t) (hc : ¬ Separates c)
    (h : ∀ d ∈ s.word.head?, ¬ IsCaseBoundary c d) : (s.grow hc h).Precedes t := fun hgap => by
  obtain ⟨d, w, hw⟩ := List.exists_cons_of_ne_nil s.ne_nil
  have hlast : (s.grow hc h).word.getLast? = s.word.getLast? := by simp [Segment.grow, hw]
  rw [hlast]
  exact hst hgap

end Segment

theorem wordsOf_separators_append {front : List Char} (hfront : ∀ c ∈ front, Separates c)
    (cs : List Char) : wordsOf (front ++ cs) = wordsOf cs := by
  induction front with
  | nil => rfl
  | cons c front ih =>
    obtain ⟨hc, hfront⟩ := List.forall_mem_cons.1 hfront
    rw [← ih hfront]
    simp [wordsOf, stretches, isSeparator_iff.2 hc]

/-- Segments one behind the other are cut at their ends and nowhere else. -/
theorem wordsOf_flatMap_text {segments : List Segment} (h : segments.IsChain Segment.Precedes) :
    wordsOf (segments.flatMap Segment.text) = segments.map Segment.word := by
  induction segments with
  | nil => rfl
  | cons s segments ih =>
    have ih := ih h.tail
    rw [List.flatMap_cons, Segment.text, List.append_assoc, List.map_cons, ← ih]
    cases hgap : s.gap with
    | cons c gap =>
      obtain ⟨hc, hgap⟩ := List.forall_mem_cons.1 (hgap ▸ s.separated)
      rw [List.cons_append, wordsOf_append_separator s.isOneWord (isSeparator_iff.2 hc),
        wordsOf_separators_append hgap]
    | nil =>
      rw [List.nil_append]
      cases segments with
      | nil => simpa [wordsOf, stretches] using wordsOf_of_isOneWord s.isOneWord
      | cons t segments =>
        have hseam := (List.isChain_cons_cons.1 h).1.isSeam hgap
        rw [List.flatMap_cons, Segment.text, List.append_assoc]
        refine wordsOf_append_seam s.isOneWord ((isSeam_append t.ne_nil _).2 hseam) fun c hc => ?_
        rw [List.head?_append_of_ne_nil _ t.ne_nil] at hc
        exact t.isOneWord.kept c (List.mem_of_mem_head? hc)

/-- A text as separators and segments. -/
structure Segmentation (cs : List Char) where
  front : List Char
  segments : List Segment
  separated : ∀ c ∈ front, Separates c
  ordered : segments.IsChain Segment.Precedes
  text_eq : front ++ segments.flatMap Segment.text = cs

namespace Segmentation

variable {c : Char} {cs : List Char}

def words (s : Segmentation cs) : List String := s.segments.map fun t => .ofList t.word

theorem words_eq (s : Segmentation cs) : s.words = (wordsOf cs).map .ofList := by
  conv_rhs => rw [← s.text_eq, wordsOf_separators_append s.separated, wordsOf_flatMap_text s.ordered,
    List.map_map]
  rfl

def skip (hc : Separates c) (s : Segmentation cs) : Segmentation (c :: cs) where
  front := c :: s.front
  segments := s.segments
  separated := List.forall_mem_cons.2 ⟨hc, s.separated⟩
  ordered := s.ordered
  text_eq := by rw [List.cons_append, s.text_eq]

def start (hc : ¬ Separates c) (s : Segmentation cs)
    (h : s.front = [] → ∀ t ∈ s.segments.head?, ∃ d ∈ t.word.head?, IsCaseBoundary c d) :
    Segmentation (c :: cs) where
  front := []
  segments := ⟨[c], s.front, by simp, by simpa using hc, .singleton c, s.separated⟩ :: s.segments
  separated := by simp
  ordered := s.ordered.cons fun t ht hfront => ⟨c, rfl, h hfront t ht⟩
  text_eq := by
    conv_rhs => rw [← s.text_eq]
    simp [Segment.text]

def extend (hc : ¬ Separates c) (s : Segmentation cs) (hfront : s.front = []) {t : Segment}
    {ts : List Segment} (hs : s.segments = t :: ts)
    (h : ∀ d ∈ t.word.head?, ¬ IsCaseBoundary c d) : Segmentation (c :: cs) where
  front := []
  segments := t.grow hc h :: ts
  separated := by simp
  ordered := (hs ▸ s.ordered).tail.cons fun u hu =>
    ((List.isChain_cons.1 (hs ▸ s.ordered)).1 u hu).grow hc h
  text_eq := by
    conv_rhs => rw [← s.text_eq, hfront, hs]
    simp [Segment.text, Segment.grow]

/-- Every text can be cut so: a character in front of it is a separator, a word of its own or the
start of the first word. -/
theorem exists_segmentation (cs : List Char) : Nonempty (Segmentation cs) := by
  induction cs with
  | nil => exact ⟨⟨[], [], by simp, .nil, rfl⟩⟩
  | cons c cs ih =>
    obtain ⟨s⟩ := ih
    by_cases hc : Separates c
    · exact ⟨s.skip hc⟩
    · by_cases hstart : s.front = [] →
          ∀ t ∈ s.segments.head?, ∃ d ∈ t.word.head?, IsCaseBoundary c d
      · exact ⟨s.start hc hstart⟩
      · push Not at hstart
        obtain ⟨hfront, t, ht, hinside⟩ := hstart
        obtain ⟨ts, hs⟩ := List.head?_eq_some_iff.1 ht
        exact ⟨s.extend hc hfront hs hinside⟩

end Segmentation

theorem concat_words (name : String) :
    concat (words name) = .ofList (name.toList.filter fun c => ¬ Separates c) := by
  have hkept : (name.toList.filter fun c => !isSeparator c) =
      name.toList.filter fun c => ¬ Separates c :=
    List.filter_congr fun c _ => by simp [← isSeparator_iff]
  rw [← hkept, ← flatten_wordsOf, ← String.toList_inj]
  simp [words, toList_concat, Function.comp_def]

theorem isOneWord_of_mem_words {name w : String} (hw : w ∈ words name) : IsOneWord w.toList := by
  obtain ⟨cs, hcs, rfl⟩ := List.mem_map.1 hw
  rw [String.toList_ofList]
  exact isOneWord_of_mem_wordsOf hcs

theorem IsUnbroken.not_isCaseBoundary {cs : List Char} (h : IsUnbroken cs) {c d : Char}
    (hpair : [c, d] <:+: cs) : ¬ IsCaseBoundary c d := by
  have hclosed := h.closed.infix hpair
  rw [List.isChain_pair] at hclosed
  exact startsWord_eq_false_iff.1 hclosed

/-- The words of a name are all of it but the separators, are broken nowhere, and lie in it with
separators or a boundary between neighbours; and nothing else lies in it that way. -/
theorem words_segmented (name : String) :
    concat (words name) = .ofList (name.toList.filter fun c => ¬ Separates c) ∧
      (∀ w ∈ words name, w ≠ "" ∧ (∀ c ∈ w.toList, ¬ Separates c) ∧
        ∀ c d, [c, d] <:+: w.toList → ¬ IsCaseBoundary c d) ∧
      Nonempty (Segmentation name.toList) ∧
      ∀ s : Segmentation name.toList, s.words = words name := by
  refine ⟨concat_words name, fun w hw => ?_, Segmentation.exists_segmentation _,
    Segmentation.words_eq⟩
  have hword := isOneWord_of_mem_words hw
  refine ⟨fun hempty => hword.ne_nil ?_, fun c hc => ?_, fun c d => hword.not_isCaseBoundary⟩
  · rw [hempty, String.toList_empty]
  · exact isSeparator_eq_false_iff.1 (hword.kept c hc)

example : words " userID-no2Go_" = ["user", "ID", "no2", "Go"] := by decide

end GoScaffold.Naming
