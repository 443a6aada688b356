import GoScaffold.Proofs.Entity.Described
import GoScaffold.Proofs.GoSource.Reference
import GoScaffold.Proofs.Text.Characters

/-!
# Source known in outline

Generated lines are fixed texts around names that differ from entity to entity. An outline keeps the
fixed characters and says of the rest only what kind of text it is. That is enough to tell what such
lines refer to, and one computation on an outline settles it for all texts that the outline fits.
-/
namespace GoScaffold

open GoScaffold.Text GoScaffold.Naming GoScaffold.Template

/-- The kinds of text that an outline leaves open. -/
inductive Gap where
  | word
  | letter
  | phrase
  | tag
  deriving Repr, DecidableEq

/-- What can end a literal or a comment, and what can start an escape. -/
def literalEnds : List Char := ['"', '\\', '\x60', '\n']

/-- A word starts with a letter, a phrase ends no literal, and a tag no raw one. -/
def Gap.Admits : Gap → List Char → Prop
  | .word, cs => (∀ c ∈ cs, c.isAlphanum = true) ∧ ∃ c rest, cs = c :: rest ∧ c.isAlpha = true
  | .letter, cs => ∃ c, cs = [c] ∧ c.isAlpha = true
  | .phrase, cs => ∀ c ∈ literalEnds, c ∉ cs
  | .tag, cs => ∀ c ∈ ['\x60', '\n'], c ∉ cs

inductive Symbol where
  | char (c : Char)
  | gap (g : Gap)
  deriving Repr, DecidableEq

def Symbol.Admits : Symbol → List Char → Prop
  | .char c, cs => cs = [c]
  | .gap g, cs => g.Admits cs

abbrev Outline := List Symbol

/-- The text consists of what the symbols admit, one after another. -/
def Outline.Fits (o : Outline) (cs : List Char) : Prop :=
  ∃ parts, List.Forall₂ Symbol.Admits o parts ∧ parts.flatten = cs

def Outline.exact (s : String) : Outline := (characters s).map .char

namespace Outline

variable {o p : Outline} {cs ds : List Char}

theorem Fits.append (h : o.Fits cs) (h' : p.Fits ds) : Fits (o ++ p) (cs ++ ds) := by
  obtain ⟨parts, hparts, rfl⟩ := h
  obtain ⟨parts', hparts', rfl⟩ := h'
  exact ⟨parts ++ parts', List.rel_append hparts hparts', List.flatten_append⟩

theorem Fits.of_append (h : Fits (o ++ p) cs) : ∃ as bs, as ++ bs = cs ∧ o.Fits as ∧ p.Fits bs := by
  obtain ⟨parts, hparts, rfl⟩ := h
  have htake := List.forall₂_take o.length hparts
  have hdrop := List.forall₂_drop o.length hparts
  rw [List.take_left] at htake
  rw [List.drop_left] at hdrop
  refine ⟨_, _, ?_, ⟨_, htake, rfl⟩, ⟨_, hdrop, rfl⟩⟩
  rw [← List.flatten_append, List.take_append_drop]

theorem fits_gap {g : Gap} (h : g.Admits cs) : Fits [.gap g] cs :=
  ⟨[cs], .cons h .nil, by simp⟩

theorem fits_exact (s : String) : (exact s).Fits s.toList := by
  refine ⟨s.toList.map ([·]), ?_, by simp [← List.flatMap_def]⟩
  rw [exact, characters_eq, List.forall₂_map_left_iff, List.forall₂_map_right_iff, List.forall₂_same]
  exact fun c _ => rfl

end Outline

class Outlined (s : String) (o : outParam Outline) : Prop where
  fits : o.Fits s.toList

instance outlined_append (s t : String) (o p : Outline) [hs : Outlined s o] [ht : Outlined t p] :
    Outlined (s ++ t) (o ++ p) where
  fits := by
    rw [String.toList_append]
    exact hs.fits.append ht.fits

instance outlined_ite (p : Prop) [Decidable p] (s t : String) (o q : Outline) [hs : Outlined s o]
    [ht : Outlined t q] : Outlined (if p then s else t) (if p then o else q) where
  fits := by
    split
    · exact hs.fits
    · exact ht.fits

/-- What is not known to be of a kind is kept as it is. -/
instance (priority := low) outlined_exact (s : String) : Outlined s (.exact s) where
  fits := Outline.fits_exact s

theorem Outlined.word {s : String} (h : IsWord s)
    (hs : ∃ c rest, s.toList = c :: rest ∧ c.isAlpha = true) : Outlined s [.gap .word] where
  fits := Outline.fits_gap ⟨h, hs⟩

theorem Outlined.phrase {s : String} (h : Lacks literalEnds s) : Outlined s [.gap .phrase] where
  fits := Outline.fits_gap h

theorem Outlined.tag {s : String} (h : Lacks ['\x60', '\n'] s) : Outlined s [.gap .tag] where
  fits := Outline.fits_gap h

theorem Outlined.admits {s : String} {g : Gap} (h : Outlined s [.gap g]) : g.Admits s.toList := by
  obtain ⟨parts, hparts, hs⟩ := h.fits
  cases hparts with
  | cons hpart hrest =>
    cases hrest
    rw [← hs, List.flatten_cons, List.flatten_nil, List.append_nil]
    exact hpart

class OutlinedLines (ls : List String) (os : outParam (List Outline)) : Prop where
  fits : List.Forall₂ (fun l o => Outline.Fits o l.toList) ls os

instance outlinedLines_nil : OutlinedLines [] [] where
  fits := .nil

instance outlinedLines_cons (l : String) (ls : List String) (o : Outline) (os : List Outline)
    [hl : Outlined l o] [hls : OutlinedLines ls os] : OutlinedLines (l :: ls) (o :: os) where
  fits := .cons hl.fits hls.fits

/-- What is known of the mode of a reader: all of it; that it is in a word of code behind so many
dots; or that it is in a word of one letter, or behind the dot after such a word. -/
inductive View where
  | known (m : Mode)
  | word (dots : Nat)
  | letter
  | qualifier
  deriving Repr, DecidableEq

namespace View

def Holds : View → Mode → Prop
  | .known m, m' => m' = m
  | .word dots, m' => ∃ read, read ≠ [] ∧ m' = .code dots read
  | .letter, m' => ∃ c, c.isAlpha = true ∧ m' = .code 0 [c]
  | .qualifier, m' => ∃ c, m' = .qualifier [c]

/-- The view behind a character, unless a dot would make a name of a word that is not known. -/
def nextChar? : View → Char → Option View
  | .known m, c => some (.known (m.next c))
  | .word dots, c =>
    if c = '.' then if dots = 1 then some (.known (.code 1 [])) else none
    else some (if continuesName c then .word dots else .known (.inCode 0 [] c))
  | .letter, c =>
    some (if c = '.' then .qualifier
      else if continuesName c then .word 0 else .known (.inCode 0 [] c))
  | .qualifier, c => some (.known (.inCode 1 [] c))

/-- The view behind a gap, where such a text may stand: in a literal or comment it ends neither. -/
def behindGap? (g : Gap) : Mode → Option View
  | .code dots read =>
    if g = .word then some (.word dots)
    else if g = .letter ∧ dots = 0 ∧ read = [] then some .letter else none
  | .qualifier _ => if g = .word then some (.word 1) else none
  | .quoted q =>
    if q = '\x60' ∧ g ≠ .letter ∨ q = '"' ∧ (g = .word ∨ g = .phrase) then
      some (.known (.quoted q)) else none
  | .comment => if g = .word ∨ g = .phrase then some (.known .comment) else none
  | .block _ => if g = .word then some (.known (.block false)) else none
  | .slash | .escaped _ => none

def nextGap? (v : View) (g : Gap) : Option View :=
  match v with
  | .known m => behindGap? g m
  | .word dots => if g = .word then some (.word dots) else none
  | .letter => if g = .word then some (.word 0) else none
  | .qualifier => if g = .word then some (.word 1) else none

def next? (v : View) : Symbol → Option View
  | .char c => v.nextChar? c
  | .gap g => v.nextGap? g

/-- The name that turns out to qualify another one at a symbol. -/
def found? : View → Symbol → Option (List Char)
  | .known m, .char c => m.found? c
  | .known (.qualifier name), .gap _ => some name
  | _, _ => none

/-- The view behind an outline, and the names found on the way. -/
def read? : View → Outline → Option (View × List (List Char))
  | v, [] => some (v, [])
  | v, y :: o => do
    let v' ← v.next? y
    let (last, names) ← read? v' o
    return (last, (v.found? y).toList ++ names)

end View

/-- Two lists have the same names of more than one letter. -/
def SameNames (xs ys : List (List Char)) : Prop := ∀ name, 1 < name.length → (name ∈ xs ↔ name ∈ ys)

theorem continuesName_of_isAlphanum {c : Char} (h : c.isAlphanum = true) : continuesName c = true := by
  simp only [Char.isAlphanum, Bool.or_eq_true] at h
  simp only [continuesName, startsName, Bool.or_eq_true]
  exact h.imp_left fun h => Or.inl (Or.inl h)

theorem startsName_of_isAlpha {c : Char} (h : c.isAlpha = true) : startsName c = true := by
  simp [startsName, h]

namespace Mode

/-- Letters and digits are read as one word with what stands in front of them. -/
theorem after_word {cs : List Char} (h : ∀ c ∈ cs, c.isAlphanum = true) (dots : Nat)
    (word : List Char) : (code dots word).after cs = .code dots (word ++ cs) ∧
      (code dots word).found cs = [] := by
  induction cs generalizing word with
  | nil => exact ⟨by rw [List.append_nil]; rfl, rfl⟩
  | cons c cs ih =>
    have hnext : (code dots word).next c = .code dots (word ++ [c]) := by
      rw [next, inCode, if_pos (continuesName_of_isAlphanum (h c (by simp)))]
    obtain ⟨hafter, hfound⟩ := ih (fun d hd => h d (by simp [hd])) (word ++ [c])
    exact ⟨by rw [after_cons, hnext, hafter, List.append_assoc, List.singleton_append],
      by rw [found, hnext, hfound]; rfl⟩

/-- Behind the dot after a word, a word is what that one qualifies. -/
theorem after_qualified {cs : List Char} (h : Gap.word.Admits cs) (name : List Char) :
    (qualifier name).after cs = .code 1 cs ∧ (qualifier name).found cs = [name] := by
  obtain ⟨hcs, c, rest, rfl, hc⟩ := h
  have hnext : (qualifier name).next c = .code 1 [c] := by
    rw [next, inCode, if_pos (continuesName_of_isAlphanum (hcs c (by simp)))]
    rfl
  obtain ⟨hafter, hfound⟩ := after_word (fun d hd => hcs d (List.mem_cons_of_mem c hd)) 1 [c]
  refine ⟨by rw [after_cons, hnext, hafter]; rfl, ?_⟩
  rw [found, hnext, hfound, found?, if_pos (startsName_of_isAlpha hc)]
  rfl

theorem after_of_stays {m : Mode} {cs : List Char} (h : ∀ c ∈ cs, m.next c = m)
    (hm : ∀ c, m.found? c = none) : m.after cs = m ∧ m.found cs = [] := by
  induction cs with
  | nil => exact ⟨rfl, rfl⟩
  | cons c cs ih =>
    obtain ⟨hafter, hfound⟩ := ih fun d hd => h d (by simp [hd])
    have hnext := h c (by simp)
    exact ⟨by rw [after_cons, hnext, hafter], by rw [found, hnext, hfound, hm]; rfl⟩

theorem after_quoted {q : Char} {cs : List Char} (hq : q ∉ cs) (hback : q = '\x60' ∨ '\\' ∉ cs) :
    (quoted q).after cs = .quoted q ∧ (quoted q).found cs = [] := by
  refine after_of_stays (fun c hc => ?_) fun c => rfl
  have hne : c ≠ q := fun he => hq (he ▸ hc)
  have hescape : ¬ (c = '\\' ∧ q ≠ '\x60') := fun ⟨he, hraw⟩ =>
    hback.elim hraw fun hback => hback (he ▸ hc)
  rw [next, if_neg hne, if_neg hescape]

theorem after_comment {cs : List Char} (h : '\n' ∉ cs) :
    comment.after cs = .comment ∧ comment.found cs = [] := by
  refine after_of_stays (fun c hc => ?_) fun c => rfl
  have hne : c ≠ '\n' := fun he => h (he ▸ hc)
  rw [next, if_neg hne]

/-- A word closes no block comment, not even behind a star. -/
theorem after_block {cs : List Char} (h : Gap.word.Admits cs) (star : Bool) :
    (block star).after cs = .block false ∧ (block star).found cs = [] := by
  obtain ⟨hcs, c, rest, rfl, -⟩ := h
  have hnext (star : Bool) : ∀ d ∈ c :: rest, (block star).next d = .block false := by
    intro d hd
    have hslash : d ≠ '/' := fun he => absurd (hcs d hd) (by rw [he]; decide)
    have hstar : d ≠ '*' := fun he => absurd (hcs d hd) (by rw [he]; decide)
    simp [next, hslash, hstar]
  obtain ⟨hafter, hfound⟩ :=
    after_of_stays (m := .block false) (fun d hd => hnext false d (List.mem_cons_of_mem c hd)) fun _ => rfl
  rw [after_cons, found, hnext star c List.mem_cons_self]
  exact ⟨hafter, by rw [hfound]; rfl⟩

end Mode

theorem Gap.Admits.ne_nil {cs : List Char} (h : Gap.word.Admits cs) : cs ≠ [] := by
  obtain ⟨-, c, rest, rfl, -⟩ := h
  simp

theorem Gap.Admits.phrase_of_word {cs : List Char} (h : Gap.word.Admits cs) : Gap.phrase.Admits cs := by
  intro c hc hmem
  have halnum := h.1 c hmem
  revert halnum
  simp only [literalEnds, List.mem_cons, List.not_mem_nil, or_false] at hc
  rcases hc with rfl | rfl | rfl | rfl <;> decide

namespace View

variable {v v' : View} {m : Mode} {cs : List Char}

theorem nextChar_sound (hm : v.Holds m) {c : Char} (h : v.nextChar? c = some v') :
    v'.Holds (m.next c) ∧ SameNames (m.found? c).toList (v.found? (.char c)).toList := by
  cases v with
  | known n =>
    cases hm
    cases h
    exact ⟨rfl, fun _ _ => Iff.rfl⟩
  | word dots =>
    obtain ⟨read, hread, rfl⟩ := hm
    rw [nextChar?] at h
    split_ifs at h with hdot hone hname
    · cases h
      subst hdot hone
      refine ⟨?_, fun _ _ => Iff.rfl⟩
      simp [Holds, Mode.next, Mode.inCode, hread, (by decide : continuesName '.' = false)]
    · cases h
      exact ⟨⟨read ++ [c], by simp, by rw [Mode.next, Mode.inCode, if_pos hname]⟩, fun _ _ => Iff.rfl⟩
    · cases h
      refine ⟨?_, fun _ _ => Iff.rfl⟩
      simp only [Holds, Mode.next, Mode.inCode, if_neg hname, if_neg hdot]
  | letter =>
    obtain ⟨d, hd, rfl⟩ := hm
    rw [nextChar?] at h
    cases h
    refine ⟨?_, fun _ _ => Iff.rfl⟩
    split_ifs with hdot hname
    · subst hdot
      have hstop : continuesName '.' = false := by decide
      exact ⟨d, by simp [Mode.next, Mode.inCode, startsName_of_isAlpha hd, hstop]⟩
    · exact ⟨[d, c], by simp, by rw [Mode.next, Mode.inCode, if_pos hname]; rfl⟩
    · simp only [Holds, Mode.next, Mode.inCode, if_neg hname, if_neg hdot]
  | qualifier =>
    obtain ⟨d, rfl⟩ := hm
    cases h
    refine ⟨rfl, fun name hname => ?_⟩
    simp only [Mode.found?, found?]
    split
    · simp only [Option.toList_some, List.mem_singleton, Option.toList_none, List.not_mem_nil, iff_false]
      rintro rfl
      simp at hname
    · rfl

theorem behindGap_sound {g : Gap} (h : behindGap? g m = some v') (hcs : g.Admits cs) :
    v'.Holds (m.after cs) ∧ m.found cs = ((known m).found? (.gap g)).toList := by
  cases m with
  | code dots word =>
    rw [behindGap?] at h
    split_ifs at h with hg hletter <;> cases h
    · subst hg
      obtain ⟨hafter, hfound⟩ := Mode.after_word hcs.1 dots word
      exact ⟨⟨word ++ cs, by simp [hcs.ne_nil], hafter⟩, by rw [hfound]; rfl⟩
    · obtain ⟨rfl, rfl, rfl⟩ := hletter
      obtain ⟨c, rfl, hc⟩ := hcs
      have halnum : ∀ d ∈ [c], d.isAlphanum = true := by simp [Char.isAlphanum, hc]
      obtain ⟨hafter, hfound⟩ := Mode.after_word halnum 0 []
      exact ⟨⟨c, hc, hafter⟩, hfound⟩
  | qualifier name =>
    rw [behindGap?] at h
    split_ifs at h with hg
    cases h
    subst hg
    obtain ⟨hafter, hfound⟩ := Mode.after_qualified hcs name
    exact ⟨⟨cs, hcs.ne_nil, hafter⟩, hfound⟩
  | quoted q =>
    rw [behindGap?] at h
    split_ifs at h with hg
    cases h
    have hphrase (hg : g = .word ∨ g = .phrase) : Gap.phrase.Admits cs := by
      rcases hg with rfl | rfl
      · exact hcs.phrase_of_word
      · exact hcs
    rcases hg with ⟨rfl, hg⟩ | ⟨rfl, hg⟩
    · refine Mode.after_quoted ?_ (Or.inl rfl)
      cases g with
      | word => exact hphrase (Or.inl rfl) _ (by decide)
      | phrase => exact hcs _ (by decide)
      | tag => exact hcs _ (by simp)
      | letter => exact absurd rfl hg
    · exact Mode.after_quoted (hphrase hg _ (by decide)) (Or.inr (hphrase hg _ (by decide)))
  | comment =>
    rw [behindGap?] at h
    split_ifs at h with hg
    cases h
    refine Mode.after_comment ?_
    rcases hg with rfl | rfl
    · exact hcs.phrase_of_word '\n' (by decide)
    · exact hcs '\n' (by decide)
  | block star =>
    rw [behindGap?] at h
    split_ifs at h with hg
    cases h
    subst hg
    exact Mode.after_block hcs star
  | slash | escaped => cases h

theorem nextGap_sound (hm : v.Holds m) {g : Gap} (h : v.nextGap? g = some v') (hcs : g.Admits cs) :
    v'.Holds (m.after cs) ∧ SameNames (m.found cs) (v.found? (.gap g)).toList := by
  cases v with
  | known n =>
    cases hm
    obtain ⟨hholds, hfound⟩ := behindGap_sound h hcs
    exact ⟨hholds, fun name _ => by rw [hfound]⟩
  | word dots =>
    rw [nextGap?] at h
    split_ifs at h with hg
    cases h
    subst hg
    obtain ⟨read, hread, rfl⟩ := hm
    obtain ⟨hafter, hfound⟩ := Mode.after_word hcs.1 dots read
    exact ⟨⟨read ++ cs, by simp [hread], hafter⟩, fun name _ => by rw [hfound]; rfl⟩
  | letter =>
    rw [nextGap?] at h
    split_ifs at h with hg
    cases h
    subst hg
    obtain ⟨c, -, rfl⟩ := hm
    obtain ⟨hafter, hfound⟩ := Mode.after_word hcs.1 0 [c]
    exact ⟨⟨[c] ++ cs, by simp, hafter⟩, fun name _ => by rw [hfound]; rfl⟩
  | qualifier =>
    rw [nextGap?] at h
    split_ifs at h with hg
    cases h
    subst hg
    obtain ⟨c, rfl⟩ := hm
    obtain ⟨hafter, hfound⟩ := Mode.after_qualified hcs [c]
    refine ⟨⟨cs, hcs.ne_nil, hafter⟩, fun name hname => ?_⟩
    rw [hfound]
    refine iff_of_false (fun hmem => ?_) List.not_mem_nil
    rw [List.mem_singleton.1 hmem] at hname
    exact absurd hname (by simp)

theorem next_sound (hm : v.Holds m) {y : Symbol} (h : v.next? y = some v') (hcs : y.Admits cs) :
    v'.Holds (m.after cs) ∧ SameNames (m.found cs) (v.found? y).toList := by
  cases y with
  | char c =>
    obtain rfl : cs = [c] := hcs
    obtain ⟨hholds, hnames⟩ := nextChar_sound hm h
    refine ⟨hholds, ?_⟩
    rwa [Mode.found, Mode.found, List.append_nil]
  | gap g => exact nextGap_sound hm h hcs

/-- Whatever the gaps of an outline are filled with, the reader ends as its view does, and finds the
same names. -/
theorem read_sound {o : Outline} {names : List (List Char)} (hm : v.Holds m)
    (h : v.read? o = some (v', names)) (hcs : o.Fits cs) :
    v'.Holds (m.after cs) ∧ SameNames (m.found cs) names := by
  induction o generalizing v m cs names with
  | nil =>
    obtain ⟨parts, hparts, rfl⟩ := hcs
    cases hparts
    cases h
    exact ⟨hm, fun _ _ => Iff.rfl⟩
  | cons y o ih =>
    obtain ⟨parts, hparts, rfl⟩ := hcs
    cases hparts with
    | @cons _ part _ parts hpart hparts =>
      rw [read?] at h
      obtain ⟨w, hw, h⟩ := Option.bind_eq_some_iff.1 h
      obtain ⟨⟨last, more⟩, hmore, h⟩ := Option.bind_eq_some_iff.1 h
      cases h
      obtain ⟨hholds, hnames⟩ := next_sound hm hw hpart
      obtain ⟨hlast, hrest⟩ := ih hholds hmore ⟨parts, hparts, rfl⟩
      rw [List.flatten_cons, Mode.after_append, Mode.found_append]
      refine ⟨hlast, fun name hname => ?_⟩
      rw [List.mem_append, List.mem_append, hnames name hname, hrest name hname]

end View

theorem Gap.Admits.newline_not_mem {g : Gap} {cs : List Char} (h : g.Admits cs) : '\n' ∉ cs := by
  cases g with
  | word => exact h.phrase_of_word _ (by decide)
  | letter =>
    obtain ⟨c, rfl, hc⟩ := h
    rw [List.mem_singleton]
    rintro rfl
    exact absurd hc (by decide)
  | phrase => exact h _ (by decide)
  | tag => exact h _ (by simp)

namespace Outline

theorem Fits.newline_not_mem {o : Outline} {cs : List Char} (h : o.Fits cs)
    (ho : .char '\n' ∉ o) : '\n' ∉ cs := by
  obtain ⟨parts, hparts, rfl⟩ := h
  induction hparts with
  | nil => simp
  | @cons y part o parts hpart _ ih =>
    simp only [List.mem_cons, not_or] at ho
    rw [List.flatten_cons, List.mem_append, not_or]
    refine ⟨?_, ih ho.2⟩
    cases y with
    | char c =>
      obtain rfl : part = [c] := hpart
      simpa using fun he : '\n' = c => ho.1 (congrArg _ he)
    | gap g => exact hpart.newline_not_mem

def startsPlain : Symbol → Bool
  | .char c => c != 'i'
  | .gap _ => false

/-- The line stays one, and does not start like an import. -/
def isPlain (o : Outline) : Bool := !o.contains (.char '\n') && o.head?.all startsPlain

theorem Fits.isPlainLine {o : Outline} {l : String} (h : o.Fits l.toList) (ho : o.isPlain = true) :
    IsPlainLine l := by
  rw [isPlain, Bool.and_eq_true] at ho
  refine ⟨h.newline_not_mem (by simpa using ho.1), fun himport => ?_⟩
  obtain ⟨parts, hparts, hl⟩ := h
  rw [← hl] at himport
  cases hparts with
  | nil => simp [importWord] at himport
  | @cons y part o parts hpart _ =>
    have hy : startsPlain y = true := ho.2
    cases y with
    | char c =>
      obtain rfl : part = [c] := hpart
      rw [List.flatten_cons, List.singleton_append, importWord, List.cons_prefix_cons] at himport
      simp [startsPlain, ← himport.1] at hy
    | gap g => cases hy

def ofLines (os : List Outline) : Outline := os.flatMap (· ++ [.char '\n'])

theorem fits_ofLines {ls : List String} {os : List Outline}
    (h : List.Forall₂ (fun l o => Fits o l.toList) ls os) : (ofLines os).Fits (textOf ls).toList := by
  induction h with
  | nil => exact ⟨[], .nil, rfl⟩
  | @cons l o ls os hl _ ih =>
    have hline : Fits [.char '\n'] ['\n'] := ⟨[['\n']], .cons rfl .nil, rfl⟩
    have htext : (textOf (l :: ls)).toList = (l.toList ++ ['\n']) ++ (textOf ls).toList := by
      simp [textOf, concat]
    rw [ofLines, List.flatMap_cons, htext]
    exact (hl.append hline).append ih

theorem exists_lines {os : List Outline} {cs : List Char} (h : (ofLines os).Fits cs) :
    ∃ ls, (textOf ls).toList = cs ∧ List.Forall₂ (fun l o => Fits o l.toList) ls os := by
  induction os generalizing cs with
  | nil =>
    obtain ⟨parts, hparts, rfl⟩ := h
    cases hparts
    exact ⟨[], rfl, .nil⟩
  | cons o os ih =>
    obtain ⟨line, below, rfl, hline, hbelow⟩ := h.of_append
    obtain ⟨l, newline, rfl, hl, hnewline⟩ := hline.of_append
    obtain ⟨ls, rfl, hls⟩ := ih hbelow
    obtain rfl : newline = ['\n'] := by
      obtain ⟨parts, hparts, rfl⟩ := hnewline
      cases hparts with
      | cons hpart hrest =>
        cases hrest
        rw [hpart]
        rfl
    refine ⟨.ofList l :: ls, by simp [textOf, concat], .cons (by simpa using hl) hls⟩

end Outline

/-- From a mode to a mode, the lines of the outlines refer to packages by certain names. -/
def View.scans (m : Mode) (os : List Outline) (names : List String) (m' : Mode) : Bool :=
  ((known m).read? (.ofLines os)).any fun (v, found) =>
    v == .known m' && packageNames.all fun name =>
      found.contains (characters name) == names.contains name

def View.reads (m : Mode) (os : List Outline) (names : List String) (m' : Mode) : Bool :=
  os.all Outline.isPlain && View.scans m os names m'

section Outlines

variable {m m' : Mode} {ls names : List String} {os : List Outline}

/-- What the outlines tell holds of the lines. No package is called by a single letter. -/
theorem scans_of_fits (hls : List.Forall₂ (fun l o => Outline.Fits o l.toList) ls os)
    (h : View.scans m os names m' = true) : Scans m ls names m' := by
  have hlong : ∀ name ∈ packageNames, 1 < name.toList.length := by decide
  obtain ⟨⟨v, found⟩, hread, hfound⟩ := (Option.any_eq_true _ _).1 h
  simp only [Bool.and_eq_true, beq_iff_eq, List.all_eq_true] at hfound
  obtain ⟨rfl, hfound⟩ := hfound
  have hm : (View.known m).Holds m := rfl
  obtain ⟨hafter, hsame⟩ := View.read_sound hm hread (Outline.fits_ofLines hls)
  refine ⟨hafter, fun name hname => ?_⟩
  rw [hsame _ (hlong name hname), ← List.contains_iff_mem, ← List.contains_iff_mem, ← characters_eq,
    hfound name hname]

theorem reads_of_fits (hls : List.Forall₂ (fun l o => Outline.Fits o l.toList) ls os)
    (h : View.reads m os names m' = true) : Reads m ls names m' := by
  rw [View.reads, Bool.and_eq_true, List.all_eq_true] at h
  refine ⟨scans_of_fits hls h.2, fun l hl => ?_⟩
  obtain ⟨o, ho, hfits⟩ := exists_of_forall₂ (List.Forall₂.flip hls) hl
  exact Outline.Fits.isPlainLine hfits (h.1 o ho)

theorem scans_of_outlines [hls : OutlinedLines ls os] (h : View.scans m os names m' = true) :
    Scans m ls names m' := scans_of_fits hls.fits h

theorem reads_of_outlines [hls : OutlinedLines ls os] (h : View.reads m os names m' = true) :
    Reads m ls names m' := reads_of_fits hls.fits h

end Outlines

end GoScaffold
