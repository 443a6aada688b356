import GoScaffold.Proofs.Naming.TypeName

/-!
# Words of a text

A text is cut at its separators and where a capital follows a small letter or a digit, and nowhere
else. So words that are put together with separators are the words of the result, and words that are
put together without are so as far as one starts at each seam.
-/
namespace GoScaffold.Naming

open GoScaffold.Text

/-- Neither a separator nor a place where a word starts. -/
structure IsUnbroken (cs : List Char) : Prop where
  kept : ∀ c ∈ cs, isSeparator c = false
  closed : cs.IsChain fun c d => startsWord c d = false

/-- A word starts with the second text where it follows the first one. -/
def IsSeam (u v : List Char) : Prop := ∃ c ∈ u.getLast?, ∃ d ∈ v.head?, startsWord c d = true

theorem isUnbroken_nil : IsUnbroken [] := ⟨by simp, .nil⟩

theorem not_isSeam_nil (u : List Char) : ¬ IsSeam u [] := fun ⟨_, _, _, hd, _⟩ => by simp at hd

theorem isSeam_cons_cons {c d : Char} {u v : List Char} : IsSeam (c :: d :: u) v ↔ IsSeam (d :: u) v := by
  rw [IsSeam, IsSeam, List.getLast?_cons_cons]

theorem isSeam_append {u v : List Char} (hv : v ≠ []) (rest : List Char) :
    IsSeam u (v ++ rest) ↔ IsSeam u v := by
  rw [IsSeam, IsSeam, List.head?_append_of_ne_nil v hv]

/-- Behind a stretch the text goes on with a new one just at a seam. -/
theorem stretches_append {w rest v : List Char} {vs : List (List Char)} (hw : IsUnbroken w)
    (hrest : stretches rest = v :: vs) :
    (IsSeam w v → stretches (w ++ rest) = w :: v :: vs) ∧
      (¬ IsSeam w v → stretches (w ++ rest) = (w ++ v) :: vs) := by
  induction w with
  | nil => exact ⟨fun ⟨_, hc, _⟩ => by simp at hc, fun _ => hrest⟩
  | cons c w ih =>
    obtain ⟨hc, hkept⟩ := List.forall_mem_cons.1 hw.kept
    have ih := ih ⟨hkept, hw.closed.tail⟩
    cases w with
    | nil =>
      have hseam : IsSeam [c] v ↔ ∃ d ∈ v.head?, startsWord c d = true := by simp [IsSeam]
      rw [hseam]
      cases v with
      | nil => simp [stretches, hc, hrest]
      | cons d v => simp +contextual [stretches, hc, hrest]
    | cons d w =>
      have hclosed : startsWord c d = false := (List.isChain_cons_cons.1 hw.closed).1
      rw [isSeam_cons_cons]
      refine ⟨fun hseam => ?_, fun hseam => ?_⟩
      · rw [List.cons_append, stretches, ih.1 hseam]
        simp [hc, hclosed]
      · rw [List.cons_append, stretches, ih.2 hseam]
        simp [hc, hclosed]

theorem stretches_of_isUnbroken {w : List Char} (hw : IsUnbroken w) : stretches w = [w] := by
  have hend : stretches [] = [[]] := rfl
  simpa using (stretches_append hw hend).2 (not_isSeam_nil w)

theorem isUnbroken_of_mem_stretches {cs w : List Char} (hw : w ∈ stretches cs) : IsUnbroken w := by
  induction cs generalizing w with
  | nil => exact List.mem_singleton.1 hw ▸ isUnbroken_nil
  | cons c cs ih =>
    by_cases hc : isSeparator c = true
    · simp only [stretches, hc, if_true, List.mem_cons] at hw
      rcases hw with rfl | hw
      · exact isUnbroken_nil
      · exact ih hw
    · have hkept : isSeparator c = false := by simpa using hc
      have hone : IsUnbroken [c] := ⟨by simpa using hkept, .singleton c⟩
      obtain ⟨v, vs, hvs⟩ := List.exists_cons_of_ne_nil (stretches_ne_nil cs)
      have hrest (u : List Char) (hu : u ∈ vs) : IsUnbroken u := ih (hvs ▸ List.mem_cons_of_mem v hu)
      have hfirst : IsUnbroken v := ih (hvs ▸ List.mem_cons_self)
      have hstretches := stretches_append hone hvs
      rw [List.singleton_append] at hstretches
      by_cases hseam : IsSeam [c] v
      · rw [hstretches.1 hseam, List.mem_cons, List.mem_cons] at hw
        rcases hw with rfl | rfl | hw
        · exact hone
        · exact hfirst
        · exact hrest w hw
      · rw [hstretches.2 hseam, List.mem_cons] at hw
        rcases hw with rfl | hw
        · refine ⟨by simpa [hkept] using hfirst.kept, hfirst.closed.cons fun d hd => ?_⟩
          rw [← Bool.not_eq_true]
          exact fun hstarts => hseam ⟨c, by simp, d, hd, hstarts⟩
        · exact hrest w hw

/-- A text that is one word. -/
structure IsOneWord (w : List Char) : Prop extends IsUnbroken w where
  ne_nil : w ≠ []

theorem isOneWord_of_mem_wordsOf {cs w : List Char} (hw : w ∈ wordsOf cs) : IsOneWord w := by
  obtain ⟨hstretch, hne⟩ := List.mem_filter.1 hw
  exact ⟨isUnbroken_of_mem_stretches hstretch, by simpa using hne⟩

theorem wordsOf_of_isOneWord {w : List Char} (hw : IsOneWord w) : wordsOf w = [w] := by
  rw [wordsOf, stretches_of_isUnbroken hw.toIsUnbroken]
  simp [hw.ne_nil]

/-- No word goes on behind a separator. -/
theorem wordsOf_append_separator {w : List Char} (hw : IsOneWord w) {c : Char}
    (hc : isSeparator c = true) (rest : List Char) : wordsOf (w ++ c :: rest) = w :: wordsOf rest := by
  have hrest : stretches (c :: rest) = [] :: stretches rest := by simp [stretches, hc]
  have happend := (stretches_append hw.toIsUnbroken hrest).2 (not_isSeam_nil w)
  rw [wordsOf, happend]
  simp [hw.ne_nil, wordsOf]

theorem exists_stretches {rest : List Char} (hne : rest ≠ [])
    (hkept : ∀ c ∈ rest.head?, isSeparator c = false) :
    ∃ v vs, stretches rest = v :: vs ∧ wordsOf rest = v :: vs.filter (!·.isEmpty) ∧
      v.head? = rest.head? := by
  obtain ⟨c, cs, rfl⟩ := List.exists_cons_of_ne_nil hne
  obtain ⟨w, ws, hs⟩ := stretches_cons (hkept c rfl) cs
  exact ⟨c :: w, ws, hs, by simp [wordsOf, hs], rfl⟩

theorem wordsOf_append_seam {w rest : List Char} (hw : IsOneWord w) (hseam : IsSeam w rest)
    (hkept : ∀ c ∈ rest.head?, isSeparator c = false) : wordsOf (w ++ rest) = w :: wordsOf rest := by
  have hne : rest ≠ [] := fun he => not_isSeam_nil w (he ▸ hseam)
  obtain ⟨v, vs, hs, hwords, hhead⟩ := exists_stretches hne hkept
  have hseam : IsSeam w v := by rwa [IsSeam, hhead]
  rw [hwords, wordsOf, (stretches_append hw.toIsUnbroken hs).1 hseam]
  have hv : v ≠ [] := fun he => not_isSeam_nil w (he ▸ hseam)
  simp [hw.ne_nil, hv]

/-- Where no word starts at a seam, the word in front of it adds none. -/
theorem length_wordsOf_append {w rest : List Char} (hw : IsOneWord w) (hseam : ¬ IsSeam w rest)
    (hne : rest ≠ []) (hkept : ∀ c ∈ rest.head?, isSeparator c = false) :
    (wordsOf (w ++ rest)).length = (wordsOf rest).length := by
  obtain ⟨v, vs, hs, hwords, hhead⟩ := exists_stretches hne hkept
  have hseam : ¬ IsSeam w v := by rwa [IsSeam, hhead]
  rw [hwords, wordsOf, (stretches_append hw.toIsUnbroken hs).2 hseam]
  simp [hw.ne_nil]

section Together

variable {ws : List (List Char)}

theorem wordsOf_join {d : Char} (hd : isSeparator d = true) {ss : List String}
    (h : ∀ s ∈ ss, IsOneWord s.toList) :
    wordsOf (join (String.singleton d) ss).toList = ss.map String.toList := by
  induction ss with
  | nil => rfl
  | cons s ss ih =>
    obtain ⟨hs, hss⟩ := List.forall_mem_cons.1 h
    cases ss with
    | nil => rw [join, wordsOf_of_isOneWord hs]; rfl
    | cons t ss =>
      have hjoin : (join (String.singleton d) (s :: t :: ss)).toList =
          s.toList ++ d :: (join (String.singleton d) (t :: ss)).toList := by
        simp [join]
      rw [hjoin, wordsOf_append_separator hs hd, ih hss]
      rfl

theorem flatten_ne_nil (h : ∀ w ∈ ws, IsOneWord w) (hne : ws ≠ []) : ws.flatten ≠ [] := by
  obtain ⟨w, us, rfl⟩ := List.exists_cons_of_ne_nil hne
  simp [(h w (by simp)).ne_nil]

theorem head_flatten_kept (h : ∀ w ∈ ws, IsOneWord w) :
    ∀ c ∈ ws.flatten.head?, isSeparator c = false := fun c hc => by
  obtain ⟨w, hw, hmem⟩ := List.mem_flatten.1 (List.mem_of_mem_head? hc)
  exact (h w hw).kept c hmem

theorem isSeam_flatten {u v : List Char} (hv : IsOneWord v) (vs : List (List Char)) :
    IsSeam u (v :: vs).flatten ↔ IsSeam u v := by
  rw [List.flatten_cons, isSeam_append hv.ne_nil]

/-- Words with a seam between any two neighbours. -/
theorem wordsOf_flatten (h : ∀ w ∈ ws, IsOneWord w) (hseams : ws.IsChain IsSeam) :
    wordsOf ws.flatten = ws := by
  induction ws with
  | nil => rfl
  | cons w ws ih =>
    obtain ⟨hw, hws⟩ := List.forall_mem_cons.1 h
    cases ws with
    | nil => simpa using wordsOf_of_isOneWord hw
    | cons v ws =>
      obtain ⟨hseam, hseams⟩ := List.isChain_cons_cons.1 hseams
      have hfront : IsSeam w (v :: ws).flatten := (isSeam_flatten (hws v (by simp)) ws).2 hseam
      rw [List.flatten_cons, wordsOf_append_seam hw hfront (head_flatten_kept hws), ih hws hseams]

/-- Words without a seam somewhere grow together. -/
theorem length_wordsOf_flatten_lt (h : ∀ w ∈ ws, IsOneWord w) (hseams : ¬ ws.IsChain IsSeam) :
    (wordsOf ws.flatten).length < ws.length := by
  induction ws with
  | nil => exact absurd .nil hseams
  | cons w ws ih =>
    obtain ⟨hw, hws⟩ := List.forall_mem_cons.1 h
    have hkept := head_flatten_kept hws
    cases ws with
    | nil => exact absurd (.singleton w) hseams
    | cons v ws =>
      have hfront : IsSeam w (v :: ws).flatten ↔ IsSeam w v := isSeam_flatten (hws v (by simp)) ws
      rw [List.flatten_cons, List.length_cons]
      by_cases hseam : IsSeam w v
      · have hrest : ¬ (v :: ws).IsChain IsSeam := fun hrest =>
          hseams (List.isChain_cons_cons.2 ⟨hseam, hrest⟩)
        rw [wordsOf_append_seam hw (hfront.2 hseam) hkept, List.length_cons]
        exact Nat.succ_lt_succ (ih hws hrest)
      · rw [length_wordsOf_append hw (hfront.not.2 hseam) (flatten_ne_nil hws (by simp)) hkept]
        refine Nat.lt_succ_of_le ?_
        by_cases hrest : (v :: ws).IsChain IsSeam
        · rw [wordsOf_flatten hws hrest]
        · exact (ih hws hrest).le

end Together

end GoScaffold.Naming
