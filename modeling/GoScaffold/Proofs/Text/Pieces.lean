import GoScaffold.Text.Split
import Mathlib.Data.List.Basic

/-!
# Pieces of a text

Cutting at a character and joining with it undo each other on pieces that lack the character.
-/
namespace GoScaffold.Text

variable {d : Char}

section Pieces

attribute [local simp] piecesAt

theorem piecesAt_append {cs : List Char} (h : d ∉ cs) (rest : List Char) :
    piecesAt d (cs ++ d :: rest) = cs :: piecesAt d rest := by
  induction cs with
  | nil => simp
  | cons c cs ih =>
    simp only [List.mem_cons, not_or] at h
    rw [List.cons_append, piecesAt, if_neg (Ne.symm h.1), ih h.2]

theorem piecesAt_of_not_mem {cs : List Char} (h : d ∉ cs) : piecesAt d cs = [cs] := by
  induction cs with
  | nil => rfl
  | cons c cs ih =>
    simp only [List.mem_cons, not_or] at h
    rw [piecesAt, if_neg (Ne.symm h.1), ih h.2]

theorem piecesAt_ne_nil (d : Char) (cs : List Char) : piecesAt d cs ≠ [] := by
  cases cs with
  | nil => simp
  | cons c cs =>
    rw [piecesAt]
    split
    · simp
    · split <;> simp

theorem piecesAt_separated (cs rest : List Char) :
    piecesAt d (cs ++ d :: rest) = piecesAt d cs ++ piecesAt d rest := by
  induction cs with
  | nil => simp
  | cons c cs ih =>
    rw [List.cons_append, piecesAt, piecesAt, ih]
    split
    · rfl
    · obtain ⟨w, ws, hcs⟩ := List.exists_cons_of_ne_nil (piecesAt_ne_nil d cs)
      rw [hcs]
      rfl

theorem exists_piecesAt_append {ending : List Char} (h : d ∉ ending) (cs : List Char) :
    ∃ before last, piecesAt d (cs ++ ending) = before ++ [last ++ ending] := by
  induction cs with
  | nil => exact ⟨[], [], piecesAt_of_not_mem h⟩
  | cons c cs ih =>
    obtain ⟨before, last, hpieces⟩ := ih
    rw [List.cons_append, piecesAt, hpieces]
    split
    · exact ⟨[] :: before, last, rfl⟩
    · cases before with
      | nil => exact ⟨[], c :: last, rfl⟩
      | cons w before => exact ⟨(c :: w) :: before, last, rfl⟩

theorem exists_splitAt_append {ending : String} (h : d ∉ ending.toList) (s : String) :
    ∃ before last, splitAt d (s ++ ending) = before ++ [last ++ ending] := by
  obtain ⟨before, last, hpieces⟩ := exists_piecesAt_append h s.toList
  refine ⟨before.map .ofList, .ofList last, ?_⟩
  rw [splitAt, String.toList_append, hpieces]
  simp

/-- What stands behind a cut without another one is the last piece. -/
theorem exists_piecesAt_separated {ending : List Char} (h : d ∉ ending) (cs : List Char) :
    ∃ first before, piecesAt d (cs ++ d :: ending) = first :: (before ++ [ending]) := by
  induction cs with
  | nil => exact ⟨[], [], by rw [List.nil_append, piecesAt, if_pos rfl, piecesAt_of_not_mem h]; rfl⟩
  | cons c cs ih =>
    obtain ⟨first, before, hpieces⟩ := ih
    rw [List.cons_append, piecesAt, hpieces]
    split
    · exact ⟨[], first :: before, rfl⟩
    · exact ⟨c :: first, before, rfl⟩

end Pieces

theorem splitAt_join {ss : List String} (hne : ss ≠ []) (h : ∀ s ∈ ss, d ∉ s.toList) :
    splitAt d (join (String.singleton d) ss) = ss := by
  induction ss with
  | nil => exact absurd rfl hne
  | cons s rest ih =>
    have hs : d ∉ s.toList := h s (by simp)
    cases rest with
    | nil => simp [splitAt, join, piecesAt_of_not_mem hs]
    | cons t rest =>
      have ih := ih (by simp) fun u hu => h u (List.mem_cons_of_mem _ hu)
      simp only [splitAt] at ih
      simp [splitAt, join, piecesAt_append hs, ih]

theorem cutAt?_eq_some_iff {cs before after : List Char} :
    cutAt? d cs = some (before, after) ↔ cs = before ++ d :: after ∧ d ∉ before := by
  induction cs generalizing before with
  | nil => simp [cutAt?]
  | cons c cs ih =>
    by_cases hc : c = d
    · subst hc
      cases before with
      | nil => simp [cutAt?, eq_comm]
      | cons b before =>
        simp only [cutAt?, if_true, Option.some.injEq, Prod.mk.injEq, List.cons_append,
          List.cons.injEq, List.mem_cons, not_or]
        exact ⟨fun h => absurd h.1 (by simp), fun h => absurd h.1.1 h.2.1⟩
    · cases before with
      | nil => simp [cutAt?, hc]
      | cons b before =>
        have hcut : cutAt? d (c :: cs) = some (b :: before, after) ↔
            b = c ∧ cutAt? d cs = some (before, after) := by
          rw [cutAt?, if_neg hc, Option.map_eq_some_iff]
          constructor
          · rintro ⟨⟨x, y⟩, hp, he⟩
            simp only [Prod.mk.injEq, List.cons.injEq] at he
            obtain ⟨⟨rfl, rfl⟩, rfl⟩ := he
            exact ⟨rfl, hp⟩
          · rintro ⟨rfl, hp⟩
            exact ⟨_, hp, rfl⟩
        rw [hcut, ih]
        simp only [List.cons_append, List.cons.injEq, List.mem_cons, not_or]
        constructor
        · rintro ⟨rfl, rfl, hb⟩
          exact ⟨⟨rfl, rfl⟩, Ne.symm hc, hb⟩
        · rintro ⟨⟨rfl, rfl⟩, -, hb⟩
          exact ⟨rfl, rfl, hb⟩

theorem cutAt?_eq_none {cs : List Char} (h : d ∉ cs) : cutAt? d cs = none := by
  by_contra hsome
  obtain ⟨⟨before, after⟩, hcut⟩ := Option.ne_none_iff_exists'.1 hsome
  exact h ((cutAt?_eq_some_iff.1 hcut).1 ▸ by simp)

theorem mem_join {sep : String} {ss : List String} {c : Char} (hc : c ∈ (join sep ss).toList) :
    c ∈ sep.toList ∨ ∃ t ∈ ss, c ∈ t.toList := by
  induction ss with
  | nil => simp [join] at hc
  | cons t ss ih =>
    cases ss with
    | nil => exact Or.inr ⟨t, by simp, hc⟩
    | cons u ss =>
      simp only [join, String.toList_append, List.mem_append] at hc
      rcases hc with (hc | hc) | hc
      · exact Or.inr ⟨t, by simp, hc⟩
      · exact Or.inl hc
      · rcases ih hc with hc | ⟨v, hv, hc⟩
        · exact Or.inl hc
        · exact Or.inr ⟨v, by simp [hv], hc⟩

theorem cons_join {ss : List String} (hne : ss ≠ []) :
    d :: (join (String.singleton d) ss).toList = ss.flatMap fun s => d :: s.toList := by
  induction ss with
  | nil => exact absurd rfl hne
  | cons s ss ih =>
    cases ss with
    | nil => simp [join]
    | cons t ss => simp [join, ih]

theorem count_join {ss : List String} (h : ∀ s ∈ ss, d ∉ s.toList) :
    (join (String.singleton d) ss).toList.count d = ss.length - 1 := by
  induction ss with
  | nil => rfl
  | cons s ss ih =>
    obtain ⟨hs, hss⟩ := List.forall_mem_cons.1 h
    cases ss with
    | nil => simpa [join] using List.count_eq_zero.2 hs
    | cons t ss =>
      simp only [join, String.toList_append, String.toList_singleton, List.count_append,
        List.count_eq_zero.2 hs, ih hss, List.count_singleton_self, List.length_cons]
      omega

/-- The end of joined pieces that starts with a separator is made of the last pieces. -/
theorem cons_join_suffix_iff {ss ts : List String} (hss : ss ≠ []) (hts : ts ≠ [])
    (hs : ∀ s ∈ ss, d ∉ s.toList) (ht : ∀ t ∈ ts, d ∉ t.toList) :
    d :: (join (String.singleton d) ts).toList <:+ d :: (join (String.singleton d) ss).toList ↔
      ts <:+ ss := by
  constructor
  · rintro ⟨front, hfront⟩
    have hsplit := splitAt_join hss hs
    cases front with
    | nil =>
      obtain rfl : ts = ss := by
        rw [← hsplit, ← splitAt_join hts ht, String.toList_inj.1 (List.cons.inj hfront).2]
      exact List.suffix_refl ts
    | cons c front =>
      have hjoin : (join (String.singleton d) ss).toList =
          front ++ d :: (join (String.singleton d) ts).toList := (List.cons.inj hfront).2.symm
      have hback := splitAt_join hts ht
      rw [splitAt] at hback
      rw [splitAt, hjoin, piecesAt_separated, List.map_append, hback] at hsplit
      exact ⟨_, hsplit⟩
  · rintro ⟨front, rfl⟩
    rw [cons_join hts, cons_join hss, List.flatMap_append]
    exact List.suffix_append _ _

theorem size_join_append (sep : String) (ss more : List String) :
    (join sep ss).utf8ByteSize ≤ (join sep (ss ++ more)).utf8ByteSize := by
  induction ss with
  | nil => simp [join]
  | cons s ss ih =>
    cases ss with
    | nil =>
      cases more with
      | nil => simp
      | cons t more => simp [join, String.utf8ByteSize_append]; omega
    | cons t ss =>
      simp only [List.cons_append, join, String.utf8ByteSize_append] at ih ⊢
      omega

theorem size_join_concat (sep : String) (ss : List String) {s t : String}
    (h : s.utf8ByteSize ≤ t.utf8ByteSize) :
    (join sep (ss ++ [s])).utf8ByteSize ≤ (join sep (ss ++ [t])).utf8ByteSize := by
  induction ss with
  | nil => simpa [join] using h
  | cons r ss ih =>
    cases ss with
    | nil =>
      simp only [List.cons_append, List.nil_append, join, String.utf8ByteSize_append]
      omega
    | cons r' ss =>
      simp only [List.cons_append, join, String.utf8ByteSize_append] at ih ⊢
      omega

end GoScaffold.Text
