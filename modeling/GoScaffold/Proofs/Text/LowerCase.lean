import GoScaffold.Proofs.Naming.TypeName

/-!
# Lower case once and for all

A text in lower case stays as it is when it is put in lower case again, and the case of its ASCII
letters makes no difference to the lower case of a text. Beyond ASCII both are read off the tables:
no run of the lower-case mapping takes what another one gives.
-/
namespace GoScaffold.Text

open GoScaffold.Naming

/-- No character that the one run gives is taken by the other. -/
def CaseRun.misses (r s : CaseRun) : Bool :=
  Nat.ble (r.last + r.offset + 1).toNat s.first || Nat.ble s.last.succ (r.first + r.offset).toNat ||
    (s.step == 2 && (r.step == 2 || r.first == r.last) && (r.first + r.offset - s.first) % 2 == 1)

/-- What the run gives stands behind the ASCII capitals and is not the dotted capital `I`. -/
def CaseRun.IsApart (r : CaseRun) : Prop :=
  0x5A < r.first + r.offset ∧ (r.last + r.offset < 0x130 ∨ 0x130 < r.first + r.offset)

instance (r : CaseRun) : Decidable r.IsApart := inferInstanceAs (Decidable (_ ∧ _))

/-- Nothing takes what the run gives. -/
def CaseRun.isSettled (r : CaseRun) : Bool := decide r.IsApart && lowerRuns.toList.all r.misses

theorem isSettled_lowerRuns : lowerRuns.toList.all CaseRun.isSettled = true := by decide +kernel

theorem CaseRun.mapped?_of_misses {r s : CaseRun} (h : r.misses s = true) (hr : r.IsApart)
    {n m : Nat} (hm : r.mapped? n = some m) : s.mapped? m = none := by
  simp only [mapped?, Option.ite_none_right_eq_some, Option.some.injEq] at hm
  obtain ⟨⟨hfirst, hlast, hstep⟩, rfl⟩ := hm
  rw [IsApart] at hr
  rw [mapped?, if_neg]
  rintro ⟨hfirst', hlast', hstep'⟩
  simp only [misses, Bool.or_eq_true, Bool.and_eq_true, Nat.ble_eq, beq_iff_eq] at h
  rcases h with (h | h) | ⟨⟨htwo, hsame | hsame⟩, hodd⟩
  · omega
  · omega
  · rw [hsame] at hstep
    rw [htwo] at hstep'
    omega
  · rw [htwo] at hstep'
    omega

theorem lowerChar_eq (c : Char) : lowerChar c =
    if c.toNat < 0x80 then [c.toLower]
    else match lowerExpansions.lookup c.toNat with
      | some ns => ns.map Char.ofNat
      | none => [((lowerRuns.toList.findSome? (·.mapped? c.toNat)).map Char.ofNat).getD c] := by
  rw [Array.findSome?_toList]
  rfl

/-- The character is in lower case, or has no case. -/
def IsSmall (c : Char) : Prop := lowerChar c = [c]

/-- The dot that the dotted capital `I` leaves behind, the two small sigmas, and the capital one. -/
theorem isSmall_marks : IsSmall '\u0307' ∧ IsSmall 'ς' ∧ IsSmall 'σ' ∧ ¬ IsSmall 'Σ' := by
  simp only [IsSmall, lowerChar_eq]
  decide +kernel

theorem IsSmall.ne_sigma {c : Char} (h : IsSmall c) : c ≠ 'Σ' := by
  rintro rfl
  exact isSmall_marks.2.2.2 h

theorem toLower_of_not_capital {c : Char} (h : 0x5A < c.toNat) : c.toLower = c := by
  have hupper : ¬ (c.val ≥ 'A'.val ∧ c.val ≤ 'Z'.val) := by
    rintro ⟨-, hle⟩
    have hle : c.toNat ≤ 0x5A := UInt32.le_iff_toNat_le.1 hle
    omega
  rw [Char.toLower, dif_neg hupper]

theorem toNat_toLower_lt {c : Char} (h : c.toNat < 128) : c.toLower.toNat < 128 := by
  by_cases hupper : c.isUpper = true
  · exact toNat_lt_of_isAlphanum (isAlphanum_toLower (by simp [Char.isAlphanum, Char.isAlpha, hupper]))
  · rwa [Char.toLower_eq_of_not_isUpper hupper]

theorem isSmall_toLower {c : Char} (h : c.toNat < 128) : IsSmall c.toLower := by
  rw [IsSmall, lowerChar_eq, if_pos (toNat_toLower_lt h), Char.toLower_toLower_eq_toLower]

/-- A character behind the ASCII capitals that no table takes is left as it is. -/
theorem isSmall_of_not_mapped {c : Char} (hcapital : 0x5A < c.toNat) (hdotted : c.toNat ≠ 0x130)
    (h : lowerRuns.toList.findSome? (·.mapped? c.toNat) = none) : IsSmall c := by
  have hlookup : lowerExpansions.lookup c.toNat = none := by
    rw [lowerExpansions, List.lookup_cons, beq_eq_false_iff_ne.2 hdotted]
    rfl
  rw [IsSmall, lowerChar_eq, hlookup, h, toLower_of_not_capital hcapital]
  simp

theorem isSmall_of_mapped? {r : CaseRun} (hr : r ∈ lowerRuns.toList) {n m : Nat}
    (h : r.mapped? n = some m) : IsSmall (Char.ofNat m) := by
  have hsettled := List.all_eq_true.1 isSettled_lowerRuns r hr
  simp only [CaseRun.isSettled, Bool.and_eq_true, decide_eq_true_eq, List.all_eq_true] at hsettled
  obtain ⟨hapart, hmisses⟩ := hsettled
  have hbounds := hapart
  rw [CaseRun.IsApart] at hbounds
  by_cases hvalid : m.isValidChar
  · have htoNat : (Char.ofNat m).toNat = m := by
      rw [Char.ofNat, dif_pos hvalid]
      rfl
    have hm := h
    simp only [CaseRun.mapped?, Option.ite_none_right_eq_some, Option.some.injEq] at hm
    apply isSmall_of_not_mapped
    · omega
    · omega
    · rw [htoNat, List.findSome?_eq_none_iff]
      intro s hs
      exact CaseRun.mapped?_of_misses (hmisses s hs) hapart h
  · -- a code point that is no character counts as the null character
    rw [Char.ofNat, dif_neg hvalid]
    exact isSmall_toLower (c := '\x00') (by decide)

theorem isSmall_of_mem_lowerChar {c d : Char} (hc : c ≠ 'Σ') (hd : d ∈ lowerChar c) : IsSmall d := by
  by_cases hascii : c.toNat < 0x80
  · rw [lowerChar_eq, if_pos hascii, List.mem_singleton] at hd
    exact hd ▸ isSmall_toLower hascii
  · rw [lowerChar_eq, if_neg hascii] at hd
    split at hd
    · next ns hns =>
      obtain rfl : ns = [0x69, 0x307] := by
        rw [lowerExpansions, List.lookup_cons] at hns
        split at hns
        · exact (Option.some.inj hns).symm
        · cases hns
      rcases List.mem_cons.1 hd with rfl | hd
      · exact isSmall_toLower (c := 'I') (by decide)
      · exact List.mem_singleton.1 hd ▸ isSmall_marks.1
    · next hlookup =>
      rw [List.mem_singleton] at hd
      cases hfind : lowerRuns.toList.findSome? (·.mapped? c.toNat) with
      | none =>
        obtain rfl : d = c := by simpa [hfind] using hd
        rw [IsSmall, lowerChar_eq, if_neg hascii, hlookup, hfind]
        simp only [Option.map_none, Option.getD_none]
      | some m =>
        obtain ⟨r, hr, hm⟩ := List.exists_of_findSome?_eq_some hfind
        obtain rfl : d = Char.ofNat m := by simpa [hfind] using hd
        exact isSmall_of_mapped? hr hm

theorem lowerAfter_of_isSmall {cs : List Char} (h : ∀ c ∈ cs, IsSmall c) (before : List Char) :
    lowerAfter before cs = cs := by
  induction cs generalizing before with
  | nil => rfl
  | cons c cs ih =>
    obtain ⟨hc, hcs⟩ := List.forall_mem_cons.1 h
    rw [lowerAfter, if_neg hc.ne_sigma, ih hcs, show lowerChar c = [c] from hc]
    rfl

theorem isSmall_of_mem_lowerAfter {cs before : List Char} :
    ∀ c ∈ lowerAfter before cs, IsSmall c := by
  induction cs generalizing before with
  | nil => simp [lowerAfter]
  | cons c cs ih =>
    intro d hd
    rw [lowerAfter, List.mem_append] at hd
    rcases hd with hd | hd
    · split at hd
      · split at hd
        · exact List.mem_singleton.1 hd ▸ isSmall_marks.2.1
        · exact List.mem_singleton.1 hd ▸ isSmall_marks.2.2.1
      · next hc => exact isSmall_of_mem_lowerChar hc hd
    · exact ih d hd

/-- A text in lower case stays as it is. -/
@[simp] theorem lower_lower (s : String) : lower (lower s) = lower s := by
  rw [lower, lower, String.toList_ofList, lowerChars, lowerChars,
    lowerAfter_of_isSmall isSmall_of_mem_lowerAfter]

/-- A class that does not tell the ASCII capitals from the small letters. -/
theorem inside_toLower {boundaries : Array Nat} {k : Nat}
    (hbehind : (boundaries.toList.drop k).all (127 < ·) = true)
    (h : ∀ n < 128, (boundaries.toList.take k).countP (· ≤ (Char.ofNat n).toLower.toNat) % 2 =
      (boundaries.toList.take k).countP (· ≤ (Char.ofNat n).toNat) % 2) (c : Char) :
    inside boundaries c.toLower.toNat = inside boundaries c.toNat := by
  -- the boundaries beyond ASCII do not count for a character in it
  have hcount {n : Nat} (hn : n < 128) :
      inside boundaries n = ((boundaries.toList.take k).countP (· ≤ n) % 2 == 1) := by
    have hnone : (boundaries.toList.drop k).countP (· ≤ n) = 0 := by
      rw [List.countP_eq_zero]
      intro b hb
      have hlarge := List.all_eq_true.1 hbehind b hb
      simp only [decide_eq_true_eq] at hlarge ⊢
      omega
    rw [inside, ← Array.countP_toList, ← List.take_append_drop k boundaries.toList,
      List.countP_append, hnone, List.take_append_drop]
    rfl
  by_cases hc : c.toNat < 128
  · rw [hcount hc, hcount (toNat_toLower_lt hc)]
    exact congrArg (· == 1) (ascii_induction (P := fun c =>
      (boundaries.toList.take k).countP (· ≤ c.toLower.toNat) % 2 =
        (boundaries.toList.take k).countP (· ≤ c.toNat) % 2) h hc)
  · rw [toLower_of_not_capital (by omega)]

theorem inside_caseSkipped_toLower (c : Char) :
    inside caseSkippedBoundaries c.toLower.toNat = inside caseSkippedBoundaries c.toNat :=
  inside_toLower (k := 10) (by decide +kernel) (by decide +kernel) c

theorem inside_cased_toLower (c : Char) :
    inside casedBoundaries c.toLower.toNat = inside casedBoundaries c.toNat :=
  inside_toLower (k := 4) (by decide +kernel) (by decide +kernel) c

theorem nextIsCased_cons (c : Char) (cs : List Char) : nextIsCased (c :: cs) =
    if inside caseSkippedBoundaries c.toNat then nextIsCased cs else inside casedBoundaries c.toNat := by
  unfold nextIsCased
  rw [List.dropWhile_cons]
  by_cases hc : inside caseSkippedBoundaries c.toNat = true
  · simp only [hc, if_true]
  · simp only [hc, Bool.false_eq_true, if_false]

theorem nextIsCased_toLower (cs : List Char) :
    nextIsCased (cs.map Char.toLower) = nextIsCased cs := by
  induction cs with
  | nil => rfl
  | cons c cs ih =>
    rw [List.map_cons, nextIsCased_cons, nextIsCased_cons, inside_caseSkipped_toLower,
      inside_cased_toLower, ih]

theorem lowerChar_toLower (c : Char) : lowerChar c.toLower = lowerChar c := by
  by_cases hc : c.toNat < 128
  · rw [lowerChar, lowerChar, if_pos hc, if_pos (toNat_toLower_lt hc), Char.toLower_toLower_eq_toLower]
  · rw [toLower_of_not_capital (by omega)]

theorem toLower_eq_sigma_iff (c : Char) : c.toLower = 'Σ' ↔ c = 'Σ' := by
  by_cases hc : c.toNat < 128
  · have hlower : c.toLower ≠ 'Σ' := fun he => absurd (toNat_toLower_lt hc) (he ▸ by decide)
    have hself : c ≠ 'Σ' := fun he => absurd hc (he ▸ by decide)
    simp only [hlower, hself]
  · rw [toLower_of_not_capital (by omega)]

theorem lowerAfter_toLower (before cs : List Char) :
    lowerAfter (before.map Char.toLower) (cs.map Char.toLower) = lowerAfter before cs := by
  induction cs generalizing before with
  | nil => rfl
  | cons c cs ih =>
    rw [List.map_cons, lowerAfter, lowerAfter, ← List.map_cons, ih, lowerChar_toLower,
      nextIsCased_toLower, nextIsCased_toLower]
    simp only [toLower_eq_sigma_iff]

/-- Texts that differ in the case of ASCII letters only are the same in lower case. -/
theorem lower_congr {s t : String} (h : s.toLower = t.toLower) : lower s = lower t := by
  have hfolded (u : String) : lower u.toLower = lower u := by
    rw [lower, lower, String.toLower, String.toList_map, lowerChars, lowerChars]
    exact congrArg String.ofList (lowerAfter_toLower [] u.toList)
  rw [← hfolded s, ← hfolded t, h]

end GoScaffold.Text
