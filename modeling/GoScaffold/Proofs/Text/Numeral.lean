import GoScaffold.Text.Split
import Mathlib.Logic.Function.Basic

/-!
# Numbered texts

A number in decimal digits is told from its digits, zeros in front or not. So texts that differ in
nothing but the number of each are different, and also where what stands in front of the number
varies, as long as it has no digits itself.
-/
namespace GoScaffold.Text

theorem toList_times {s : String} {c : Char} (hs : s.toList = [c]) (n : Nat) :
    (times n s).toList = List.replicate n c := by
  induction n with
  | zero => rfl
  | succ n ih =>
    rw [times] at ih ⊢
    rw [List.replicate_succ, concat, String.toList_append, hs, ih, List.replicate_succ]
    rfl

theorem toList_zeroPadded (width n : Nat) : (zeroPadded width n).toList =
    List.replicate (width - (Nat.toDigits 10 n).length) '0' ++ Nat.toDigits 10 n := by
  have hsign : ¬ (n : Int) < 0 := by omega
  have hdigits : (toString n).toList = Nat.toDigits 10 n := by
    rw [Nat.toString_eq_repr, Nat.toList_repr]
  have hlength : (toString n).length = (Nat.toDigits 10 n).length := by
    rw [← hdigits, String.length_toList]
  simp only [zeroPadded, hsign, if_false, Int.natAbs_natCast, String.length_empty, Nat.sub_zero, hlength]
  rw [String.toList_append, String.toList_append, toList_times (c := '0') rfl, hdigits]
  rfl

theorem toString_eq_zeroPadded (n : Nat) : toString (n : Int) = zeroPadded 0 n := by
  have hint : toString (n : Int) = toString n := rfl
  rw [← String.toList_inj, toList_zeroPadded, hint, Nat.toString_eq_repr, Nat.toList_repr, Nat.zero_sub]
  rfl

theorem isDigit_of_mem_zeroPadded {width n : Nat} {c : Char}
    (hc : c ∈ (zeroPadded width n).toList) : c.isDigit = true := by
  rw [toList_zeroPadded, List.mem_append] at hc
  rcases hc with hc | hc
  · rw [List.eq_of_mem_replicate hc]
    rfl
  · exact Nat.isDigit_of_mem_toDigits (by omega) (by omega) hc

theorem zeroPadded_ne_nil (width n : Nat) : (zeroPadded width n).toList ≠ [] := by
  rw [toList_zeroPadded]
  simp [Nat.toDigits_ne_nil]

/-- The digits give the number back. -/
theorem ofDigitChars_zeroPadded (width n : Nat) :
    Nat.ofDigitChars 10 (zeroPadded width n).toList 0 = n := by
  rw [toList_zeroPadded, Nat.ofDigitChars_append, Nat.ofDigitChars_replicate_zero, Nat.mul_zero,
    Nat.ofDigitChars_ten_toDigits]

theorem zeroPadded_injective (width : Nat) : Function.Injective fun n : Nat => zeroPadded width n :=
  fun m n h => by
    rw [← ofDigitChars_zeroPadded width m, ← ofDigitChars_zeroPadded width n]
    exact congrArg (fun s => Nat.ofDigitChars 10 (String.toList s) 0) h

/-- What stands in front of a number is always the same, or it has no digits. -/
def IsTold (front : Nat → String) : Prop :=
  (∀ i j, front i = front j) ∨ ∀ i, ∀ c ∈ (front i).toList, c.isDigit = false

theorem IsTold.injective {front : Nat → String} (h : IsTold front) (width : Nat) (back : String) :
    Function.Injective fun n => front n ++ zeroPadded width (n + 1 : Nat) ++ back := by
  intro m n heq
  have hnumbers : front m ++ zeroPadded width (m + 1 : Nat) =
      front n ++ zeroPadded width (n + 1 : Nat) := (String.append_left_inj back).1 heq
  have hequal : zeroPadded width (m + 1 : Nat) = zeroPadded width (n + 1 : Nat) := by
    rcases h with hsame | hfree
    · rw [hsame m n] at hnumbers
      exact (String.append_right_inj _).1 hnumbers
    · -- the number is what is left behind the characters that are no digits
      have hbehind (i : Nat) : (front i ++ zeroPadded width (i + 1 : Nat)).toList.dropWhile
          (fun c => !c.isDigit) = (zeroPadded width (i + 1 : Nat)).toList := by
        rw [String.toList_append, List.dropWhile_append_of_pos fun c hc => by simp [hfree i c hc]]
        obtain ⟨d, ds, hds⟩ := List.exists_cons_of_ne_nil (zeroPadded_ne_nil width (i + 1))
        have hd : d.isDigit = true := isDigit_of_mem_zeroPadded (hds ▸ List.mem_cons_self ..)
        rw [hds, List.dropWhile_cons_of_neg (by simp [hd])]
      rw [← String.toList_inj, ← hbehind, ← hbehind, hnumbers]
  exact Nat.succ.inj (zeroPadded_injective width hequal)

end GoScaffold.Text
