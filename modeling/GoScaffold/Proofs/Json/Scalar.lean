import GoScaffold.Json.Reader
import GoScaffold.Json.Writer

/-!
# Strings and integers read back

A string that is written with its characters as they are is read as it was: each character gives
one step of the reader, whether it stands for itself or is escaped.
-/
namespace GoScaffold.Json

open GoScaffold.Text

theorem hexValue?_digitChar : ∀ n < 16, hexValue? (Nat.digitChar n) = some n := by decide

theorem fourHex?_hexDigits {n : Nat} (h : n < 0x10000) {rest : List Char} (hrest : rest ≠ []) :
    fourHex? (hexDigits 4 n ++ rest) = some (n, rest) := by
  obtain ⟨c, rest, rfl⟩ := List.exists_cons_of_ne_nil hrest
  have hdigit (k : Nat) : hexValue? (Nat.digitChar (k % 16)) = some (k % 16) :=
    hexValue?_digitChar _ (Nat.mod_lt k (by omega))
  simp only [hexDigits, List.nil_append, List.cons_append, fourHex?, hdigit, bind, Option.bind,
    pure, Option.some.injEq, Prod.mk.injEq, and_true]
  omega

/-- A written character is read in one step. -/
theorem readString_writtenChar (start fuel : Nat) (seen : List Char) (c : Char) {rest : List Char}
    (hrest : rest ≠ []) :
    readString start (fuel + 1) seen (writtenChar false c ++ rest) =
      readString start fuel (c :: seen) rest := by
  by_cases hquoted : c = '"' ∨ c = '\\'
  · rcases hquoted with rfl | rfl <;> rfl
  by_cases hletter : c = '\n' ∨ c = '\r' ∨ c = '\t' ∨ c = '\x08' ∨ c = '\x0c'
  · rcases hletter with rfl | rfl | rfl | rfl | rfl <;> rfl
  simp only [not_or] at hquoted hletter
  by_cases hcontrol : c.toNat < 0x20
  · -- a control character without a letter of its own has a code far below the surrogates
    have hwritten : writtenChar false c = unicodeEscaped c.toNat := by
      simp [writtenChar, hquoted, hletter, hcontrol]
    have hescape : unicodeEscape (hexDigits 4 c.toNat ++ rest) = .ok (c, rest) := by
      rw [unicodeEscape, fourHex?_hexDigits (by omega) hrest]
      simp only [Char.ofNat_toNat]
      rw [if_neg (by omega), if_neg (by omega)]
    rw [hwritten, unicodeEscaped, List.cons_append, List.cons_append, readString, hescape]
    rfl
  · have hwritten : writtenChar false c = [c] := by
      simp [writtenChar, hquoted, hletter, hcontrol]
    rw [hwritten, List.singleton_append]
    simp [readString, hquoted, hcontrol]

/-- The characters of a string, read behind those already seen. -/
theorem readString_flatMap (start : Nat) {fuel : Nat} (seen cs rest : List Char)
    (h : cs.length < fuel) :
    readString start fuel seen (cs.flatMap (writtenChar false) ++ '"' :: rest) =
      .ok (.ofList (seen.reverse ++ cs), rest) := by
  induction cs generalizing fuel seen with
  | nil =>
    cases fuel with
    | zero => simp at h
    | succ fuel => simp [readString]
  | cons c cs ih =>
    cases fuel with
    | zero => simp at h
    | succ fuel =>
      rw [List.flatMap_cons, List.append_assoc, readString_writtenChar _ _ _ _ (by simp),
        ih (c :: seen) (by simpa using h)]
      simp

theorem length_le_flatMap_writtenChar (cs : List Char) :
    cs.length ≤ (cs.flatMap (writtenChar false)).length := by
  induction cs with
  | nil => simp
  | cons c cs ih =>
    have hc : 1 ≤ (writtenChar false c).length := by
      unfold writtenChar
      repeat' split
      all_goals simp [unicodeEscaped]
    simp only [List.flatMap_cons, List.length_cons, List.length_append]
    omega

theorem toList_writtenString (s : String) :
    (writtenString false s).toList = '"' :: (s.toList.flatMap (writtenChar false) ++ ['"']) := by
  simp [writtenString]

theorem readString_written (start : Nat) (s : String) (rest : List Char) :
    readString start ((s.toList.flatMap (writtenChar false) ++ '"' :: rest).length + 1) []
      (s.toList.flatMap (writtenChar false) ++ '"' :: rest) = .ok (s, rest) := by
  have hfuel := length_le_flatMap_writtenChar s.toList
  rw [readString_flatMap _ _ _ _ (by simp only [List.length_append]; omega)]
  simp

theorem return_not_mem_writtenChar (c : Char) : '\r' ∉ writtenChar false c := by
  have hdigit : ∀ n < 16, '\r' ≠ Nat.digitChar n := by decide
  have hdigits (n : Nat) : '\r' ∉ unicodeEscaped n := by
    have h (k : Nat) : '\r' ≠ Nat.digitChar (k % 16) := hdigit _ (Nat.mod_lt k (by omega))
    simp [unicodeEscaped, hexDigits, h]
  by_cases hc : c = '\r'
  · subst hc
    decide
  · unfold writtenChar
    repeat' split
    all_goals simp_all [eq_comm]

theorem return_not_mem_writtenString (s : String) : '\r' ∉ (writtenString false s).toList := by
  simp [toList_writtenString, return_not_mem_writtenChar]

end GoScaffold.Json

/-! ## Integers read back

An integer that is not too long to be written is read as it was where it ends the text or a comma or
a newline follows it. -/

namespace GoScaffold.Json

open GoScaffold.Decimal

/-- Nothing follows, or what follows a value in a file: a comma or a line break. -/
def Ends (rest : List Char) : Prop := ∀ c ∈ rest.head?, c = ',' ∨ c = '\n'

theorem ends_nil : Ends [] := by
  intro c hc
  cases hc

theorem ends_comma (rest : List Char) : Ends (',' :: rest) := by
  intro c hc
  exact Or.inl (Option.some.inj hc).symm

theorem ends_newline (rest : List Char) : Ends ('\n' :: rest) := by
  intro c hc
  exact Or.inr (Option.some.inj hc).symm

theorem digitsValue_toDigits (n : Nat) : digitsValue (Nat.toDigits 10 n) = n := by
  have h := Nat.ofDigitChars_ten_toDigits (n := n)
  rw [Nat.ofDigitChars_eq_foldl] at h
  simpa only [digitsValue, Nat.mul_comm] using h

theorem takeWhile_toDigits (n : Nat) {rest : List Char} (h : Ends rest) :
    (Nat.toDigits 10 n ++ rest).takeWhile Char.isDigit = Nat.toDigits 10 n := by
  have hdigits : ∀ c ∈ Nat.toDigits 10 n, c.isDigit = true :=
    fun c => Nat.isDigit_of_mem_toDigits (by omega) (by omega)
  have hrest : rest.takeWhile Char.isDigit = [] := by
    cases rest with
    | nil => rfl
    | cons c rest => rcases h c rfl with rfl | rfl <;> rfl
  rw [List.takeWhile_append_of_pos hdigits, hrest, List.append_nil]

theorem head?_toDigits {n : Nat} (hn : n ≠ 0) : (Nat.toDigits 10 n).head? ≠ some '0' := by
  induction n using Nat.strongRecOn with
  | ind n ih =>
    rw [Nat.toDigits_eq_if (by omega)]
    split
    · next hlt =>
      have hdigit : ∀ k < 10, k ≠ 0 → Nat.digitChar k ≠ '0' := by decide
      simpa using hdigit n hlt hn
    · next hge =>
      have hhead := ih (n / 10) (by omega) (by omega)
      cases hd : Nat.toDigits 10 (n / 10) with
      | nil => exact absurd hd Nat.toDigits_ne_nil
      | cons c cs => simpa [hd] using hhead

theorem fractionPart_of_ends {rest : List Char} (h : Ends rest) : fractionPart rest = ([], rest) := by
  cases rest with
  | nil => rfl
  | cons c rest => rcases h c rfl with rfl | rfl <;> rfl

theorem exponentPart_of_ends {rest : List Char} (h : Ends rest) : exponentPart rest = none := by
  cases rest with
  | nil => rfl
  | cons c rest => rcases h c rfl with rfl | rfl <;> rfl

/-- An integer that is not long has no more digits than are read. -/
theorem length_toDigits_le {n : Int} (h : isLong n = false) :
    (Nat.toDigits 10 n.natAbs).length ≤ longestInteger := by
  rw [Nat.length_toDigits_le_iff (by omega) (by decide)]
  apply Nat.lt_of_not_le
  intro hge
  have hzero : n.natAbs ≠ 0 := by
    intro hzero
    rw [hzero] at hge
    exact absurd (Nat.pow_pos (by omega)) (Nat.not_lt.2 hge)
  -- so large an integer has the logarithm that makes it long
  have hlog : 14284 ≤ n.natAbs.log2 := by
    apply (Nat.le_log2 hzero).2
    apply Nat.le_trans _ hge
    decide +kernel
  have hlong : isLong n = true := by
    simp only [isLong, Nat.pow_eq, hlog, hge, decide_true, Bool.and_self]
  rw [hlong] at h
  cases h

theorem toList_toString (n : Int) :
    (toString n).toList = (if n < 0 then ['-'] else []) ++ Nat.toDigits 10 n.natAbs := by
  rw [Int.toString_eq_repr, Int.repr_eq_if]
  by_cases hn : n < 0
  · rw [if_neg (by omega), if_pos hn, String.toList_append, Nat.toList_repr,
      show (-n).toNat = n.natAbs by omega]
    rfl
  · rw [if_pos (by omega), if_neg hn, Nat.toList_repr, show n.toNat = n.natAbs by omega]
    rfl

/-- Digits are read as the number that they write, with a minus sign or without. -/
theorem readNumber_toDigits (negative : Bool) {n : Nat}
    (hn : (Nat.toDigits 10 n).length ≤ longestInteger) {rest : List Char} (hrest : Ends rest) :
    readNumber ((if negative then ['-'] else []) ++ (Nat.toDigits 10 n ++ rest)) =
      .ok (.int (if negative then -n else n), rest) := by
  have htake := takeWhile_toDigits n hrest
  have hvalue := digitsValue_toDigits n
  have hminus : '-' ∉ Nat.toDigits 10 n := by
    intro hmem
    exact absurd (Nat.isDigit_of_mem_toDigits (by omega) (by omega) hmem) (by decide)
  have hfirst : (Nat.toDigits 10 n).head? = some '0' → Nat.toDigits 10 n = ['0'] := by
    intro hzero
    by_cases h : n = 0
    · subst h
      rfl
    · exact absurd hzero (head?_toDigits h)
  cases hd : Nat.toDigits 10 n with
  | nil => exact absurd hd Nat.toDigits_ne_nil
  | cons c ds =>
    rw [hd] at hn htake hvalue hminus hfirst
    simp only [List.mem_cons, not_or] at hminus
    simp only [List.cons_append] at htake
    have hsign : ¬ c = '-' := Ne.symm hminus.1
    by_cases hc : c = '0'
    · subst hc
      obtain rfl : ds = [] := by simpa using hfirst rfl
      have hsome : longestInteger ≠ 0 := by decide
      cases negative <;>
        simp [readNumber, fractionPart_of_ends hrest, exponentPart_of_ends hrest, hvalue, hsome]
    · have hshort : ¬ longestInteger < ds.length + 1 := Nat.not_lt.2 hn
      cases negative <;>
        simp [readNumber, fractionPart_of_ends hrest, exponentPart_of_ends hrest, htake, hvalue,
          hc, hsign, hshort]

/-- An integer is read as it was written. -/
theorem readNumber_toString {n : Int} (h : isLong n = false) {rest : List Char} (hrest : Ends rest) :
    readNumber ((toString n).toList ++ rest) = .ok (.int n, rest) := by
  have hread := readNumber_toDigits (decide (n < 0)) (length_toDigits_le h) hrest
  rw [toList_toString, List.append_assoc]
  by_cases hn : n < 0
  · simp only [hn, decide_true, if_true] at hread ⊢
    rw [hread, show -(n.natAbs : Int) = n by omega]
  · simp only [hn, decide_false, if_false, Bool.false_eq_true] at hread ⊢
    rw [hread, show (n.natAbs : Int) = n by omega]

theorem ne_of_isDigit {c d : Char} (hc : c.isDigit = true) (hd : d.isDigit = false) : c ≠ d := by
  rintro rfl
  rw [hc] at hd
  cases hd

/-- An integer starts with a digit, which may stand behind a minus sign. -/
theorem toString_cases (n : Int) :
    ∃ c cs, c.isDigit = true ∧
      ((toString n).toList = c :: cs ∨ (toString n).toList = '-' :: c :: cs) := by
  cases hd : Nat.toDigits 10 n.natAbs with
  | nil => exact absurd hd Nat.toDigits_ne_nil
  | cons c cs =>
    have hc : c.isDigit = true :=
      Nat.isDigit_of_mem_toDigits (by omega) (by omega) (hd ▸ List.mem_cons_self ..)
    refine ⟨c, cs, hc, ?_⟩
    rw [toList_toString, hd]
    by_cases hn : n < 0
    · exact Or.inr (by rw [if_pos hn]; rfl)
    · exact Or.inl (by rw [if_neg hn]; rfl)

theorem readNamed?_toString (n : Int) (rest : List Char) :
    readNamed? ((toString n).toList ++ rest) = none := by
  obtain ⟨c, cs, hc, hcs⟩ := toString_cases n
  have hne (d : Char) (hd : d.isDigit = false) : ¬ d = c := Ne.symm (ne_of_isDigit hc hd)
  rcases hcs with hcs | hcs
  · rw [hcs]
    simp [readNamed?, namedValues, hne 'n' rfl, hne 't' rfl, hne 'f' rfl, hne 'N' rfl,
      hne 'I' rfl, hne '-' rfl]
  · rw [hcs]
    simp [readNamed?, namedValues, hne 'I' rfl]

theorem return_not_mem_toString (n : Int) : '\r' ∉ (toString n).toList := by
  intro hmem
  rw [toList_toString, List.mem_append] at hmem
  rcases hmem with hsign | hdigit
  · split at hsign
    · simp at hsign
    · simp at hsign
  · exact absurd (Nat.isDigit_of_mem_toDigits (by omega) (by omega) hdigit) (by decide)

end GoScaffold.Json
