import Mathlib.Data.List.Basic
import Mathlib.Tactic.SplitIfs

/-!
# Characters from bytes

The characters of a text of ASCII are its bytes. Telling them so takes far fewer steps than decoding
the text, which counts where the characters of long texts are computed in a proof.
-/
namespace GoScaffold.Text

/-- The characters of a text, which its bytes tell at once where all of them are ASCII. -/
def characters (s : String) : List Char :=
  let bytes := s.toByteArray.data.toList
  if bytes.all (· < 128) then bytes.map fun b => .ofNat b.toNat else s.toList

theorem encoded_ascii {c : Char} (h : ∀ b ∈ String.utf8EncodeChar c, b < 128) :
    (String.utf8EncodeChar c).map (fun b => Char.ofNat b.toNat) = [c] := by
  by_cases hc : c.val.toNat ≤ 127
  · have hencoded : String.utf8EncodeChar c = [UInt8.ofNat c.toNat] := if_pos hc
    have hmod : c.toNat % 256 = c.toNat := Nat.mod_eq_of_lt (Nat.lt_of_le_of_lt hc (by decide))
    rw [hencoded, List.map_singleton, UInt8.toNat_ofNat', hmod, Char.ofNat_toNat]
  · exfalso
    have hlarge (b : UInt8) (hb : b ∈ String.utf8EncodeChar c) : b.toNat < 128 := h b hb
    simp only [String.utf8EncodeChar, hc, if_false] at hlarge
    split_ifs at hlarge
    all_goals
      have hfirst := hlarge _ (List.mem_cons_self ..)
      simp at hfirst
      omega

theorem characters_eq (s : String) : characters s = s.toList := by
  have hbytes : s.toByteArray.data.toList = s.toList.flatMap String.utf8EncodeChar := by
    rw [← String.utf8Encode_toList, List.utf8Encode, List.data_toByteArray]
  rw [characters]
  split
  · next hall =>
    rw [hbytes, List.all_eq_true] at hall
    rw [hbytes]
    generalize s.toList = cs at hall
    induction cs with
    | nil => rfl
    | cons c cs ih =>
      rw [List.flatMap_cons, List.forall_mem_append] at hall
      rw [List.flatMap_cons, List.map_append, ih hall.2, encoded_ascii (by simpa using hall.1)]
      rfl
  · rfl

end GoScaffold.Text
