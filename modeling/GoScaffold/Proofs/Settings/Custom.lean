import GoScaffold.Proofs.Json.Plain
import GoScaffold.Settings.Custom

/-!
# Custom settings under texts

Entries whose keys are texts are kept as the fields of an object are. An entry read from a value
stands in the value, and so is lower than it.
-/
namespace GoScaffold

theorem Key.same_text {k : Key} {s : String} : k.same (.text s) = true ↔ k = .text s := by
  cases k <;> simp [same, value, Json.same, Json.toInt?]

namespace Entries

theorem put_text (es : Entries) (s : String) (j : Json) :
    es.put (.text s, j) = OrderedMap.insert (.text s) j es := by
  rw [put]
  cases hk : (OrderedMap.keys es).find? (·.same (.text s)) with
  | none => rfl
  | some k =>
    have hsame : k.same (.text s) = true := by simpa using List.find?_some hk
    rw [Key.same_text.1 hsame]
    rfl

theorem insert_ofFields (fs : List (String × Json)) (s : String) (j : Json) :
    OrderedMap.insert (.text s) j (ofFields fs) = ofFields (OrderedMap.insert s j fs) := by
  induction fs with
  | nil => rfl
  | cons f fs ih =>
    have hcons (gs : List (String × Json)) : ofFields (f :: gs) = (.text f.1, f.2) :: ofFields gs := rfl
    rw [hcons, OrderedMap.insert, OrderedMap.insert, ih]
    by_cases hk : f.1 = s
    · subst hk
      simp [ofFields]
    · simp [ofFields, hk]

theorem putAll_ofFields (fs gs : List (String × Json)) :
    (ofFields fs).putAll (ofFields gs) = ofFields (OrderedMap.insertAll fs gs) := by
  induction gs generalizing fs with
  | nil => rfl
  | cons g gs ih =>
    have hstep : (ofFields fs).putAll (ofFields (g :: gs)) =
        ((ofFields fs).put (.text g.1, g.2)).putAll (ofFields gs) := rfl
    rw [hstep, put_text, insert_ofFields, ih]
    rfl

theorem toFields_ofFields (fs : List (String × Json)) : (ofFields fs).toFields = fs := by
  rw [toFields, ofFields, List.map_map]
  exact List.map_id fs

theorem mem_or_exists_of_mem_putAll {es : Entries} {fs : List (String × Json)} {e : Key × Json}
    (h : e ∈ es.putAll (ofFields fs)) : e ∈ es ∨ ∃ f ∈ fs, e = (.text f.1, f.2) := by
  induction fs generalizing es with
  | nil => exact Or.inl h
  | cons f fs ih =>
    have hstep : es.putAll (ofFields (f :: fs)) =
        (es.put (.text f.1, f.2)).putAll (ofFields fs) := rfl
    rw [hstep, put_text] at h
    rcases ih h with hput | ⟨g, hg, rfl⟩
    · rcases OrderedMap.eq_or_mem_of_mem_insert hput with rfl | hes
      · exact Or.inr ⟨f, List.mem_cons_self .., rfl⟩
      · exact Or.inl hes
    · exact Or.inr ⟨g, List.mem_cons_of_mem _ hg, rfl⟩

theorem exists_value_of_mem_putAll {es : Entries} {more : List (Key × Json)} {e : Key × Json}
    (h : e ∈ es.putAll more) : e ∈ es ∨ ∃ e' ∈ more, e.2 = e'.2 := by
  induction more generalizing es with
  | nil => exact Or.inl h
  | cons e' more ih =>
    rcases ih h with hput | ⟨x, hx, hvalue⟩
    · rcases OrderedMap.eq_or_mem_of_mem_insert hput with rfl | hes
      · exact Or.inr ⟨e', List.mem_cons_self .., rfl⟩
      · exact Or.inl hes
    · exact Or.inr ⟨x, List.mem_cons_of_mem _ hx, hvalue⟩

theorem find?_ofFields (fs : List (String × Json)) (s : String) :
    (ofFields fs).find? (fun e => e.1.same (.text s)) =
      (OrderedMap.get? s fs).map fun j => (.text s, j) := by
  induction fs with
  | nil => rfl
  | cons f fs ih =>
    have hcons : ofFields (f :: fs) = (.text f.1, f.2) :: ofFields fs := rfl
    rw [hcons, OrderedMap.get?, List.find?_cons]
    by_cases hk : f.1 = s
    · subst hk
      have hkey : (Key.text f.1).same (.text f.1) = true := Key.same_text.2 rfl
      simp [hkey]
    · have hkey : (Key.text f.1).same (.text s) = false := by
        rw [Bool.eq_false_iff, ne_eq, Key.same_text]
        simpa using hk
      simp [hkey, hk, ih]

theorem same_self {fs : List (String × Json)} (h : (Json.object fs).isPlain = true) :
    (ofFields fs).same (ofFields fs) = true := by
  rw [Json.isPlain, Bool.and_eq_true, decide_eq_true_iff, Json.haveFieldsPlain_iff] at h
  rw [same, Bool.and_eq_true, List.all_eq_true]
  constructor
  · simp
  · intro e he
    obtain ⟨f, hf, rfl⟩ := List.mem_map.1 he
    rw [find?_ofFields, OrderedMap.get?_of_mem h.1 hf]
    exact Json.same_self (h.2 f hf)

end Entries

namespace Json

theorem height_le_of_members {j : Json} {ms : List Json} (h : j.members? = some ms) {m : Json}
    (hm : m ∈ ms) : m.height ≤ j.height := by
  cases j with
  | str s =>
    obtain rfl := Option.some.inj h
    obtain ⟨c, -, rfl⟩ := List.mem_map.1 hm
    simp [height]
  | array xs =>
    obtain rfl := Option.some.inj h
    exact Nat.le_of_lt (height_lt_array hm)
  | object fs =>
    obtain rfl := Option.some.inj h
    obtain ⟨f, -, rfl⟩ := List.mem_map.1 hm
    simp [height]
  | _ => simp [members?] at h

theorem exists_of_mem_pairs {index : Nat} {ms : List Json} {ps : List (Key × Json)}
    (h : pairs index ms = .ok ps) {p : Key × Json} (hp : p ∈ ps) :
    ∃ m ∈ ms, ∃ k, m.members? = some [k, p.2] := by
  induction ms generalizing index ps with
  | nil =>
    cases h
    cases hp
  | cons m ms ih =>
    rw [pairs] at h
    split at h
    · cases h
    · next k v hm =>
      split at h
      · cases h
      · cases hrest : pairs (index + 1) ms with
        | error e => simp [hrest, Except.map] at h
        | ok rest =>
          rw [hrest] at h
          cases h
          rcases List.mem_cons.1 hp with rfl | hp
          · exact ⟨m, List.mem_cons_self .., k, hm⟩
          · obtain ⟨m', hm', hk⟩ := ih hrest hp
            exact ⟨m', List.mem_cons_of_mem _ hm', hk⟩
    · cases h

theorem height_lt_of_mem_entries {j : Json} {es : Entries} (h : j.entries = .ok es)
    {e : Key × Json} (he : e ∈ es) : e.2.height < j.height := by
  have hpairs {ms : List Json} (h : (pairs 0 ms).map (Entries.putAll []) = .ok es) :
      ∃ m ∈ ms, ∃ k, m.members? = some [k, e.2] := by
    cases hps : pairs 0 ms with
    | error f => simp [hps, Except.map] at h
    | ok ps =>
      rw [hps] at h
      cases h
      rcases Entries.exists_value_of_mem_putAll he with hnil | ⟨p, hp, hvalue⟩
      · cases hnil
      · rw [hvalue]
        exact exists_of_mem_pairs hps hp
  cases j with
  | object fs =>
    cases h
    obtain ⟨f, hf, rfl⟩ := List.mem_map.1 he
    exact height_lt_object hf
  | array xs =>
    obtain ⟨m, hm, k, hmembers⟩ := hpairs h
    have hvalue : e.2.height ≤ m.height := height_le_of_members hmembers (by simp)
    exact Nat.lt_of_le_of_lt hvalue (height_lt_array hm)
  | str s =>
    -- the members of a text are single characters, none of which is a pair
    obtain ⟨m, hm, k, hmembers⟩ := hpairs h
    obtain ⟨c, -, rfl⟩ := List.mem_map.1 hm
    simp [members?] at hmembers
  | _ => cases h

end Json

end GoScaffold
