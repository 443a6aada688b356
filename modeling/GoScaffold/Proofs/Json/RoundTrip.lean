import GoScaffold.Proofs.Json.Layout
import GoScaffold.Proofs.OrderedMap

/-!
# Values read back

A value without floating point numbers, in whose objects no field stands twice, is read from the
text of a file as it was written there. Each kind of value is one step of the reader; items and
fields follow one another at the breaks of the layout, and the fuel that is left for what remains
is twice its length.
-/
namespace GoScaffold.Json

section Leaves

attribute [local simp] readValue readItems readFields

variable (room fuel : Nat) (rest : List Char)

theorem readValue_null : readValue room (fuel + 1) ("null".toList ++ rest) = .ok (.null, rest) := by
  simp only [readValue, readNamed?, namedValues]
  rfl

theorem readValue_bool (b : Bool) :
    readValue room (fuel + 1) ((if b then "true" else "false").toList ++ rest) =
      .ok (.bool b, rest) := by
  cases b <;> simp only [readValue, readNamed?, namedValues] <;> rfl

theorem readValue_string (s : String) :
    readValue room (fuel + 1) ((writtenString false s).toList ++ rest) = .ok (.str s, rest) := by
  rw [toList_writtenString, List.cons_append, List.append_assoc, List.singleton_append]
  simp only [readValue, readString_written]
  rfl

variable {rest} in
theorem readValue_int {n : Int} (h : Decimal.isLong n = false) (hrest : Ends rest) :
    readValue room (fuel + 1) ((toString n).toList ++ rest) = .ok (.int n, rest) := by
  have hname := readNamed?_toString n rest
  have hnumber := readNumber_toString h hrest
  obtain ⟨c, cs, hc, hcs | hcs⟩ := toString_cases n
  · rw [hcs, List.cons_append] at hname hnumber ⊢
    have hne (d : Char) (hd : d.isDigit = false) : ¬ c = d := ne_of_isDigit hc hd
    simp [hname, hnumber, hne]
  · rw [hcs, List.cons_append, List.cons_append] at hname hnumber ⊢
    simp [hname, hnumber]

end Leaves

section Members

variable {room fuel : Nat} {x : Json} {cs rest after : List Char}

theorem readItems_last (seen : List Json) (hvalue : readValue room fuel cs = .ok (x, rest))
    (hrest : skipSpace rest = ']' :: after) :
    readItems room (fuel + 1) seen cs = .ok (.array (x :: seen).reverse, after) := by
  simp only [readItems, hvalue, bind, Except.bind, hrest, pure, Except.pure]

theorem readItems_next (seen : List Json) (hvalue : readValue room fuel cs = .ok (x, rest))
    (hrest : skipSpace rest = ',' :: after) :
    readItems room (fuel + 1) seen cs = readItems room fuel (x :: seen) (skipSpace after) := by
  simp only [readItems, hvalue, bind, Except.bind, hrest]

theorem readValue_array (hroom : room ≠ 0) (hcs : skipSpace cs = rest)
    (hopen : rest.head? ≠ some ']') :
    readValue room (fuel + 1) ('[' :: cs) = readItems (room - 1) fuel [] rest := by
  subst hcs
  simp only [readValue, if_neg hroom]
  split
  · next h => simp [h] at hopen
  · rfl

/-- An object that is not closed at once is read field by field. -/
theorem readValue_object (hroom : room ≠ 0) (hcs : skipSpace cs = rest)
    (hopen : rest.head? ≠ some '\x7d') :
    readValue room (fuel + 1) ('\x7b' :: cs) = readFields (room - 1) fuel [] rest := by
  subst hcs
  simp only [readValue, if_neg hroom]
  split
  · next h => simp [h] at hopen
  · rfl

variable (k : String) (m : List (String × Json))

/-- What the reader sees of a field. -/
theorem toList_field (cs : List Char) :
    (writtenString false k).toList ++ ':' :: ' ' :: cs =
      '"' :: (k.toList.flatMap (writtenChar false) ++ '"' :: ':' :: ' ' :: cs) := by
  simp [toList_writtenString]

theorem readFields_last (hvalue : readValue room fuel cs = .ok (x, rest)) (hcs : skipSpace cs = cs)
    (hrest : skipSpace rest = '\x7d' :: after) :
    readFields room (fuel + 1) m ((writtenString false k).toList ++ ':' :: ' ' :: cs) =
      .ok (.object (OrderedMap.insert k x m), after) := by
  have hblank : skipSpace (' ' :: cs) = cs := hcs
  rw [toList_field]
  simp only [readFields, readString_written, bind, Except.bind, skipSpace_cons (c := ':') rfl, hblank,
    hvalue, hrest, pure, Except.pure]

theorem readFields_next (hvalue : readValue room fuel cs = .ok (x, rest)) (hcs : skipSpace cs = cs)
    (hrest : skipSpace rest = ',' :: after) :
    readFields room (fuel + 1) m ((writtenString false k).toList ++ ':' :: ' ' :: cs) =
      readFields room fuel (OrderedMap.insert k x m) (skipSpace after) := by
  have hblank : skipSpace (' ' :: cs) = cs := hcs
  rw [toList_field]
  simp only [readFields, readString_written, bind, Except.bind, skipSpace_cons (c := ':') rfl, hblank,
    hvalue, hrest]

end Members

/-- The value is read as it was written, where at least as many values may stand in each other. -/
def IsReadBack (j : Json) : Prop :=
  ∀ {room room' level fuel : Nat} {rest : List Char}, j.unwritable? room = none → room ≤ room' →
    Ends rest → 2 * ((write .file level j).toList ++ rest).length < fuel →
    readValue room' fuel ((write .file level j).toList ++ rest) = .ok (j, rest)

section Members

variable {room room' level outer : Nat} {rest : List Char} (hroom : room ≤ room')

include hroom

theorem readItems_write {xs : List Json} (hread : ∀ x ∈ xs, x.IsReadBack)
    (hplain : ∀ x ∈ xs, x.isPlain = true) (hwritable : ∀ x ∈ xs, x.unwritable? room = none)
    (hne : xs ≠ []) (seen : List Json) {fuel : Nat}
    (hfuel : 2 * (between level (writeItems .file level xs) ++
      ((Layout.file.lineBreak outer).toList ++ ']' :: rest)).length + 1 < fuel) :
    readItems room' fuel seen (between level (writeItems .file level xs) ++
      ((Layout.file.lineBreak outer).toList ++ ']' :: rest)) =
      .ok (.array (seen.reverse ++ xs), rest) := by
  induction xs generalizing seen fuel with
  | nil => exact absurd rfl hne
  | cons x xs ih =>
    obtain ⟨hx, hxs⟩ := List.forall_mem_cons.1 hread
    obtain ⟨hpx, hpxs⟩ := List.forall_mem_cons.1 hplain
    obtain ⟨hwx, hwxs⟩ := List.forall_mem_cons.1 hwritable
    cases fuel with
    | zero => omega
    | succ fuel =>
      cases xs with
      | nil =>
        simp only [writeItems, between_singleton] at hfuel ⊢
        rw [← List.reverse_cons]
        apply readItems_last seen
        · exact hx hwx hroom (ends_lineBreak _ _) (by omega)
        · rw [skipSpace_lineBreak, skipSpace_cons rfl]
      | cons y ys =>
        simp only [between_writeItems, List.append_assoc, List.cons_append] at hfuel ⊢
        apply Eq.trans (readItems_next seen (hx hwx hroom (ends_comma _) (by omega))
          (skipSpace_cons rfl _))
        rw [skipSpace_lineBreak, skipSpace_items (hpxs y (List.mem_cons_self ..)),
          List.append_cons seen.reverse, ← List.reverse_cons]
        apply ih hxs hpxs hwxs (by simp)
        simp only [List.length_append, List.length_cons] at hfuel ⊢
        omega

theorem readFields_write {fs : List (String × Json)} (hread : ∀ f ∈ fs, f.2.IsReadBack)
    (hplain : ∀ f ∈ fs, f.2.isPlain = true) (hwritable : ∀ f ∈ fs, f.2.unwritable? room = none)
    (hne : fs ≠ []) (m : List (String × Json)) (hkeys : (OrderedMap.keys (m ++ fs)).Nodup)
    {fuel : Nat} (hfuel : 2 * (between level (writeFields .file level fs) ++
      ((Layout.file.lineBreak outer).toList ++ '\x7d' :: rest)).length + 1 < fuel) :
    readFields room' fuel m (between level (writeFields .file level fs) ++
      ((Layout.file.lineBreak outer).toList ++ '\x7d' :: rest)) = .ok (.object (m ++ fs), rest) := by
  induction fs generalizing m fuel with
  | nil => exact absurd rfl hne
  | cons f fs ih =>
    obtain ⟨hx, hxs⟩ := List.forall_mem_cons.1 hread
    obtain ⟨hpx, hpxs⟩ := List.forall_mem_cons.1 hplain
    obtain ⟨hwx, hwxs⟩ := List.forall_mem_cons.1 hwritable
    have hput : OrderedMap.insert f.1 f.2 m = m ++ [f] := by
      apply OrderedMap.insert_of_not_mem
      intro hmem
      simp only [OrderedMap.keys, List.map_append, List.map_cons] at hkeys hmem
      exact (List.nodup_append.1 hkeys).2.2 f.1 hmem f.1 (List.mem_cons_self ..) rfl
    cases fuel with
    | zero => omega
    | succ fuel =>
      cases fs with
      | nil =>
        simp only [between_writeField, List.append_assoc, List.cons_append] at hfuel ⊢
        rw [← hput]
        apply readFields_last
        · apply hx hwx hroom (ends_lineBreak _ _)
          simp only [List.length_append, List.length_cons] at hfuel ⊢
          omega
        · exact skipSpace_write hpx level _
        · rw [skipSpace_lineBreak, skipSpace_cons rfl]
      | cons g gs =>
        simp only [between_writeFields, List.append_assoc, List.cons_append] at hfuel ⊢
        apply Eq.trans (readFields_next f.1 m (hx hwx hroom (ends_comma _) (by
          simp only [List.length_append, List.length_cons] at hfuel ⊢
          omega)) (skipSpace_write hpx level _) (skipSpace_cons rfl _))
        rw [skipSpace_lineBreak, skipSpace_fields, List.append_cons m, hput]
        apply ih hxs hpxs hwxs (by simp)
        · rwa [← List.append_cons]
        · simp only [List.length_append, List.length_cons] at hfuel ⊢
          omega

end Members

theorem isReadBack_array {xs : List Json} (hread : ∀ x ∈ xs, x.IsReadBack)
    (hplain : ∀ x ∈ xs, x.isPlain = true) : IsReadBack (.array xs) := by
  intro room room' level fuel rest hwritable hroom hrest hfuel
  simp only [unwritable?] at hwritable
  split at hwritable
  · cases hwritable
  · next hpos =>
    rw [unwritableItem?_eq_none] at hwritable
    cases fuel with
    | zero => omega
    | succ fuel =>
      cases xs with
      | nil => simp [write, readValue, show ¬ room' = 0 by omega, skipSpace_cons (c := ']') rfl]
      | cons x xs =>
        have hx := hplain x (List.mem_cons_self ..)
        obtain ⟨c, cs, hcs, -, hc⟩ := exists_cons_items hx (level + 1) xs
        rw [toList_write_array] at hfuel ⊢
        simp only [List.cons_append, List.append_assoc, List.nil_append] at hfuel ⊢
        rw [readValue_array (by omega) ((skipSpace_lineBreak ..).trans (skipSpace_items hx ..))
          (by simp [hcs, hc])]
        apply readItems_write (by omega) hread hplain hwritable (by simp)
        simp only [List.length_append, List.length_cons] at hfuel ⊢
        omega

theorem isReadBack_object {fs : List (String × Json)} (hread : ∀ f ∈ fs, f.2.IsReadBack)
    (hplain : ∀ f ∈ fs, f.2.isPlain = true) (hkeys : (OrderedMap.keys fs).Nodup) :
    IsReadBack (.object fs) := by
  intro room room' level fuel rest hwritable hroom hrest hfuel
  simp only [unwritable?] at hwritable
  split at hwritable
  · cases hwritable
  · next hpos =>
    rw [unwritableField?_eq_none] at hwritable
    cases fuel with
    | zero => omega
    | succ fuel =>
      cases fs with
      | nil => simp [write, readValue, show ¬ room' = 0 by omega, skipSpace_cons (c := '\x7d') rfl]
      | cons f fs =>
        obtain ⟨cs, hcs⟩ := exists_cons_fields (level + 1) f fs
        rw [toList_write_object] at hfuel ⊢
        simp only [List.cons_append, List.append_assoc, List.nil_append] at hfuel ⊢
        rw [readValue_object (by omega) ((skipSpace_lineBreak ..).trans (skipSpace_fields ..))
          (by simp [hcs])]
        apply readFields_write (by omega) hread hplain hwritable (by simp) [] hkeys
        simp only [List.length_append, List.length_cons] at hfuel ⊢
        omega

theorem isReadBack {j : Json} (hplain : j.isPlain = true) : j.IsReadBack := by
  induction j using memberwise with
  | null =>
    intro room room' level fuel rest _ _ _ hfuel
    obtain ⟨fuel, rfl⟩ := Nat.exists_eq_add_of_lt hfuel
    simpa only [write] using readValue_null room' _ rest
  | bool b =>
    intro room room' level fuel rest _ _ _ hfuel
    obtain ⟨fuel, rfl⟩ := Nat.exists_eq_add_of_lt hfuel
    simpa only [write] using readValue_bool room' _ rest b
  | int n =>
    intro room room' level fuel rest hwritable _ hrest hfuel
    obtain ⟨fuel, rfl⟩ := Nat.exists_eq_add_of_lt hfuel
    have hlong : Decimal.isLong n = false := by simpa [unwritable?] using hwritable
    simpa only [write] using readValue_int room' _ hlong hrest
  | float x => simp [isPlain] at hplain
  | str s =>
    intro room room' level fuel rest _ _ _ hfuel
    obtain ⟨fuel, rfl⟩ := Nat.exists_eq_add_of_lt hfuel
    simpa only [write, Layout.file] using readValue_string room' _ rest s
  | array xs ih =>
    rw [isPlain, arePlain_iff] at hplain
    exact isReadBack_array (fun x hx => ih x hx (hplain x hx)) hplain
  | object fs ih =>
    rw [isPlain, Bool.and_eq_true, decide_eq_true_iff, haveFieldsPlain_iff] at hplain
    exact isReadBack_object (fun f hf => ih f hf (hplain.2 f hf)) hplain.2 hplain.1

/-- What is written into a file is read from its text. -/
theorem read_toFile {j : Json} (hplain : j.isPlain = true)
    (hwritable : j.unwritable? deepestWritten = none) : read (toFile j) = .ok j := by
  obtain ⟨c, cs, hcs, hspace, -, hmark⟩ := exists_cons_write hplain 0
  have hvalue : readValue deepestNesting (2 * (c :: cs).length + 2)
      ((write .file 0 j).toList ++ []) = .ok (j, []) := by
    apply isReadBack hplain hwritable _ ends_nil
    · rw [List.append_nil, hcs]
      omega
    · decide
  rw [List.append_nil, hcs] at hvalue
  have hdocument : readDocument (c :: cs) = .ok j := by
    have hend : skipSpace [] = [] := rfl
    simp only [readDocument, skipSpace_cons hspace, hvalue, bind, Except.bind, hend]
    simp [hmark, pure, Except.pure]
  rw [read, toFile, hcs, hdocument]

section Keys

variable {room fuel : Nat} {cs rest : List Char} {v : Json} {seen fs : List (String × Json)}
  {xs : List Json}

theorem exists_of_bind {ε α β : Type} {x : Except ε α} {f : α → Except ε β} {b : β}
    (h : x >>= f = .ok b) : ∃ a, x = .ok a ∧ f a = .ok b := by
  cases x with
  | error e => cases h
  | ok a => exact ⟨a, rfl, h⟩

theorem exists_object_of_readFields (h : readFields room fuel seen cs = .ok (v, rest))
    (hseen : (OrderedMap.keys seen).Nodup) : ∃ fs, v = .object fs ∧ (OrderedMap.keys fs).Nodup := by
  induction fuel generalizing seen cs with
  | zero => cases h
  | succ fuel ih =>
    unfold readFields at h
    split at h
    · obtain ⟨⟨k, behind⟩, -, h⟩ := exists_of_bind h
      simp only at h
      split at h
      · obtain ⟨⟨x, behind⟩, -, h⟩ := exists_of_bind h
        simp only at h
        have hnext := OrderedMap.nodup_keys_insert k x hseen
        split at h
        · cases h
          exact ⟨_, rfl, hnext⟩
        · exact ih h hnext
        · cases h
      · cases h
    · cases h

theorem exists_array_of_readItems (h : readItems room fuel xs cs = .ok (v, rest)) :
    ∃ ys, v = .array ys := by
  induction fuel generalizing xs cs with
  | zero => cases h
  | succ fuel ih =>
    unfold readItems at h
    obtain ⟨⟨x, behind⟩, -, h⟩ := exists_of_bind h
    simp only at h
    split at h
    · cases h
      exact ⟨_, rfl⟩
    · exact ih h
    · cases h

theorem readNumber_ne_object : readNumber cs ≠ .ok (.object fs, rest) := by
  intro h
  unfold readNumber at h
  split at h
  extract_lets at h
  split at h
  · cases h
  · split at h
    split at h
    · split at h <;> cases h
    · cases h

theorem readNamed?_ne_object : readNamed? cs ≠ some (.object fs, rest) := by
  intro h
  obtain ⟨e, he, hfound⟩ := List.exists_of_findSome?_eq_some h
  have hall : ∀ e ∈ namedValues, ∀ fs, e.2 ≠ .object fs := by
    simp [namedValues]
  simp only [Option.ite_none_right_eq_some, Option.some.injEq, Prod.mk.injEq] at hfound
  exact hall e he fs hfound.2.1

theorem nodup_of_readValue (h : readValue room fuel cs = .ok (.object fs, rest)) :
    (OrderedMap.keys fs).Nodup := by
  cases fuel with
  | zero => cases h
  | succ fuel =>
    unfold readValue at h
    split at h
    · cases h
    · obtain ⟨⟨s, behind⟩, -, h⟩ := exists_of_bind h
      cases h
    · split at h
      · cases h
      · split at h
        · cases h
        · obtain ⟨ys, hys⟩ := exists_array_of_readItems h
          cases hys
    · split at h
      · cases h
      · split at h
        · cases h
          exact List.nodup_nil
        · obtain ⟨gs, hgs, hkeys⟩ := exists_object_of_readFields h List.nodup_nil
          cases hgs
          exact hkeys
    · split at h
      · next r hnamed =>
        cases h
        exact absurd hnamed readNamed?_ne_object
      · exact absurd h readNumber_ne_object

theorem nodup_of_read {s : String} (h : read s = .ok (.object fs)) : (OrderedMap.keys fs).Nodup := by
  have hread : readDocument s.toList = .ok (.object fs) := by
    unfold read at h
    simp only at h
    split at h
    · next hread =>
      cases h
      exact hread
    · cases h
  unfold readDocument at hread
  split at hread
  · cases hread
  · obtain ⟨⟨v, rest⟩, hvalue, hread⟩ := exists_of_bind hread
    simp only at hread
    split at hread
    · cases hread
      exact nodup_of_readValue hvalue
    · cases hread

end Keys

end GoScaffold.Json
