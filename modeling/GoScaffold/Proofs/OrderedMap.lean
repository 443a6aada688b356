import GoScaffold.OrderedMap
import GoScaffold.Proofs.Sequence

/-!
# Keys of ordered maps

Which keys a map has, and which entries, after one has been put in or struck.
-/
namespace GoScaffold.OrderedMap

variable {κ ν : Type} [DecidableEq κ] {k k' : κ} {v : ν} {m : List (κ × ν)}

theorem contains_iff_mem_keys : contains k m = true ↔ k ∈ keys m := by
  induction m with
  | nil => simp [contains, get?, keys]
  | cons e m ih =>
    by_cases h : e.1 = k
    · simp [contains, get?, keys, h]
    · simpa [contains, get?, keys, h, Ne.symm h] using ih

theorem mem_keys_insert : k' ∈ keys (insert k v m) ↔ k' = k ∨ k' ∈ keys m := by
  rw [keys_insert]
  split
  · next h =>
    constructor
    · exact Or.inr
    · rintro (rfl | h')
      · exact h
      · exact h'
  · simp [or_comm]

theorem mem_keys_erase : k' ∈ keys (erase k m) ↔ k' ≠ k ∧ k' ∈ keys m := by
  rw [← contains_iff_mem_keys, ← contains_iff_mem_keys, contains, contains, get?_erase]
  by_cases h : k = k'
  · simp [h]
  · simp [h, Ne.symm h]

theorem nodup_keys_erase (h : (keys m).Nodup) : (keys (erase k m)).Nodup := by
  induction m with
  | nil => exact h
  | cons e m ih =>
    rw [keys, List.map_cons, List.nodup_cons] at h
    rw [erase]
    split
    · exact ih h.2
    · rw [keys, List.map_cons, List.nodup_cons]
      exact ⟨fun hmem => h.1 (mem_keys_erase.1 hmem).2, ih h.2⟩

theorem get?_append (m' : List (κ × ν)) :
    get? k (m ++ m') = (get? k m).or (get? k m') := by
  induction m with
  | nil => rfl
  | cons e m ih =>
    by_cases h : e.1 = k
    · simp [get?, h]
    · simpa [get?, h] using ih

theorem eq_or_mem_of_mem_insert {e : κ × ν} (h : e ∈ insert k v m) : e = (k, v) ∨ e ∈ m := by
  induction m with
  | nil => simpa [insert] using h
  | cons e' m ih =>
    rw [insert] at h
    split at h
    · rcases List.mem_cons.1 h with rfl | h
      · exact Or.inl rfl
      · exact Or.inr (List.mem_cons_of_mem _ h)
    · rcases List.mem_cons.1 h with rfl | h
      · exact Or.inr (List.mem_cons_self ..)
      · exact (ih h).imp_right (List.mem_cons_of_mem _)

theorem insert_of_not_mem (h : k ∉ keys m) (v : ν) : insert k v m = m ++ [(k, v)] := by
  induction m with
  | nil => rfl
  | cons e m ih =>
    simp only [keys, List.map_cons, List.mem_cons, not_or] at h
    rw [insert, if_neg (Ne.symm h.1), ih h.2, List.cons_append]

theorem insert_insert (v v' : ν) : insert k v' (insert k v m) = insert k v' m := by
  induction m with
  | nil => simp [insert]
  | cons e m ih => by_cases h : e.1 = k <;> simp [insert, h, ih]

theorem erase_of_not_mem (h : k ∉ keys m) : erase k m = m := by
  induction m with
  | nil => rfl
  | cons e m ih =>
    simp only [keys, List.map_cons, List.mem_cons, not_or] at h
    rw [erase, if_neg (Ne.symm h.1), ih h.2]

theorem erase_append (m' : List (κ × ν)) : erase k (m ++ m') = erase k m ++ erase k m' := by
  induction m with
  | nil => rfl
  | cons e m ih => by_cases h : e.1 = k <;> simp [erase, h, ih]

theorem insertAll_next (m : List (κ × ν)) (e : κ × ν) (entries : List (κ × ν)) :
    insertAll m (e :: entries) = insertAll (insert e.1 e.2 m) entries := rfl

theorem insertAll_of_nodup {entries : List (κ × ν)} (h : (keys (m ++ entries)).Nodup) :
    insertAll m entries = m ++ entries := by
  induction entries generalizing m with
  | nil => simp [insertAll]
  | cons e entries ih =>
    have hk : e.1 ∉ keys m := by
      simp only [keys, List.map_append, List.map_cons] at h ⊢
      intro hmem
      exact (List.nodup_append.1 h).2.2 e.1 hmem e.1 (by simp) rfl
    rw [insertAll_next, insert_of_not_mem hk, ih (by simpa using h), List.append_assoc,
      List.singleton_append]

theorem get?_of_mem (hm : (keys m).Nodup) (h : (k, v) ∈ m) : get? k m = some v := by
  induction m with
  | nil => cases h
  | cons e m ih =>
    rw [keys, List.map_cons, List.nodup_cons] at hm
    rcases List.mem_cons.1 h with rfl | h
    · rw [get?, if_pos rfl]
    · have hne : e.1 ≠ k := by
        rintro rfl
        exact hm.1 (List.mem_map.2 ⟨(e.1, v), h, rfl⟩)
      rw [get?, if_neg hne, ih hm.2 h]

theorem get?_eq_none_iff : get? k m = none ↔ k ∉ keys m := by
  rw [← contains_iff_mem_keys, contains]
  cases get? k m <;> simp

theorem get?_filter (p : κ → Bool) :
    get? k (m.filter fun e => p e.1) = if p k then get? k m else none := by
  induction m with
  | nil => simp [get?]
  | cons e m ih =>
    by_cases hk : e.1 = k
    · subst hk
      by_cases hp : p e.1 = true
      · simp [get?, hp]
      · simp [hp, ih]
    · by_cases hp : p e.1 = true
      · simp [get?, hp, hk, ih]
      · simp [get?, hp, hk, ih]

theorem get?_foldl_insert (k : κ) (ks : List κ) (v : ν) (m : List (κ × ν)) :
    get? k (ks.foldl (fun m k => insert k v m) m) = if k ∈ ks then some v else get? k m := by
  induction ks generalizing m with
  | nil => rfl
  | cons k' ks ih =>
    rw [List.foldl_cons, ih, get?_insert]
    by_cases hk : k ∈ ks
    · simp [hk]
    · simp [hk, eq_comm]

theorem keys_foldl_insert {xs : List κ} (ks : List κ) (v : ν) (hm : keys m = xs.eraseDups) :
    keys (ks.foldl (fun m k => insert k v m) m) = (xs ++ ks).eraseDups := by
  induction ks generalizing m xs with
  | nil => simpa using hm
  | cons k ks ih =>
    have hk : keys (insert k v m) = (xs ++ [k]).eraseDups := by
      rw [keys_insert, hm, eraseDups_concat]
      simp only [List.mem_eraseDups]
    rw [List.foldl_cons, ih hk, List.append_assoc, List.singleton_append]

theorem nodup_keys_insertAll {entries : List (κ × ν)} (h : (keys m).Nodup) :
    (keys (insertAll m entries)).Nodup := by
  induction entries generalizing m with
  | nil => exact h
  | cons e entries ih => exact ih (nodup_keys_insert e.1 e.2 h)

theorem mem_or_mem_of_mem_insertAll {e : κ × ν} {entries : List (κ × ν)}
    (h : e ∈ insertAll m entries) : e ∈ m ∨ e ∈ entries := by
  induction entries generalizing m with
  | nil => exact Or.inl h
  | cons e' entries ih =>
    rcases ih h with hm | hentries
    · rcases eq_or_mem_of_mem_insert hm with rfl | hm
      · exact Or.inr (List.mem_cons_self ..)
      · exact Or.inl hm
    · exact Or.inr (List.mem_cons_of_mem _ hentries)

/-- The entries that were put in win. -/
theorem get?_insertAll {entries : List (κ × ν)} (h : (keys entries).Nodup) :
    get? k (insertAll m entries) = (get? k entries).or (get? k m) := by
  induction entries generalizing m with
  | nil => rfl
  | cons e entries ih =>
    rw [keys, List.map_cons, List.nodup_cons] at h
    rw [insertAll_next, ih h.2, get?_insert, get?]
    by_cases hk : e.1 = k
    · subst hk
      rw [if_pos rfl, if_pos rfl, get?_eq_none_iff.2 h.1]
      rfl
    · rw [if_neg hk, if_neg hk]

theorem get?_insertAll_or (k : κ) (m entries : List (κ × ν)) :
    get? k (insertAll m entries) = (get? k (insertAll [] entries)).or (get? k m) := by
  induction entries generalizing m with
  | nil => rfl
  | cons e entries ih =>
    rw [insertAll_next, insertAll_next, ih, ih (insert e.1 e.2 []), get?_insert, get?_insert,
      Option.or_assoc]
    split <;> rfl

theorem insertAll_cons {entries : List (κ × ν)} (h : k ∉ keys entries) :
    insertAll ((k, v) :: m) entries = (k, v) :: insertAll m entries := by
  induction entries generalizing m with
  | nil => rfl
  | cons e entries ih =>
    rw [keys, List.map_cons, List.mem_cons, not_or] at h
    rw [insertAll_next, insertAll_next, insert, if_neg h.1, ih h.2]

/-- Entries with the keys of a map, in their order, take its place. -/
theorem insertAll_of_keys_eq {entries : List (κ × ν)} (hkeys : keys m = keys entries)
    (h : (keys entries).Nodup) : insertAll m entries = entries := by
  induction entries generalizing m with
  | nil => simpa [keys, insertAll] using hkeys
  | cons e entries ih =>
    cases m with
    | nil => simp [keys] at hkeys
    | cons e' m =>
      simp only [keys, List.map_cons, List.cons.injEq] at hkeys
      rw [keys, List.map_cons, List.nodup_cons] at h
      rw [insertAll_next, insert, if_pos hkeys.1, insertAll_cons h.1, ih hkeys.2 h.2]

/-- With keys of their own, entries are found among those with some property where they have it. -/
theorem get?_filter_of_nodup (h : (keys m).Nodup) (p : κ × ν → Bool) :
    get? k (m.filter p) = (get? k m).filter fun v => p (k, v) := by
  induction m with
  | nil => rfl
  | cons e m ih =>
    rw [keys, List.map_cons, List.nodup_cons] at h
    rw [List.filter_cons]
    by_cases hk : e.1 = k
    · subst hk
      have hnone : get? e.1 m = none := get?_eq_none_iff.2 h.1
      split
      · next hp => simp [get?, Option.filter, hp]
      · next hp => simp [get?, Option.filter, hp, ih h.2, hnone]
    · split
      · rw [get?, get?, if_neg hk, if_neg hk, ih h.2]
      · rw [get?, if_neg hk, ih h.2]

theorem filter_insert (p : κ → Bool) : (insert k v m).filter (fun e => p e.1) =
    if p k then insert k v (m.filter fun e => p e.1) else m.filter fun e => p e.1 := by
  induction m with
  | nil => cases hp : p k <;> simp [insert, hp]
  | cons e m ih =>
    by_cases hk : e.1 = k
    · subst hk
      cases hp : p e.1 <;> simp [insert, hp]
    · cases hp : p k <;> cases he : p e.1 <;> simp_all [insert]

theorem filter_insertAll (p : κ → Bool) (entries : List (κ × ν)) :
    (insertAll m entries).filter (fun e => p e.1) =
      insertAll (m.filter fun e => p e.1) (entries.filter fun e => p e.1) := by
  induction entries generalizing m with
  | nil => rfl
  | cons e entries ih =>
    rw [insertAll_next, ih, filter_insert, List.filter_cons]
    split <;> rfl

/-- A key that is there already can be given its value before or after another key. -/
theorem insert_comm {v' : ν} (hk : k ≠ k') (hmem : k ∈ keys m) :
    insert k v (insert k' v' m) = insert k' v' (insert k v m) := by
  induction m with
  | nil => simp [keys] at hmem
  | cons e m ih =>
    by_cases hek : e.1 = k
    · simp [insert, hek, hk]
    · have hmem : k ∈ keys m := by simpa [keys, Ne.symm hek] using hmem
      by_cases hek' : e.1 = k'
      · simp [insert, hek', Ne.symm hk]
      · simp [insert, hek, hek', ih hmem]

theorem insert_insertAll {entries : List (κ × ν)} (hk : k ∉ keys entries) (hmem : k ∈ keys m) :
    insert k v (insertAll m entries) = insertAll (insert k v m) entries := by
  induction entries generalizing m with
  | nil => rfl
  | cons e entries ih =>
    rw [keys, List.map_cons, List.mem_cons, not_or] at hk
    rw [insertAll_next, insertAll_next, ih hk.2 (mem_keys_insert.2 (Or.inr hmem)), insert_comm hk.1 hmem]

theorem insertAll_insert {entries : List (κ × ν)} (h : (keys entries).Nodup) :
    insertAll m (insert k v entries) = insert k v (insertAll m entries) := by
  induction entries generalizing m with
  | nil => rfl
  | cons e entries ih =>
    rw [keys, List.map_cons, List.nodup_cons] at h
    rw [insert]
    split
    · next hk =>
      subst hk
      rw [insertAll_next, insertAll_next, insert_insertAll h.1 (mem_keys_insert.2 (Or.inl rfl)),
        insert_insert]
    · rw [insertAll_next, insertAll_next, ih h.2]

theorem insertAll_insertAll {entries : List (κ × ν)} (h : (keys entries).Nodup)
    (more : List (κ × ν)) :
    insertAll m (insertAll entries more) = insertAll (insertAll m entries) more := by
  induction more generalizing entries with
  | nil => rfl
  | cons e more ih =>
    rw [insertAll_next, insertAll_next, ih (nodup_keys_insert _ _ h), insertAll_insert h]

end GoScaffold.OrderedMap
