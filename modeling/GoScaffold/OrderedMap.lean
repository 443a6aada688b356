/-!
# Maps in order of first insertion

A map is a list of entries. A new key goes to the end; a key that is there already keeps its place
and takes the new value.
-/
namespace GoScaffold.OrderedMap

variable {κ ν : Type} [DecidableEq κ]

def get? (k : κ) : List (κ × ν) → Option ν
  | [] => none
  | (k', v) :: m => if k' = k then some v else get? k m

def insert (k : κ) (v : ν) : List (κ × ν) → List (κ × ν)
  | [] => [(k, v)]
  | (k', v') :: m => if k' = k then (k, v) :: m else (k', v') :: insert k v m

def erase (k : κ) : List (κ × ν) → List (κ × ν)
  | [] => []
  | (k', v') :: m => if k' = k then erase k m else (k', v') :: erase k m

def keys (m : List (κ × ν)) : List κ := m.map (·.1)

/-- The first map with the entries of the second put in one after another. -/
def insertAll (m : List (κ × ν)) (entries : List (κ × ν)) : List (κ × ν) :=
  entries.foldl (fun m e => insert e.1 e.2 m) m

def contains (k : κ) (m : List (κ × ν)) : Bool := (get? k m).isSome

theorem mem_of_get? {k : κ} {v : ν} {m : List (κ × ν)} (h : get? k m = some v) : (k, v) ∈ m := by
  induction m with
  | nil => cases h
  | cons e m ih =>
    rw [get?] at h
    split at h
    · next he =>
      obtain rfl := Option.some.inj h
      exact he ▸ List.mem_cons_self ..
    · exact List.mem_cons_of_mem _ (ih h)

theorem get?_append_cons {k : κ} {above : List (κ × ν)} (h : k ∉ keys above) (v : ν)
    (below : List (κ × ν)) : get? k (above ++ (k, v) :: below) = some v := by
  induction above with
  | nil => simp [get?]
  | cons e above ih =>
    simp only [keys, List.map_cons, List.mem_cons, not_or] at h ih
    rw [List.cons_append, get?, if_neg (Ne.symm h.1), ih h.2]

theorem get?_insert (k k' : κ) (v : ν) (m : List (κ × ν)) :
    get? k' (insert k v m) = if k = k' then some v else get? k' m := by
  induction m with
  | nil => simp [insert, get?]
  | cons e m ih =>
    by_cases h : e.1 = k
    · subst h; by_cases h' : e.1 = k' <;> simp [insert, get?, h']
    · by_cases h' : e.1 = k'
      · subst h'; simp [insert, get?, h, Ne.symm h]
      · simp [insert, get?, h, h', ih]

theorem get?_erase (k k' : κ) (m : List (κ × ν)) :
    get? k' (erase k m) = if k = k' then none else get? k' m := by
  induction m with
  | nil => simp [erase, get?]
  | cons e m ih =>
    by_cases h : e.1 = k
    · subst h
      by_cases h' : e.1 = k'
      · simpa [erase, h'] using ih
      · simp [erase, get?, h', ih]
    · by_cases h' : e.1 = k'
      · subst h'; simp [erase, get?, h, Ne.symm h]
      · simp [erase, get?, h, h', ih]

theorem keys_insert (k : κ) (v : ν) (m : List (κ × ν)) :
    keys (insert k v m) = if k ∈ keys m then keys m else keys m ++ [k] := by
  induction m with
  | nil => simp [insert, keys]
  | cons e m ih =>
    by_cases h : e.1 = k
    · simp [insert, keys, h]
    · have ih' : List.map (·.1) (insert k v m) = _ := ih
      by_cases hk : k ∈ keys m <;> simp_all [insert, keys, Ne.symm h]

theorem nodup_keys_insert (k : κ) (v : ν) {m : List (κ × ν)} (h : (keys m).Nodup) :
    (keys (insert k v m)).Nodup := by
  rw [keys_insert]
  split
  · exact h
  · next hk =>
    refine List.nodup_append.2 ⟨h, by simp, fun a ha b hb => ?_⟩
    rintro rfl
    exact hk (List.mem_singleton.1 hb ▸ ha)

end GoScaffold.OrderedMap
