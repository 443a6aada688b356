import GoScaffold.Proofs.OrderedMap
import GoScaffold.Proofs.Workspace.Refused

/-!
# What writes leave alone

A write touches a few places, whether or not it goes through: it makes directories where nothing
was, puts the whole text at its path, and leaves nothing under its temporary name. So do many. Every
write gives its file a time that no file had before, so that a file that still has the time of its last
write is the file that was there, whatever else has been written and removed since.
-/
namespace GoScaffold

open GoScaffold.Text

namespace Tree

/-- The tree after some writes, of which each may have been refused. -/
structure IsAfterWrites (t t' : Tree) (writes : List (Path × String)) : Prop where
  clock : t.clock ≤ t'.clock
  process : t'.process = t.process
  directory : ∀ l, t.entry? l = some .directory → t'.entry? l = some .directory
  entry : ∀ l, t'.entry? l = t.entry? l ∨
    t.entry? l = none ∧ t'.entry? l = some .directory ∨
    (∃ w ∈ writes, t'.locate w.1 = .ok l ∧ ∃ stamp, t.clock < stamp ∧ stamp ≤ t'.clock ∧
      t'.entry? l = some (.file w.2.toUTF8 stamp)) ∨
    ∃ w ∈ writes, t'.locate (t.temporary w.1) = .ok l ∧
      ∀ bytes stamp, t'.entry? l ≠ some (.file bytes stamp)

namespace IsAfterWrites

variable {t t' t'' : Tree} {writes writes' : List (Path × String)}

theorem refl (t : Tree) : t.IsAfterWrites t [] :=
  ⟨Nat.le_refl _, rfl, fun _ h => h, fun _ => Or.inl rfl⟩

theorem mono (h : t.IsAfterWrites t' writes) (hsub : writes ⊆ writes') :
    t.IsAfterWrites t' writes' := by
  refine ⟨h.clock, h.process, h.directory, ?_⟩
  intro l
  rcases h.entry l with h | h | ⟨w, hw, h⟩ | ⟨w, hw, h⟩
  · exact Or.inl h
  · exact Or.inr (Or.inl h)
  · exact Or.inr (Or.inr (Or.inl ⟨w, hsub hw, h⟩))
  · exact Or.inr (Or.inr (Or.inr ⟨w, hsub hw, h⟩))

/-- What later writes leave alone is as the earlier ones left it. -/
theorem trans (h : t.IsAfterWrites t' writes) (h' : t'.IsAfterWrites t'' writes') :
    t.IsAfterWrites t'' (writes ++ writes') := by
  refine ⟨Nat.le_trans h.clock h'.clock, h'.process.trans h.process,
    fun l hl => h'.directory l (h.directory l hl), ?_⟩
  intro l
  rcases h'.entry l with hl' | ⟨hnone, hl'⟩ | ⟨w, hw, hloc, stamp, hlow, hhigh, hl'⟩ | ⟨w, hw, hl'⟩
  · rcases h.entry l with hl | ⟨hnone, hl⟩ | ⟨w, hw, hloc, stamp, hlow, hhigh, hl⟩ | ⟨w, hw, hloc, hl⟩
    · exact Or.inl (hl'.trans hl)
    · exact Or.inr (Or.inl ⟨hnone, hl'.trans hl⟩)
    · refine Or.inr (Or.inr (Or.inl ⟨w, List.mem_append_left _ hw,
        locate_congr h'.directory hloc, stamp, hlow, Nat.le_trans hhigh h'.clock, hl'.trans hl⟩))
    · refine Or.inr (Or.inr (Or.inr ⟨w, List.mem_append_left _ hw, locate_congr h'.directory hloc, ?_⟩))
      rw [hl']
      exact hl
  · rcases h.entry l with hl | ⟨-, hl⟩ | ⟨w, hw, hloc, stamp, hlow, hhigh, hl⟩ | ⟨w, hw, hloc, hl⟩
    · exact Or.inr (Or.inl ⟨hl ▸ hnone, hl'⟩)
    · rw [hnone] at hl
      cases hl
    · rw [hnone] at hl
      cases hl
    · refine Or.inr (Or.inr (Or.inr ⟨w, List.mem_append_left _ hw, locate_congr h'.directory hloc, ?_⟩))
      simp [hl']
  · exact Or.inr (Or.inr (Or.inl ⟨w, List.mem_append_right _ hw, hloc, stamp,
      Nat.lt_of_le_of_lt h.clock hlow, hhigh, hl'⟩))
  · rw [temporary_congr h.process] at hl'
    exact Or.inr (Or.inr (Or.inr ⟨w, List.mem_append_right _ hw, hl'⟩))

end IsAfterWrites

section Write

variable {t t' : Tree} {p : Path} {anchor : String}

theorem isAfterWrites_ensureDirectory (h : t.ensureDirectory p = .ok t') : t.IsAfterWrites t' [] := by
  rcases ensureDirectory_ok h with rfl | hmade
  · exact .refl t'
  · obtain ⟨l, -, hnone, rfl⟩ := makeDirectory_ok hmade
    refine ⟨Nat.le_refl _, rfl, ?_, ?_⟩
    · intro k hk
      rw [entry_set, hk]
      simp
    · intro k
      by_cases hk : l = k
      · subst hk
        refine Or.inr (Or.inl ⟨hnone, ?_⟩)
        rw [entry_set]
        simp
      · exact Or.inl (entry_set_of_ne hk _)

theorem isAfterWrites_makeDirectories (segments : List String) :
    t.IsAfterWrites (t.makeDirectories anchor segments).1 [] :=
  makeDirectories_induction (P := fun t' => t.IsAfterWrites t' [])
    (fun h hmade => h.trans (isAfterWrites_ensureDirectory hmade)) (.refl t) segments

theorem deleteFile_ok (h : t.deleteFile p = .ok t') :
    ∃ l bytes stamp, t.locate p = .ok l ∧ t.entry? l = some (.file bytes stamp) ∧ t' = t.remove l := by
  unfold deleteFile at h
  split at h
  · cases h
  · next l hl =>
    split at h
    · cases h
    · cases h
    · next bytes stamp he =>
      cases h
      exact ⟨l, bytes, stamp, hl, he, rfl⟩

theorem directory_remove {l : Location} (hl : t.entry? l ≠ some .directory) (k : Location)
    (h : t.entry? k = some .directory) : Tree.entry? (t.remove l) k = some .directory := by
  rw [entry_remove_of_ne _, h]
  intro heq
  exact hl (heq ▸ h)

theorem isAfterWrites_abandon (p : Path) (text : String) (e : FileError) :
    t.IsAfterWrites (t.abandon p e).1 [(p, text)] := by
  have hsame : t.IsAfterWrites t [(p, text)] := (IsAfterWrites.refl t).mono (List.nil_subset _)
  unfold abandon
  split
  · exact hsame
  · exact hsame
  · split
    · next hdeleted =>
      obtain ⟨l, bytes, stamp, hl, he, rfl⟩ := deleteFile_ok hdeleted
      have hfile : t.entry? l ≠ some .directory := by simp [he]
      refine ⟨Nat.le_refl _, rfl, directory_remove hfile, ?_⟩
      intro k
      by_cases hk : l = k
      · subst hk
        refine Or.inr (Or.inr (Or.inr ⟨_, List.mem_singleton_self _,
          locate_congr (directory_remove hfile) hl, ?_⟩))
        simp [entry_remove_self (not_isFixed hfile)]
      · exact Or.inl (entry_remove_of_ne hk)
    · exact hsame

/-- Behind the bytes under the temporary name, a write either has them at its path or gives up. -/
theorem isAfterWrites_replace {written : Tree} {text : String} (hzero : p.hasZero = false)
    (hwritten : t.writeBytes (t.temporary p) text.toUTF8 = .ok written) :
    (∀ e, t.IsAfterWrites (written.abandon p e).1 [(p, text)]) ∧
      ∀ moved, written.moveFile (t.temporary p) p = .ok moved → t.IsAfterWrites moved [(p, text)] := by
  obtain ⟨l, hl, hdirectory, rfl⟩ := writeBytes_ok hwritten
  have hkept := directory_put hdirectory text.toUTF8
  have hentry := entry_put_self (not_isFixed hdirectory) t text.toUTF8
  have hfile := entry_put_ne (not_isFixed hdirectory) t text.toUTF8
  have hlocate := locate_congr hkept hl
  constructor
  · -- the file under the temporary name is found and goes
    intro e
    have hremoved := directory_remove hfile
    rw [abandon_put hzero hl hdirectory]
    refine ⟨Nat.le_succ _, rfl, fun k hk => hremoved k (hkept k hk), ?_⟩
    intro k
    by_cases hk : l = k
    · subst hk
      refine Or.inr (Or.inr (Or.inr ⟨_, List.mem_singleton_self _, locate_congr hremoved hlocate, ?_⟩))
      simp [entry_remove_self (not_isFixed hfile)]
    · exact Or.inl ((entry_remove_of_ne hk).trans (entry_put_of_ne hk _))
  · intro moved hmove
    obtain ⟨-, l₁, l', e, hl₁, hl', he, hdirectory', rfl⟩ := moveFile_ok hmove
    obtain rfl := Except.ok.inj (hl₁.symm.trans hlocate)
    obtain rfl := Option.some.inj (he.symm.trans hentry)
    have hmoved := directory_move (e := .file text.toUTF8 (t.clock + 1)) hfile hdirectory'
    refine ⟨Nat.le_succ _, rfl, fun k hk => hmoved k (hkept k hk), ?_⟩
    intro k
    by_cases hk' : l' = k
    · subst hk'
      refine Or.inr (Or.inr (Or.inl ⟨_, List.mem_singleton_self _, locate_congr hmoved hl',
        t.clock + 1, Nat.lt_succ_self _, Nat.le_refl _, ?_⟩))
      exact entry_set_self (not_isFixed hdirectory') _ _
    · by_cases hk : l₁ = k
      · subst hk
        refine Or.inr (Or.inr (Or.inr ⟨_, List.mem_singleton_self _, locate_congr hmoved hlocate, ?_⟩))
        rw [entry_set_of_ne hk']
        simp [entry_remove_self (not_isFixed hfile)]
      · left
        rw [entry_set_of_ne hk', entry_remove_of_ne hk, entry_put_of_ne hk]

/-- A write of a text touches nothing else, even if it is refused. -/
theorem isAfterWrites_writeText (t : Tree) (p : Path) (text : String) :
    t.IsAfterWrites (t.writeText p text).1 [(p, text)] := by
  have hsame : t.IsAfterWrites t [(p, text)] := (IsAfterWrites.refl t).mono (List.nil_subset _)
  have hmade : t.IsAfterWrites (t.makeDirectories p.anchor p.parent.segments.reverse).1 [] :=
    isAfterWrites_makeDirectories _
  unfold writeText
  split
  · exact hsame
  · split
    · exact hsame
    · split
      · next made e hm =>
        rw [hm] at hmade
        exact hmade.trans (isAfterWrites_abandon p text e)
      · next made hm =>
        rw [hm] at hmade
        split
        · exact hmade.mono (List.nil_subset _)
        · next hzero =>
          have hzero : p.hasZero = false := by simpa using hzero
          split
          · next e he => exact hmade.trans (isAfterWrites_abandon p text e)
          · next written hwritten =>
            obtain ⟨habandon, hmove⟩ := isAfterWrites_replace hzero hwritten
            split
            · next e he => exact hmade.trans (habandon e)
            · next moved hm => exact hmade.trans (hmove moved hm)

end Write

/-- No file is from a later time than the clock shows. -/
def IsStamped (t : Tree) : Prop :=
  ∀ l bytes stamp, t.entry? l = some (.file bytes stamp) → stamp ≤ t.clock

/-- Every file of the second tree is one of the first, or has been written in between. -/
structure IsEditedTo (t t' : Tree) : Prop where
  clock : t.clock ≤ t'.clock
  file : ∀ l bytes stamp, t'.entry? l = some (.file bytes stamp) →
    t.entry? l = some (.file bytes stamp) ∨ t.clock < stamp ∧ stamp ≤ t'.clock

section Edits

variable {t t' t'' : Tree} {p : Path}

theorem IsEditedTo.refl (t : Tree) : t.IsEditedTo t := ⟨Nat.le_refl _, fun _ _ _ h => Or.inl h⟩

theorem IsEditedTo.trans (h : t.IsEditedTo t') (h' : t'.IsEditedTo t'') : t.IsEditedTo t'' := by
  refine ⟨Nat.le_trans h.clock h'.clock, ?_⟩
  intro l bytes stamp he
  rcases h'.file l bytes stamp he with he | ⟨hlow, hhigh⟩
  · rcases h.file l bytes stamp he with he | ⟨hlow, hhigh⟩
    · exact Or.inl he
    · exact Or.inr ⟨hlow, Nat.le_trans hhigh h'.clock⟩
  · exact Or.inr ⟨Nat.lt_of_le_of_lt h.clock hlow, hhigh⟩

theorem IsEditedTo.isStamped (h : t.IsEditedTo t') (hstamped : t.IsStamped) : t'.IsStamped := by
  intro l bytes stamp he
  rcases h.file l bytes stamp he with he | ⟨-, hhigh⟩
  · exact Nat.le_trans (hstamped l bytes stamp he) h.clock
  · exact hhigh

theorem IsAfterWrites.isEditedTo {writes : List (Path × String)}
    (h : t.IsAfterWrites t' writes) : t.IsEditedTo t' := by
  refine ⟨h.clock, ?_⟩
  intro l bytes stamp he
  rcases h.entry l with hl | ⟨-, hl⟩ | ⟨w, -, -, stamp', hlow, hhigh, hl⟩ | ⟨w, -, -, hl⟩
  · exact Or.inl (hl ▸ he)
  · rw [hl] at he
    cases he
  · rw [hl] at he
    cases he
    exact Or.inr ⟨hlow, hhigh⟩
  · exact absurd he (hl bytes stamp)

/-- A write is an edit, even if it is refused. -/
theorem isEditedTo_writeText (t : Tree) (p : Path) (text : String) :
    t.IsEditedTo (t.writeText p text).1 :=
  (isAfterWrites_writeText t p text).isEditedTo

/-- A path leads to the same place in any tree in which it leads anywhere. -/
theorem walk_unique {l x x' : Location} {segments : List String} (h : t.walk l segments = .ok x)
    (h' : t'.walk l segments = .ok x') : x = x' := by
  induction segments generalizing l with
  | nil => exact Except.ok.inj (h.symm.trans h')
  | cons s segments ih =>
    rw [walk] at h h'
    split at h
    · cases h
    · cases h
    · split at h'
      · cases h'
      · cases h'
      · by_cases hs : s = ".."
        · rw [if_pos hs] at h h'
          exact ih h h'
        · rw [if_neg hs] at h h'
          by_cases hlong : longestName < s.utf8ByteSize
          · rw [if_pos hlong] at h
            cases h
          · rw [if_neg hlong] at h h'
            exact ih h h'

/-- A file that has the time it had is the file that was there. -/
theorem IsEditedTo.bytes_eq (h : t.IsEditedTo t') (hstamped : t.IsStamped)
    {bytes bytes' : ByteArray} {stamp : Nat} (hfile : t.find p = .ok (.file bytes stamp))
    (hfile' : t'.find p = .ok (.file bytes' stamp)) : bytes' = bytes := by
  obtain ⟨l, hl, he⟩ := find_ok.1 hfile
  obtain ⟨l', hl', he'⟩ := find_ok.1 hfile'
  obtain rfl := walk_unique (locate_ok hl) (locate_ok hl')
  rcases h.file l bytes' stamp he' with hsame | ⟨hlow, -⟩
  · rw [he] at hsame
    cases hsame
    rfl
  · have hhigh := hstamped l bytes stamp he
    omega

end Edits

/-- No location is listed twice. -/
def IsDistinct (t : Tree) : Prop := (OrderedMap.keys t.entries).Nodup

section Distinct

variable {t t' : Tree} {l : Location}

theorem IsDistinct.set (h : t.IsDistinct) (l : Location) (e : Entry) :
    IsDistinct (Tree.set t l e) := OrderedMap.nodup_keys_insert l e h

theorem IsDistinct.put (h : t.IsDistinct) (l : Location) (bytes : ByteArray) :
    IsDistinct (Tree.put t l bytes) := OrderedMap.nodup_keys_insert l _ h

theorem IsDistinct.remove (h : t.IsDistinct) (l : Location) : IsDistinct (Tree.remove t l) :=
  OrderedMap.nodup_keys_erase h

theorem IsDistinct.ensureDirectory (h : t.IsDistinct) {p : Path}
    (hmade : t.ensureDirectory p = .ok t') : t'.IsDistinct := by
  rcases ensureDirectory_ok hmade with rfl | hmade
  · exact h
  · obtain ⟨l, -, -, rfl⟩ := makeDirectory_ok hmade
    exact h.set l .directory

theorem IsDistinct.writeText (h : t.IsDistinct) {p : Path} {text : String}
    (hwrite : t.writeText p text = (t', none)) : t'.IsDistinct := by
  obtain ⟨-, -, written, hwritten, hmoved⟩ := writeText_ok hwrite
  obtain ⟨l, -, -, rfl⟩ := writeBytes_ok hwritten
  obtain ⟨-, l₁, l', e, -, -, -, -, rfl⟩ := moveFile_ok hmoved
  have hmade : (t.makeDirectories p.anchor p.parent.segments.reverse).1.IsDistinct :=
    makeDirectories_induction (fun h hmade => h.ensureDirectory hmade) h _
  exact ((hmade.put l _).remove l₁).set l' e

end Distinct

end Tree

end GoScaffold
