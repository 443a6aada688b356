import GoScaffold.Proofs.Text.Lines
import GoScaffold.Workspace.Store

/-!
# Texts read back

A text that has been written into a store is read back as it is: from the drafts always, and from
the disk unless it holds a carriage return, which reading turns into a newline.
-/
namespace GoScaffold

open GoScaffold.Text

namespace Tree

/-- Behind directories that are kept a path leads where it did, or is too long as it was. -/
theorem walk_congr_of_ne {t t' : Tree}
    (h : ∀ l, t.entry? l = some .directory → t'.entry? l = some .directory)
    {l : Location} {segments : List String} {r : Except Refusal Location}
    (hw : t.walk l segments = r) (habsent : r ≠ .error .absent) (hfile : r ≠ .error .notDirectory) :
    t'.walk l segments = r := by
  induction segments generalizing l with
  | nil => exact hw
  | cons s segments ih =>
    cases he : t.entry? l with
    | none => exact absurd (by simp [← hw, walk, he]) habsent
    | some e =>
      cases e with
      | file bytes stamp => exact absurd (by simp [← hw, walk, he]) hfile
      | directory =>
        simp only [walk, he, h l he] at hw ⊢
        split at hw
        · next hs => rw [if_pos hs, ih hw]
        · next hs =>
          rw [if_neg hs]
          split at hw
          · next hlong => rw [if_pos hlong, hw]
          · next hshort => rw [if_neg hshort, ih hw]

/-- Two trees with the same directories lead a path to the same place. -/
theorem walk_congr {t t' : Tree}
    (h : ∀ l, t.entry? l = some .directory → t'.entry? l = some .directory)
    {l x : Location} {segments : List String} (hw : t.walk l segments = .ok x) :
    t'.walk l segments = .ok x :=
  walk_congr_of_ne h hw (by simp) (by simp)

theorem locate_congr_of_ne {t t' : Tree}
    (h : ∀ l, t.entry? l = some .directory → t'.entry? l = some .directory)
    {p : Path} {r : Except Refusal Location} (hl : t.locate p = r) (habsent : r ≠ .error .absent)
    (hfile : r ≠ .error .notDirectory) : t'.locate p = r := by
  unfold locate at hl ⊢
  split at hl
  · next hlong => rw [if_pos hlong, hl]
  · next hshort => rw [if_neg hshort, walk_congr_of_ne h hl habsent hfile]

theorem locate_congr {t t' : Tree}
    (h : ∀ l, t.entry? l = some .directory → t'.entry? l = some .directory)
    {p : Path} {x : Location} (hl : t.locate p = .ok x) : t'.locate p = .ok x :=
  locate_congr_of_ne h hl (by simp) (by simp)

theorem entry_set (t : Tree) (l l' : Location) (e : Entry) :
    Tree.entry? (t.set l e) l' =
      if isFixed l' then some .directory else if l = l' then some e else t.entry? l' := by
  by_cases hf : isFixed l' = true
  · simp [ entry?, hf]
  · simp [ entry?, hf, set, OrderedMap.get?_insert]

theorem entry_put (t : Tree) (l l' : Location) (bytes : ByteArray) :
    Tree.entry? (t.put l bytes) l' =
      if isFixed l' then some .directory
      else if l = l' then some (.file bytes (t.clock + 1)) else t.entry? l' := by
  by_cases hf : isFixed l' = true
  · simp [ entry?, hf]
  · simp [ entry?, hf, put, OrderedMap.get?_insert]

theorem entry_remove (t : Tree) (l l' : Location) :
    Tree.entry? (t.remove l) l' =
      if isFixed l' then some .directory else if l = l' then none else t.entry? l' := by
  by_cases hf : isFixed l' = true
  · simp [ entry?, hf]
  · simp [ entry?, hf, remove, OrderedMap.get?_erase]

theorem not_isFixed {t : Tree} {l : Location} (h : t.entry? l ≠ some .directory) :
    ¬ isFixed l = true := fun hf => h (by simp [ entry?, hf])

section Self

variable {l : Location} (h : ¬ isFixed l = true) (t : Tree)

include h

theorem entry_set_self (e : Entry) : Tree.entry? (t.set l e) l = some e := by
  rw [entry_set, if_neg h, if_pos rfl]

theorem entry_put_self (bytes : ByteArray) :
    Tree.entry? (t.put l bytes) l = some (.file bytes (t.clock + 1)) := by
  rw [entry_put, if_neg h, if_pos rfl]

theorem entry_remove_self : Tree.entry? (t.remove l) l = none := by
  rw [entry_remove, if_neg h, if_pos rfl]

theorem entry_put_ne (bytes : ByteArray) : Tree.entry? (t.put l bytes) l ≠ some .directory := by
  rw [entry_put_self h]
  simp

end Self

section Other

variable {t : Tree} {l k : Location} (h : l ≠ k)

include h

theorem entry_set_of_ne (e : Entry) : Tree.entry? (t.set l e) k = t.entry? k := by
  rw [entry_set, if_neg h]
  split
  · next hf => simp [ entry?, hf]
  · rfl

theorem entry_put_of_ne (bytes : ByteArray) : Tree.entry? (t.put l bytes) k = t.entry? k := by
  rw [entry_put, if_neg h]
  split
  · next hf => simp [ entry?, hf]
  · rfl

theorem entry_remove_of_ne : Tree.entry? (t.remove l) k = t.entry? k := by
  rw [entry_remove, if_neg h]
  split
  · next hf => simp [ entry?, hf]
  · rfl

end Other

theorem directory_put {t : Tree} {l : Location} (hl : t.entry? l ≠ some .directory)
    (bytes : ByteArray) (l' : Location) (h : t.entry? l' = some .directory) :
    Tree.entry? (t.put l bytes) l' = some .directory := by
  rw [entry_put]
  split
  · rfl
  · split
    · next he => exact absurd (he ▸ h) hl
    · exact h

theorem directory_move {t : Tree} {l l' : Location} {e : Entry}
    (hl : t.entry? l ≠ some .directory) (hl' : t.entry? l' ≠ some .directory) (k : Location)
    (h : t.entry? k = some .directory) :
    Tree.entry? ((t.remove l).set l' e) k = some .directory := by
  rw [entry_set, entry_remove]
  by_cases hf : isFixed k = true
  · simp [hf]
  · have hk : l ≠ k := fun he => hl (he ▸ h)
    have hk' : l' ≠ k := fun he => hl' (he ▸ h)
    simp [hf, hk, hk', h]

theorem makeDirectory_ok {t t' : Tree} {p : Path} (h : t.makeDirectory p = .ok t') :
    ∃ l, t.locate p = .ok l ∧ t.entry? l = none ∧ t' = t.set l .directory := by
  unfold makeDirectory at h
  split at h
  · cases h
  · next l hl =>
    split at h
    · cases h
    · next he =>
      cases h
      exact ⟨l, hl, he, rfl⟩

theorem ensureDirectory_ok {t t' : Tree} {p : Path} (h : t.ensureDirectory p = .ok t') :
    t' = t ∨ t.makeDirectory p = .ok t' := by
  unfold ensureDirectory at h
  split at h
  · next hm =>
    cases h
    exact Or.inr hm
  · split at h
    · cases h
    · split at h
      · cases h
        exact Or.inl rfl
      · cases h

theorem process_of_ensureDirectory {t t' : Tree} {p : Path} (h : t.ensureDirectory p = .ok t') :
    t'.process = t.process := by
  rcases ensureDirectory_ok h with rfl | hm
  · rfl
  · obtain ⟨l, -, -, rfl⟩ := makeDirectory_ok hm
    rfl

/-- What each directory that is made keeps, making directories keeps. -/
theorem makeDirectories_induction {t : Tree} {anchor : String} {P : Tree → Prop}
    (hmake : ∀ {t t' : Tree} {p : Path}, P t → t.ensureDirectory p = .ok t' → P t') (h : P t)
    (segments : List String) : P (t.makeDirectories anchor segments).1 := by
  induction segments with
  | nil =>
    rw [makeDirectories]
    split
    · next hmade => exact hmake h hmade
    · exact h
  | cons s above ih =>
    rw [makeDirectories]
    split
    · next hmade => exact hmake h hmade
    · split
      · exact h
      · cases hm : t.makeDirectories anchor above with
        | mk between fault =>
          rw [hm] at ih
          cases fault with
          | some e => exact ih
          | none =>
            simp only
            split
            · next hmade => exact hmake ih hmade
            · exact ih

theorem process_makeDirectories (t : Tree) (anchor : String) (segments : List String) :
    (t.makeDirectories anchor segments).1.process = t.process :=
  makeDirectories_induction (P := fun t' => t'.process = t.process)
    (fun h hmade => (process_of_ensureDirectory hmade).trans h) rfl segments

theorem process_of_makeDirectories {t t' : Tree} {anchor : String} {segments : List String}
    {fault : Option FileError} (h : t.makeDirectories anchor segments = (t', fault)) :
    t'.process = t.process := by
  rw [← process_makeDirectories t anchor segments, h]

theorem temporaryName_congr {t t' : Tree} (h : t'.process = t.process) (name : String) :
    t'.temporaryName name = t.temporaryName name := by
  rw [temporaryName, temporaryName, h]

theorem temporary_congr {t t' : Tree} (h : t'.process = t.process) (p : Path) :
    t'.temporary p = t.temporary p := by
  rw [temporary, temporary, temporaryName_congr h]

theorem writeBytes_ok {t t' : Tree} {p : Path} {bytes : ByteArray}
    (h : t.writeBytes p bytes = .ok t') :
    ∃ l, t.locate p = .ok l ∧ t.entry? l ≠ some .directory ∧ t' = t.put l bytes := by
  unfold writeBytes at h
  split at h
  · cases h
  · next l hl =>
    split at h
    · cases h
    · next he =>
      cases h
      exact ⟨l, hl, he, rfl⟩

theorem moveFile_ok {t t' : Tree} {p target : Path} (h : t.moveFile p target = .ok t') :
    target.name ≠ ".." ∧ ∃ l l' e, t.locate p = .ok l ∧ t.locate target = .ok l' ∧
      t.entry? l = some e ∧ t.entry? l' ≠ some .directory ∧ t' = (t.remove l).set l' e := by
  unfold moveFile at h
  split at h
  · cases h
  · cases h
  · next l l' hl hl' =>
    split at h
    · cases h
    · next hname =>
      split at h
      · cases h
      · cases h
      · next e he hdir =>
        cases h
        exact ⟨hname, l, l', e, hl, hl', he, hdir, rfl⟩

theorem abandon_fault (t : Tree) (p : Path) (e : FileError) : (t.abandon p e).2 ≠ none := by
  unfold abandon
  split
  · simp
  · simp
  · split <;> simp

/-- A write that goes through made the directories, wrote the bytes under the temporary name and
moved them. -/
theorem writeText_ok {t moved : Tree} {p : Path} {text : String}
    (h : t.writeText p text = (moved, none)) :
    p.name ≠ "" ∧ p.hasZero = false ∧ ∃ written,
      (t.makeDirectories p.anchor p.parent.segments.reverse).1.writeBytes (t.temporary p) text.toUTF8 =
        .ok written ∧ written.moveFile (t.temporary p) p = .ok moved := by
  have hno (t : Tree) (e : FileError) : t.abandon p e ≠ (moved, none) := fun ha =>
    abandon_fault t p e (congrArg Prod.snd ha)
  unfold writeText at h
  split at h
  · cases h
  · next hname =>
    split at h
    · cases h
    · split at h
      · exact absurd h (hno _ _)
      · next t' ht =>
        have hsame := process_of_makeDirectories ht
        split at h
        · cases h
        · next hz =>
          split at h
          · exact absurd h (hno _ _)
          · next written hw =>
            split at h
            · exact absurd h (hno _ _)
            · next hm =>
              cases h
              rw [temporary_congr hsame] at hw hm
              exact ⟨hname, by simpa using hz, written, ht ▸ hw, hm⟩

/-- A write goes through where each of its steps does. -/
theorem writeText_of_steps {t t' written moved : Tree} {p : Path} {text : String} (hname : p.name ≠ "")
    (hparent : p.parent.hasZero = false) (hzero : p.hasZero = false)
    (hmade : t.makeDirectories p.anchor p.parent.segments.reverse = (t', none))
    (hbytes : t'.writeBytes (t.temporary p) text.toUTF8 = .ok written)
    (hmove : written.moveFile (t.temporary p) p = .ok moved) :
    t.writeText p text = (moved, none) := by
  rw [← temporary_congr (process_of_makeDirectories hmade)] at hbytes hmove
  rw [writeText, if_neg hname, hparent, hmade]
  simp only [hzero, hbytes, hmove, Bool.false_eq_true, if_false]

theorem writeText_of_hasZero {t t' : Tree} {p : Path} {text : String} (hname : p.name ≠ "")
    (hparent : p.parent.hasZero = false) (hzero : p.hasZero = true)
    (hmade : t.makeDirectories p.anchor p.parent.segments.reverse = (t', none)) :
    t.writeText p text = (t', some .zeroCharacter) := by
  simp only [writeText, if_neg hname, hparent, hmade, hzero, Bool.false_eq_true, if_false, if_true]

theorem writeText_of_notMade {t t' : Tree} {p : Path} {text : String} {e : FileError}
    (hname : p.name ≠ "") (hparent : p.parent.hasZero = false)
    (hmade : t.makeDirectories p.anchor p.parent.segments.reverse = (t', some e)) :
    t.writeText p text = t'.abandon p e := by
  rw [writeText, if_neg hname, hparent, hmade]
  simp only [Bool.false_eq_true, if_false]

theorem hasZero_eq (p : Path) :
    p.hasZero = p.segments.any fun s => decide ('\x00' ∈ s.toList) := by
  simp only [Path.hasZero, String.contains_char_eq]

theorem find_ok {t : Tree} {p : Path} {e : Entry} :
    t.find p = .ok e ↔ ∃ l, t.locate p = .ok l ∧ t.entry? l = some e := by
  unfold find
  cases hl : t.locate p with
  | error r => simp [bind, Except.bind]
  | ok l =>
    cases he : t.entry? l with
    | none => simp [bind, Except.bind, he]
    | some e' => simp [bind, Except.bind, he]

theorem find_writeText {t moved : Tree} {p : Path} {text : String}
    (h : t.writeText p text = (moved, none)) :
    p.hasZero = false ∧ ∃ stamp, moved.find p = .ok (.file text.toUTF8 stamp) := by
  obtain ⟨-, hz, written, hw, hm⟩ := writeText_ok h
  generalize (t.makeDirectories p.anchor p.parent.segments.reverse).1 = t' at hw
  obtain ⟨l, hl, hdir, rfl⟩ := writeBytes_ok hw
  obtain ⟨-, l₁, l', e, hl₁, hl', he, hdir', rfl⟩ := moveFile_ok hm
  -- the temporary name leads to the same place before and after the bytes are there
  have hsame := locate_congr (directory_put hdir text.toUTF8) hl
  rw [hsame] at hl₁
  cases hl₁
  rw [entry_put_self (not_isFixed hdir), Option.some.injEq] at he
  subst he
  have hfile := entry_put_ne (not_isFixed hdir) t' text.toUTF8
  have hloc := locate_congr (directory_move (e := .file text.toUTF8 (t'.clock + 1)) hfile hdir') hl'
  refine ⟨hz, t'.clock + 1, find_ok.2 ⟨l', hloc, ?_⟩⟩
  exact entry_set_self (not_isFixed hdir') _ _

theorem decodeUtf8_toByteArray (s : String) : decodeUtf8 s.toByteArray = .ok s := by
  have h : String.fromUTF8? s.toByteArray = some s := by
    rw [String.fromUTF8?, dif_pos s.isValidUTF8]
    rfl
  rw [decodeUtf8, h]

section Found

variable {t : Tree} {p : Path} {bytes : ByteArray} {stamp : Nat} {s : String}

theorem holds_of_find {e : Entry} (hz : p.hasZero = false) (hf : t.find p = .ok e) :
    t.holds p = .ok true := by
  simp [holds, probe, hz, hf, Except.map]

theorem readText_of_file (hf : t.find p = .ok (.file bytes stamp)) (hs : decodeUtf8 bytes = .ok s) :
    t.readText p = .ok (withNewlines s) := by
  simp [readText, readBytes, hf, hs]

theorem readText?_of_file (hz : p.hasZero = false) (hf : t.find p = .ok (.file bytes stamp))
    (hs : decodeUtf8 bytes = .ok s) : t.readText? p = .ok (some (withNewlines s)) := by
  rw [readText?, holds_of_find hz hf, readText_of_file hf hs]
  rfl

end Found

theorem find_writeBytes {t t' : Tree} {p : Path} {bytes : ByteArray}
    (h : t.writeBytes p bytes = .ok t') : t'.find p = .ok (.file bytes (t.clock + 1)) := by
  obtain ⟨l, hl, hdir, rfl⟩ := writeBytes_ok h
  rw [find_ok]
  exact ⟨l, locate_congr (directory_put hdir bytes) hl, entry_put_self (not_isFixed hdir) _ _⟩

/-- A text that was written is read with its returns as newlines. -/
theorem readText_writeText {t moved : Tree} {p : Path} {text : String}
    (h : t.writeText p text = (moved, none)) :
    moved.readText? p = .ok (some (withNewlines text)) := by
  obtain ⟨hz, stamp, hf⟩ := find_writeText h
  exact readText?_of_file hz hf (decodeUtf8_toByteArray text)

theorem no_return_of_readText? {t : Tree} {p : Path} {s : String} (h : t.readText? p = .ok (some s)) :
    '\r' ∉ s.toList := by
  rw [readText?] at h
  split at h
  · cases h
  · cases h
  · rw [readText] at h
    split at h
    · cases h
    · split at h
      · cases h
      · cases h
        exact no_return_withNewlines _

end Tree

theorem hasZero_eq_false {p : Path} (h : ∀ s ∈ p.segments, '\x00' ∉ s.toList) :
    p.hasZero = false := by
  rw [Tree.hasZero_eq, List.any_eq_false]
  simpa using h

namespace Store

/-- The texts that a store gives back as they were written. -/
def Keeps : Store → String → Prop
  | .disk _, text => '\r' ∉ text.toList
  | _, _ => True

def IsDisk : Store → Prop
  | .disk _ => True
  | _ => False

theorem read_disk_of_write {root : Path} {w w' : Workspace} {path text : String}
    (h : (Store.disk root).write w path text = (w', none)) :
    (Store.disk root).read w' path = .ok (some (withNewlines text)) := by
  simp only [write, Prod.mk.injEq, Option.map_eq_none_iff] at h
  obtain ⟨rfl, hnone⟩ := h
  have hw : w.tree.writeText (root / path) text = (_, none) := Prod.ext rfl hnone
  simp [read, readDisk, Tree.readText_writeText hw]

theorem read_of_write {s : Store} {w w' : Workspace} {path text : String}
    (h : s.write w path text = (w', none)) (hk : s.Keeps text) :
    s.read w' path = .ok (some text) := by
  cases s with
  | memory =>
    cases h
    simp [read, OrderedMap.get?_insert]
  | overlay root =>
    cases h
    simp [read, OrderedMap.get?_insert]
  | disk root => rw [read_disk_of_write h, withNewlines_of_no_return hk]

theorem Keeps.mono {s : Store} {text text' : String} (h : s.Keeps text)
    (hsub : '\r' ∈ text'.toList → '\r' ∈ text.toList) : s.Keeps text' := by
  cases s with
  | disk root => exact fun hmem => h (hsub hmem)
  | memory => trivial
  | overlay root => trivial

theorem keeps_of_no_return (s : Store) {text : String} (h : '\r' ∉ text.toList) : s.Keeps text := by
  cases s with
  | disk root => exact h
  | memory => trivial
  | overlay root => trivial

/-- A text as a store gives it back. -/
def reading : Store → String → String
  | .disk _, text => withNewlines text
  | _, text => text

/-- A text that has been written is given back as the store reads it. -/
theorem read_reading_of_write {s : Store} {w w' : Workspace} {path text : String}
    (h : s.write w path text = (w', none)) : s.read w' path = .ok (some (s.reading text)) := by
  cases s with
  | disk root => exact read_disk_of_write h
  | memory => exact read_of_write h trivial
  | overlay root => exact read_of_write h trivial

theorem keeps_of_read {s : Store} {w : Workspace} {path text : String}
    (h : s.read w path = .ok (some text)) : s.Keeps text := by
  cases s with
  | memory => trivial
  | overlay root => trivial
  | disk root =>
    simp only [read, readDisk] at h
    split at h
    · next r hr =>
      obtain rfl := Except.ok.inj h
      exact Tree.no_return_of_readText? hr
    · cases h
    · cases h

/-- What a store gives back as it is stays in front of a text that is read. -/
theorem reading_append {s : Store} {above : String} (h : s.Keeps above) (text : String) :
    s.reading (above ++ text) = above ++ s.reading text := by
  cases s with
  | memory => rfl
  | overlay root => rfl
  | disk root =>
    rw [reading, reading, withNewlines, String.toList_append, normalizeNewlines_append_of_no_return h,
      String.ofList_append, String.ofList_toList, withNewlines]

/-- No line end reaches across the start of a line that has none in it. -/
theorem reading_line (s : Store) {line : String} (hline : Lacks lineEnds line) (hne : line ≠ "")
    (text : String) : s.reading (text ++ (line ++ "\n")) = s.reading text ++ (line ++ "\n") := by
  have hlacks : '\n' ∉ line.toList ∧ '\r' ∉ line.toList :=
    ⟨hline _ (by decide), hline _ (by decide)⟩
  cases s with
  | memory => rfl
  | overlay root => rfl
  | disk root =>
    obtain ⟨c, cs, hcs⟩ := List.exists_cons_of_ne_nil (show line.toList ≠ [] by simpa using hne)
    have hc : c ≠ '\n' := fun he => hlacks.1 (by simp [hcs, he])
    have hkept : normalizeNewlines (line ++ "\n").toList = (line ++ "\n").toList :=
      normalizeNewlines_of_no_return (by simp [hlacks.2])
    rw [reading, reading, ← String.toList_inj]
    simp only [withNewlines, String.toList_ofList, String.toList_append] at hkept ⊢
    rw [hcs, List.cons_append] at hkept ⊢
    rw [normalizeNewlines_append_cons hc, hkept]

theorem write_of_not_isDisk {s : Store} (hs : ¬ s.IsDisk) (w : Workspace) (path text : String) :
    (s.write w path text).2 = none := by
  cases s with
  | memory => rfl
  | overlay root => rfl
  | disk root => exact absurd trivial hs

/-- What the file of an artifact is after a merge that went through. -/
theorem read_merge {s : Store} {w w' : Workspace} {a : Artifact} {existing : Option String}
    {outcome : MergeOutcome} (hr : s.read w a.path = .ok existing)
    (hm : s.merge w a = (w', .ok outcome)) (hk : ∀ text ∈ (GoScaffold.merge existing a).1, s.Keeps text) :
    s.read w' a.path = .ok ((GoScaffold.merge existing a).1.or existing) ∧
      outcome = (GoScaffold.merge existing a).2 := by
  unfold merge at hm
  rw [hr] at hm
  cases hg : GoScaffold.merge existing a with
  | mk next done =>
    simp only [hg] at hm hk ⊢
    cases next with
    | none =>
      cases hm
      exact ⟨hr, rfl⟩
    | some text =>
      simp only at hm
      split at hm
      · next hw =>
        cases hm
        exact ⟨read_of_write hw (hk text rfl), rfl⟩
      · cases hm

/-- A merge into drafts goes through where the file can be read. -/
theorem merge_of_not_isDisk {s : Store} (hs : ¬ s.IsDisk) {w : Workspace} {a : Artifact}
    {existing : Option String} (hr : s.read w a.path = .ok existing) :
    (s.merge w a).2 = .ok (GoScaffold.merge existing a).2 := by
  unfold merge
  rw [hr]
  cases hg : GoScaffold.merge existing a with
  | mk next done =>
    cases next with
    | none => simp [hg]
    | some text =>
      cases hw : s.write w a.path text with
      | mk w' fault =>
        have hnone : fault = none := by
          have h := write_of_not_isDisk hs w a.path text
          rwa [hw] at h
        subst hnone
        simp [hg, hw]

end Store

end GoScaffold
