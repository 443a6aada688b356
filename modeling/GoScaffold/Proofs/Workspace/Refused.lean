import GoScaffold.Proofs.Workspace.Made

/-!
# Writes that are refused

A write that is refused leaves the tree as it was: only a file on the way to its folder has it
refused, and that is met before the first directory is made. Every other write goes through, or
fails at its temporary name.
-/
namespace GoScaffold

open GoScaffold.Text

namespace Tree

/-- The folder of the path leads to the location, and the path is one that a file may have. -/
structure Reaches (t : Tree) (p : Path) (home : Location) : Prop where
  folder : t.LeadsTo p.parent home
  name : p.name ≠ "" ∧ p.name ≠ ".."
  zero : p.hasZero = false

section Write

variable {t t' : Tree} {p : Path} {text : String} {home : Location} {made rest : List String}

theorem abandon_of_notDirectory (h : t.find (t.temporary p) = .error .notDirectory) (e : FileError) :
    t.abandon p e = (t, some (.refused p e)) := by
  have hholds : t.holds (t.temporary p) = .ok false := by
    cases hz : (t.temporary p).hasZero <;> simp [holds, probe, hz, h, Except.map]
  rw [abandon, hholds]

theorem hasZero_temporary (h : p.hasZero = false) : (t.temporary p).hasZero = false := by
  have hmark : '\x00' ∉ t.process.text.toList := fun hmem =>
    absurd (List.all_eq_true.1 t.process.isMark _ hmem) (by decide)
  have hname : '\x00' ∉ p.name.toList := by
    rcases List.eq_nil_or_concat p.segments with hs | ⟨above, name, hs⟩
    · simp [Path.name, hs]
    · simp only [hasZero_eq, hs, List.concat_eq_append, List.any_append, Bool.or_eq_false_iff] at h
      simpa [Path.name, hs] using h.2
  rw [hasZero_eq] at h ⊢
  simp only [List.any_eq_false, decide_eq_true_eq, temporary, Path.withName] at h ⊢
  intro s hs
  rcases List.mem_append.1 hs with hs | hs
  · exact h s (List.dropLast_subset _ hs)
  · rw [List.mem_singleton.1 hs]
    simpa [temporaryName] using ⟨hname, hmark⟩

theorem abandon_of_tooLong (hz : p.hasZero = false)
    (h : t.find (t.temporary p) = .error .nameTooLong) (e : FileError) :
    ∃ e', t.abandon p e = (t, some (.temporaryRefused e')) := by
  have hholds : t.holds (t.temporary p) =
      .error { refusal := .nameTooLong, path := t.temporary p } := by
    simp [holds, probe, hasZero_temporary hz, h, refuse, Except.map]
  rw [abandon, hholds]
  exact ⟨_, rfl⟩

theorem abandon_of_directory (hz : p.hasZero = false)
    (h : t.find (t.temporary p) = .ok .directory) (e : FileError) :
    ∃ e', t.abandon p e = (t, some (.temporaryRefused e')) := by
  have hholds : t.holds (t.temporary p) = .ok true := by
    simp [holds, probe, hasZero_temporary hz, h, Except.map]
  obtain ⟨l, hl, hdirectory⟩ := find_ok.1 h
  have hdelete : t.deleteFile (t.temporary p) = refuse .isDirectory (t.temporary p) := by
    simp only [deleteFile, hl, hdirectory]
  rw [abandon, hholds]
  simp only [hdelete, refuse]
  exact ⟨_, rfl⟩

theorem parent_hasZero (h : p.hasZero = false) : p.parent.hasZero = false := by
  rw [hasZero_eq, List.any_eq_false] at h ⊢
  exact fun s hs => h s (List.dropLast_subset _ hs)

theorem text_le_temporary (t : Tree) (hname : p.name ≠ "") :
    p.text.utf8ByteSize ≤ (t.temporary p).text.utf8ByteSize := by
  obtain ⟨above, hsegments, -, htemporary⟩ := exists_segments hname
  have hp : p = { anchor := p.anchor, segments := above ++ [p.name] } := by rw [← hsegments]
  have ht : t.temporary p = { anchor := p.anchor, segments := above ++ [t.temporaryName p.name] } := by
    rw [← htemporary]
    rfl
  have hsize := size_join_concat "/" above (s := p.name) (t := t.temporaryName p.name) (by
    simp only [temporaryName, String.utf8ByteSize_append]
    omega)
  rw [ht]
  conv_lhs => rw [hp]
  rw [text_of_ne_nil (by simp), text_of_ne_nil (by simp)]
  simp only [String.utf8ByteSize_append] at hsize ⊢
  omega

/-- In a directory a name leads to its own place, unless it is too long. -/
theorem locate_concat {above : List String} {s : String} (hsegments : p.segments = above ++ [s])
    (htext : p.text.utf8ByteSize ≤ longestPath) (hwalk : t.walk (start p) above = .ok home)
    (hhome : t.entry? home = some .directory) (hs : s ≠ "..") :
    t.locate p = if longestName < s.utf8ByteSize then .error .nameTooLong else .ok (home ++ [s]) := by
  rw [locate, if_neg (Nat.not_lt.2 htext), hsegments, walk_append, hwalk]
  change t.walk home [s] = _
  simp only [walk, hhome, if_neg hs]

theorem find_of_locate_error {r : Refusal} (h : t.locate p = .error r) : t.find p = .error r := by
  rw [find, h]
  rfl

theorem makeDirectories_of_isBlocked {anchor : String} (hrooted : t.IsRooted)
    (hwalk : t.walk (start { anchor }) made = .ok home) (hhome : t.entry? home = some .directory)
    (htext : ({ anchor, segments := made ++ rest } : Path).text.utf8ByteSize ≤ longestPath)
    (hblocked : t.IsBlocked home rest) :
    ∃ e, t.makeDirectories anchor (made ++ rest).reverse = (t, some e) := by
  rcases List.eq_nil_or_concat rest with rfl | ⟨between, s, rfl⟩
  · obtain ⟨before, hbefore, -, bytes, stamp, hfile⟩ := hblocked
    rw [List.prefix_nil.1 hbefore, List.append_nil, hhome] at hfile
    cases hfile
  rw [List.concat_eq_append] at *
  let q : Path := { anchor, segments := made ++ (between ++ [s]) }
  have hlocate : t.locate q = t.walk home (between ++ [s]) := by
    rw [locate, if_neg (Nat.not_lt.2 htext), walk_append]
    exact congrArg (Except.bind · _) hwalk
  have hfile : t.locate q = .error .notDirectory ∨ t.locate q = .ok (home ++ (between ++ [s])) ∧
      ∃ bytes stamp, t.entry? (home ++ (between ++ [s])) = some (.file bytes stamp) := by
    obtain ⟨before, hbefore, hway, hfile⟩ := hblocked
    rcases List.prefix_concat_iff.1 hbefore with rfl | hbetween
    · obtain ⟨bytes, stamp, hentry⟩ := hfile
      refine Or.inr ⟨hlocate.trans (hrooted.walk_of_entry hway ?_), bytes, stamp, hentry⟩
      rw [hentry]
      simp
    · have hbefore : t.IsBlocked home between := ⟨before, hbetween, hway, hfile⟩
      exact Or.inl (hlocate.trans (hbefore.walk hrooted s))
  obtain ⟨e, he, hne⟩ := ensureDirectory_of_file hfile
  have hreverse : (made ++ (between ++ [s])).reverse = s :: (made ++ between).reverse := by simp
  have hpath : (s :: (made ++ between).reverse).reverse = made ++ (between ++ [s]) := by simp
  have he' : t.ensureDirectory { anchor, segments := made ++ (between ++ [s]) } = .error e := he
  rw [hreverse, makeDirectories, hpath]
  simp only [he', ne_eq, hne, not_false_eq_true, if_true]
  exact ⟨e, rfl⟩

/-- Behind a file no temporary name leads anywhere. -/
theorem locate_of_isBlocked (hrooted : t.IsRooted) (hname : p.name ≠ "")
    (hparent : p.parent.segments = made ++ rest) (hwalk : t.walk (start p) made = .ok home)
    (htext : (t.temporary p).text.utf8ByteSize ≤ longestPath) (hblocked : t.IsBlocked home rest) :
    t.locate (t.temporary p) = .error .notDirectory := by
  obtain ⟨above, -, habove, htemporary⟩ := exists_segments hname
  obtain rfl : above = made ++ rest := habove.symm.trans hparent
  rw [locate, if_neg (Nat.not_lt.2 htext), htemporary, List.append_assoc, walk_append]
  change (t.walk (start p) made).bind _ = _
  rw [hwalk]
  exact hblocked.walk hrooted _

theorem writeText_of_isBlocked (hrooted : t.IsRooted) (hname : p.name ≠ "") (hzero : p.hasZero = false)
    (hparent : p.parent.segments = made ++ rest) (hwalk : t.walk (start p) made = .ok home)
    (hhome : t.entry? home = some .directory)
    (htext : (t.temporary p).text.utf8ByteSize ≤ longestPath) (hblocked : t.IsBlocked home rest) :
    ∃ e, t.writeText p text = (t, some (.refused p e)) := by
  obtain ⟨above, hsegments, habove, htemporary⟩ := exists_segments hname
  obtain rfl : above = made ++ rest := habove.symm.trans hparent
  have hlonger : ({ anchor := p.anchor, segments := made ++ rest ++ [t.temporaryName p.name] } :
      Path).text.utf8ByteSize ≤ longestPath := by
    rw [← htemporary]
    exact htext
  obtain ⟨e, he⟩ :=
    makeDirectories_of_isBlocked hrooted hwalk hhome (text_append_le hlonger) hblocked
  have hfind := find_of_locate_error (locate_of_isBlocked hrooted hname hparent hwalk htext hblocked)
  refine ⟨e, ?_⟩
  rw [writeText_of_notMade hname (parent_hasZero hzero) (hparent ▸ he)]
  exact abandon_of_notDirectory hfind e

/-- A walk that stops at a file, behind directories that are there, is blocked. -/
theorem isBlocked_of_stop {l : Location} {above : List String} (hdots : ".." ∉ rest)
    (hwalk : t.walk l made = .ok home) (hhome : t.entry? home = some .directory)
    (habove : above <+: made ++ rest)
    (hstop : t.walk l above = .error .notDirectory ∨ ∃ k bytes stamp,
      t.walk l above = .ok k ∧ t.entry? k = some (.file bytes stamp)) : t.IsBlocked home rest := by
  rcases List.prefix_or_prefix_of_prefix habove (List.prefix_append made rest) with
    ⟨more, rfl⟩ | ⟨below, rfl⟩
  -- the directories that are there are no obstacle
  · exfalso
    rw [walk_append] at hwalk
    obtain hfile | ⟨k, bytes, stamp, hk, hentry⟩ := hstop
    · rw [hfile] at hwalk
      cases hwalk
    · rw [hk] at hwalk
      change t.walk k more = _ at hwalk
      cases more with
      | nil =>
        cases hwalk
        rw [hhome] at hentry
        cases hentry
      | cons s more => simp [walk, hentry] at hwalk
  · rw [List.prefix_append_right_inj] at habove
    rw [walk_append, hwalk] at hstop
    change t.walk home below = _ ∨ _ at hstop
    have hbelow : ".." ∉ below := fun hmem => hdots (habove.subset hmem)
    refine IsBlocked.mono ?_ habove
    obtain hfile | ⟨k, bytes, stamp, hk, hentry⟩ := hstop
    · exact isBlocked_of_walk hbelow hfile
    · change t.walk home below = _ at hk
      obtain rfl := walk_eq_append hbelow hk
      exact ⟨below, List.prefix_rfl, isPlainWay_of_walk hbelow hk, bytes, stamp, hentry⟩

/-- Where directories are not made, a file stands on the way or a name is too long. -/
theorem isBlocked_of_makeDirectories {e : FileError} (hzero : p.parent.hasZero = false)
    (hparent : p.parent.segments = made ++ rest) (hdots : ".." ∉ rest)
    (hwalk : t.walk (start p) made = .ok home) (hhome : t.entry? home = some .directory)
    (hmade : t.makeDirectories p.anchor p.parent.segments.reverse = (t', some e)) :
    t.IsBlocked home rest ∨ ∃ above, above <+: p.parent.segments ∧
      t'.locate { anchor := p.anchor, segments := above } = .error .nameTooLong := by
  obtain ⟨above, habove, hrefused, hne⟩ := exists_of_makeDirectories hmade
  rw [List.reverse_reverse] at habove
  have hway := makeDirectories_way p.anchor hdots hwalk hhome
  rw [← hparent, hmade] at hway
  have hq : ({ anchor := p.anchor, segments := above } : Path).hasZero = false := by
    rw [hasZero_eq, List.any_eq_false] at hzero ⊢
    exact fun s hs => hzero s (habove.subset hs)
  obtain hlong | hfile := refused_of_ensureDirectory hq hrefused hne
  · exact Or.inr ⟨above, habove, hlong⟩
  · refine Or.inl (hway.isBlocked (isBlocked_of_stop hdots (walk_congr hway.directory hwalk)
      (hway.directory home hhome) (hparent ▸ habove) ?_))
    refine hfile.imp (fun hlocate => ?_) fun ⟨l, bytes, stamp, hl, hentry⟩ =>
      ⟨l, bytes, stamp, locate_ok hl, hentry⟩
    unfold locate at hlocate
    split at hlocate
    · cases hlocate
    · exact hlocate

/-- A temporary name that is too long is met once the directories are made. -/
theorem writeText_of_tooLong (text : String) (hname : p.name ≠ "") (hzero : p.hasZero = false)
    (hmade : (t.makeDirectories p.anchor p.parent.segments.reverse).1 = t')
    (hlong : t'.locate (t.temporary p) = .error .nameTooLong) :
    ∃ e, t.writeText p text = (t', some (.temporaryRefused e)) := by
  have hprocess : t'.process = t.process := hmade ▸ process_makeDirectories t _ _
  rw [← temporary_congr hprocess] at hlong
  have hfind := find_of_locate_error hlong
  rw [writeText, if_neg hname, parent_hasZero hzero]
  cases hm : t.makeDirectories p.anchor p.parent.segments.reverse with
  | mk made fault =>
    obtain rfl : made = t' := by rw [← hmade, hm]
    cases fault with
    | some e => exact abandon_of_tooLong hzero hfind e
    | none =>
      have hbytes : made.writeBytes (made.temporary p) text.toUTF8 =
          refuse .nameTooLong (made.temporary p) := by
        rw [writeBytes, hlong]
      simp only [hzero, hbytes, refuse, Bool.false_eq_true, if_false]
      exact abandon_of_tooLong hzero hfind _

theorem writeText_of_taken (text : String) (hname : p.name ≠ "") (hzero : p.hasZero = false)
    (hmade : t.makeDirectories p.anchor p.parent.segments.reverse = (t', none))
    (htaken : t'.find (t.temporary p) = .ok .directory) :
    ∃ e, t.writeText p text = (t', some (.temporaryRefused e)) := by
  rw [← temporary_congr (process_of_makeDirectories hmade)] at htaken
  obtain ⟨l, hl, hdirectory⟩ := find_ok.1 htaken
  have hbytes : t'.writeBytes (t'.temporary p) text.toUTF8 =
      refuse .isDirectory (t'.temporary p) := by
    simp only [writeBytes, hl, hdirectory]
  rw [writeText, if_neg hname, parent_hasZero hzero, hmade]
  simp only [hzero, hbytes, refuse, Bool.false_eq_true, if_false]
  exact abandon_of_directory hzero htaken _

/-- The bytes under the temporary name go when the write is given up. -/
theorem abandon_put {l : Location} (hz : p.hasZero = false) (hl : t.locate (t.temporary p) = .ok l)
    (hfree : t.entry? l ≠ some .directory) (bytes : ByteArray) (e : FileError) :
    (t.put l bytes).abandon p e = ((t.put l bytes).remove l, some (.refused p e)) := by
  have hlocate := locate_congr (directory_put hfree bytes) hl
  have hentry := entry_put_self (not_isFixed hfree) t bytes
  have hholds : (t.put l bytes).holds (t.temporary p) = .ok true := by
    simp only [holds, probe, hasZero_temporary hz, Bool.false_eq_true, if_false,
      find_ok.2 ⟨l, hlocate, hentry⟩, Except.map, Option.isSome_some]
  have hdelete : (t.put l bytes).deleteFile (t.temporary p) = .ok ((t.put l bytes).remove l) := by
    simp only [deleteFile, hlocate, hentry]
  have hsame : (t.put l bytes).temporary p = t.temporary p := temporary_congr rfl p
  rw [abandon, hsame, hholds]
  simp only [hdelete]

theorem writeBytes_of_locate {l : Location} (hl : t.locate p = .ok l)
    (hfree : t.entry? l ≠ some .directory) (bytes : ByteArray) :
    t.writeBytes p bytes = .ok (t.put l bytes) := by
  simp only [writeBytes, hl]

theorem moveFile_of_locate {target : Path} {l l' : Location} {e : Entry} (hl : t.locate p = .ok l)
    (hl' : t.locate target = .ok l') (hup : target.name ≠ "..") (he : t.entry? l = some e)
    (hfree : t.entry? l' ≠ some .directory) :
    t.moveFile p target = .ok ((t.remove l).set l' e) := by
  simp only [moveFile, hl, hl', if_neg hup, he]

/-- In a directory the bytes are put under a temporary name that is free, and moved. -/
theorem writeText_of_directory (hname : p.name ≠ "" ∧ p.name ≠ "..") (hzero : p.hasZero = false)
    (hmade : t.makeDirectories p.anchor p.parent.segments.reverse = (t', none))
    (hl : t'.locate (t.temporary p) = .ok (home ++ [t.temporaryName p.name]))
    (hl' : t'.locate p = .ok (home ++ [p.name]))
    (htemporary : t'.entry? (home ++ [t.temporaryName p.name]) ≠ some .directory)
    (hfree : t'.entry? (home ++ [p.name]) ≠ some .directory) :
    ∃ moved, t.writeText p text = (moved, none) := by
  have hput := directory_put htemporary text.toUTF8
  have hne : home ++ [t.temporaryName p.name] ≠ home ++ [p.name] := fun he =>
    temporaryName_ne t p.name (List.append_singleton_inj.1 he).2
  have hbytes := writeBytes_of_locate hl htemporary text.toUTF8
  refine ⟨_, writeText_of_steps hname.1 (parent_hasZero hzero) hzero hmade hbytes
    (moveFile_of_locate (e := .file text.toUTF8 (t'.clock + 1)) (locate_congr hput hl)
      (locate_congr hput hl') hname.2 ?_ ?_)⟩
  · exact entry_put_self (not_isFixed htemporary) _ _
  · rw [entry_put_of_ne hne]
    exact hfree

theorem temporary_name (t : Tree) (hname : p.name ≠ "") :
    (t.temporary p).name = t.temporaryName p.name := by
  obtain ⟨above, -, -, htemporary⟩ := exists_segments hname
  rw [Path.name, htemporary]
  simp

/-- Where a name on the way to a path is too long, the path is. -/
theorem locate_tooLong {above more : List String} {q : Path} (hq : q.segments = above ++ more)
    (hlong : t.locate { anchor := q.anchor, segments := above } = .error .nameTooLong) :
    t.locate q = .error .nameTooLong := by
  have hqe : q = { anchor := q.anchor, segments := above ++ more } := by rw [← hq]
  by_cases htext : longestPath < q.text.utf8ByteSize
  · rw [locate, if_pos htext]
  · have hshort := text_append_le (hqe ▸ Nat.not_lt.1 htext)
    rw [locate, if_neg (Nat.not_lt.2 hshort)] at hlong
    rw [locate, if_neg htext, hq, walk_append]
    exact congrArg (Except.bind · _) hlong

/-- In a folder that is there both names lead to their places, unless the temporary one is too long. -/
theorem locate_of_made {above : List String} (hname : p.name ≠ "" ∧ p.name ≠ "..")
    (habove : p.parent.segments = above) (hwalk : t'.walk (start p) above = .ok home)
    (hhome : t'.entry? home = some .directory) (htext : (t.temporary p).text.utf8ByteSize ≤ longestPath)
    (hlong : t'.locate (t.temporary p) ≠ .error .nameTooLong) :
    t'.locate (t.temporary p) = .ok (home ++ [t.temporaryName p.name]) ∧
      t'.locate p = .ok (home ++ [p.name]) := by
  obtain ⟨above, hsegments, rfl, htemporary⟩ := exists_segments hname.1
  rw [habove] at hsegments htemporary
  have hlocate := locate_concat (htemporary t) htext hwalk hhome (temporaryName_ne_dots t p.name)
  have hshort : ¬ longestName < (t.temporaryName p.name).utf8ByteSize := fun hlonger =>
    hlong (hlocate.trans (if_pos hlonger))
  have hshorter : ¬ longestName < p.name.utf8ByteSize := by
    simp only [temporaryName, String.utf8ByteSize_append] at hshort
    omega
  have hlocate' := locate_concat hsegments (Nat.le_trans (text_le_temporary t hname.1) htext) hwalk
    hhome hname.2
  rw [if_neg hshort] at hlocate
  rw [if_neg hshorter] at hlocate'
  exact ⟨hlocate, hlocate'⟩

/-- Once the folder is there, a write goes through or fails at its temporary name. -/
theorem writeText_of_made (text : String) {above : List String} (hname : p.name ≠ "" ∧ p.name ≠ "..")
    (hzero : p.hasZero = false) (habove : p.parent.segments = above)
    (hmade : t.makeDirectories p.anchor p.parent.segments.reverse = (t', none))
    (hwalk : t'.walk (start p) above = .ok home) (hhome : t'.entry? home = some .directory)
    (htext : (t.temporary p).text.utf8ByteSize ≤ longestPath)
    (hlong : t'.locate (t.temporary p) ≠ .error .nameTooLong)
    (hfree : t'.entry? (home ++ [p.name]) ≠ some .directory) :
    (∃ moved, t.writeText p text = (moved, none)) ∨
      (∃ e, t.writeText p text = (t', some (.temporaryRefused e))) ∧
        t'.entry? (home ++ [t.temporaryName p.name]) = some .directory := by
  obtain ⟨hlocate, hlocate'⟩ := locate_of_made hname habove hwalk hhome htext hlong
  by_cases htaken : t'.entry? (home ++ [t.temporaryName p.name]) = some .directory
  · have hfind := find_ok.2 ⟨_, hlocate, htaken⟩
    exact Or.inr ⟨writeText_of_taken text hname.1 hzero hmade hfind, htaken⟩
  · exact Or.inl (writeText_of_directory hname hzero hmade hlocate hlocate' htaken hfree)

/-- A directory in the place of the file stays, and the bytes under the temporary name go. -/
theorem writeText_of_occupied (text : String) {l l' : Location} (hname : p.name ≠ "" ∧ p.name ≠ "..")
    (hzero : p.hasZero = false)
    (hmade : t.makeDirectories p.anchor p.parent.segments.reverse = (t', none))
    (hl : t'.locate (t.temporary p) = .ok l) (hfree : t'.entry? l ≠ some .directory)
    (hl' : t'.locate p = .ok l') (hdirectory : t'.entry? l' = some .directory) :
    ∃ e, t.writeText p text = ((t'.put l text.toUTF8).remove l, some (.refused p e)) := by
  rw [← temporary_congr (process_of_makeDirectories hmade)] at hl
  have hput := directory_put hfree text.toUTF8
  have hmove : (t'.put l text.toUTF8).moveFile (t'.temporary p) p =
      .error ⟨.isDirectory, t'.temporary p, some p⟩ := by
    have hentry := entry_put_self (not_isFixed hfree) t' text.toUTF8
    simp only [moveFile, locate_congr hput hl, locate_congr hput hl', if_neg hname.2, hentry,
      hput l' hdirectory]
  refine ⟨⟨.isDirectory, t'.temporary p, some p⟩, ?_⟩
  rw [writeText, if_neg hname.1, parent_hasZero hzero, hmade]
  simp only [hzero, writeBytes_of_locate hl hfree, hmove, Bool.false_eq_true, if_false]
  exact abandon_put hzero hl hfree text.toUTF8 _

/-- The folder of a path is made unless the temporary name is too long or a file is on the way. -/
theorem makeDirectories_cases (hname : p.name ≠ "") (hzero : p.hasZero = false)
    (hparent : p.parent.segments = made ++ rest) (hdots : ".." ∉ rest)
    (hwalk : t.walk (start p) made = .ok home) (hhome : t.entry? home = some .directory)
    (hmade : (t.makeDirectories p.anchor p.parent.segments.reverse).1 = t') :
    t'.locate (t.temporary p) = .error .nameTooLong ∨ (t.temporary p).text.utf8ByteSize ≤ longestPath ∧
      (t.IsBlocked home rest ∨ ¬ t.IsBlocked home rest ∧ t'.locate (t.temporary p) ≠ .error .nameTooLong ∧
        t.makeDirectories p.anchor p.parent.segments.reverse = (t', none) ∧
        t'.walk (start p) (made ++ rest) = .ok (home ++ rest) ∧
        t'.entry? (home ++ rest) = some .directory) := by
  change t.walk (start p) made = .ok home at hwalk
  obtain ⟨above, -, habove, htemporary⟩ := exists_segments hname
  obtain rfl : above = made ++ rest := habove.symm.trans hparent
  by_cases hlong : t'.locate (t.temporary p) = .error .nameTooLong
  · exact Or.inl hlong
  have htext : (t.temporary p).text.utf8ByteSize ≤ longestPath := by
    by_contra htext
    exact hlong (if_pos (Nat.not_le.1 htext))
  refine Or.inr ⟨htext, ?_⟩
  by_cases hblocked : t.IsBlocked home rest
  · exact Or.inl hblocked
  refine Or.inr ⟨hblocked, hlong, ?_⟩
  have hway := makeDirectories_way p.anchor hdots hwalk hhome
  rw [← hparent, hmade] at hway
  cases hfault : t.makeDirectories p.anchor p.parent.segments.reverse with
  | mk between fault =>
    obtain rfl : between = t' := by rw [← hmade, hfault]
    cases fault with
    | some e =>
      exfalso
      obtain hfile | ⟨above, ⟨more, hmore⟩, htooLong⟩ :=
        isBlocked_of_makeDirectories (parent_hasZero hzero) hparent hdots hwalk hhome hfault
      · exact hblocked hfile
      · have hbehind : (t.temporary p).segments = above ++ (more ++ [t.temporaryName p.name]) := by
          rw [htemporary, ← habove, ← hmore, List.append_assoc]
        exact hlong (locate_tooLong hbehind htooLong)
    | none =>
      have hfind := find_of_makeDirectories hfault
      rw [List.reverse_reverse, habove] at hfind
      obtain ⟨l, hl, hdirectory⟩ := find_ok.1 hfind
      have hleads : between.LeadsTo { anchor := p.anchor, segments := made ++ rest } (home ++ rest) :=
        ⟨made, rest, home, rfl, hdots, walk_congr hway.directory hwalk, hway.directory _ hhome, rfl⟩
      obtain rfl := hleads.locate_eq hl
      exact ⟨rfl, locate_ok hl, hdirectory⟩

/-- A write goes through, or a file on its way has it refused and the tree is as it was, or it
fails at its temporary name. -/
theorem writeText_cases (text : String) (hrooted : t.IsRooted) (hreach : t.Reaches p home)
    (hfree : t.entry? (home ++ [p.name]) ≠ some .directory) :
    (∃ moved, t.writeText p text = (moved, none)) ∨
    (∃ e, t.writeText p text = (t, some (.refused p e))) ∨
    (∃ t' e, t.writeText p text = (t', some (.temporaryRefused e))) ∧
      (¬ (t.temporary p).IsShort ∨ t.entry? (home ++ [(t.temporary p).name]) = some .directory) := by
  obtain ⟨⟨made, rest, home, hparent, hdots, hwalk, hhome, rfl⟩, ⟨hname, hup⟩, hzero⟩ := hreach
  rw [temporary_name t hname]
  obtain hlong | ⟨htext, hblocked | ⟨-, hlong, hmade, hwalk', hdirectory⟩⟩ :=
    makeDirectories_cases hname hzero hparent hdots hwalk hhome rfl
  · obtain ⟨e, he⟩ := writeText_of_tooLong text hname hzero rfl hlong
    exact Or.inr (Or.inr ⟨⟨_, e, he⟩, Or.inl (not_isShort_of_locate hlong)⟩)
  · exact Or.inr (Or.inl (writeText_of_isBlocked hrooted hname hzero hparent hwalk hhome htext
      hblocked))
  · have hway := makeDirectories_way p.anchor hdots hwalk hhome
    rw [← hparent] at hway
    have hsame (s : String) := hway.frame _ (not_prefix_of_longer (home ++ rest) s)
    rw [← hsame] at hfree
    obtain hmoved | ⟨⟨e, he⟩, htaken⟩ := writeText_of_made text ⟨hname, hup⟩ hzero hparent
      hmade hwalk' hdirectory htext hlong hfree
    · exact Or.inl hmoved
    · exact Or.inr (Or.inr ⟨⟨_, e, he⟩, Or.inr ((hsame _).symm.trans htaken)⟩)

end Write

/-- Nothing is in the way of a merge but what has it refused: the text of the file can be read, and
its temporary name can be used, unless already its name is too long. -/
structure IsClear (t : Tree) (p : Path) (home : Location) : Prop where
  decodes : ∀ bytes stamp, t.entry? (home ++ [p.name]) = some (.file bytes stamp) →
    ∃ s, decodeUtf8 bytes = .ok s
  temporary : t.entry? (home ++ [(t.temporary p).name]) ≠ some .directory
  short : (t.temporary p).IsShort ∨ t.find p = .error .nameTooLong

section Clear

variable {t moved : Tree} {p q : Path} {text : String} {home home' : Location}

theorem Reaches.congr (h : t.Reaches p home)
    (hkept : ∀ l, t.entry? l = some .directory → moved.entry? l = some .directory) :
    moved.Reaches p home :=
  { h with folder := h.folder.congr hkept }

theorem Reaches.leadsTo (h : t.Reaches p home) : t.LeadsTo p (home ++ [p.name]) := by
  obtain ⟨made, rest, home, hparent, hdots, hwalk, hhome, rfl⟩ := h.folder
  obtain ⟨above, hsegments, habove, -⟩ := exists_segments h.name.1
  exact ⟨made, rest ++ [p.name], home, by rw [hsegments, ← habove, hparent, List.append_assoc],
    by simp [hdots, h.name.2.symm], hwalk, hhome, by rw [List.append_assoc]⟩

theorem Reaches.isWritten (h : t.Reaches p home) (hwrite : t.writeText p text = (moved, none)) :
    t.IsWritten moved home p.name text := by
  obtain ⟨made, rest, home, hparent, hdots, hwalk, hhome, rfl⟩ := h.folder
  exact isWritten_writeText hwrite hparent hdots hwalk hhome

theorem find_tooLong_congr
    (hkept : ∀ l, t.entry? l = some .directory → moved.entry? l = some .directory)
    (h : t.find p = .error .nameTooLong) : moved.find p = .error .nameTooLong := by
  apply find_of_locate_error
  cases hl : t.locate p with
  | ok l =>
    rw [find, hl] at h
    cases he : t.entry? l <;> simp [bind, Except.bind, he] at h
  | error r =>
    obtain rfl : r = .nameTooLong := by
      rw [find_of_locate_error hl] at h
      exact Except.error.inj h
    exact locate_congr_of_ne hkept hl (by simp) (by simp)

/-- A write leaves a path clear, its own or another one, unless it makes a directory where that one
has its temporary name. -/
theorem IsClear.of_isWritten (h : t.IsClear q home') (hwritten : t.IsWritten moved home p.name text)
    (hway : ¬ home' ++ [(t.temporary q).name] <+: home) (hne : q.name ≠ t.temporaryName p.name)
    (hne' : (t.temporary q).name ≠ p.name) : moved.IsClear q home' where
  decodes bytes stamp hfile := by
    by_cases hsame : home' ++ [q.name] = home ++ [p.name]
    · obtain ⟨stamp', hwrote⟩ := hwritten.file
      rw [hsame, hwrote] at hfile
      cases hfile
      exact ⟨text, decodeUtf8_toByteArray text⟩
    · obtain hkept | ⟨-, -, hmade⟩ := hwritten.frame _ hsame
        fun he => hne (List.append_singleton_inj.1 he).2
      · exact h.decodes bytes stamp (hkept ▸ hfile)
      · rw [hmade] at hfile
        cases hfile
  temporary hdirectory := by
    rw [temporary_congr hwritten.process] at hdirectory
    by_cases hsame : home' ++ [(t.temporary q).name] = home ++ [t.temporaryName p.name]
    · rw [hsame, hwritten.temporary] at hdirectory
      cases hdirectory
    · obtain hkept | ⟨hmade, -, -⟩ := hwritten.frame _
        (fun he => hne' (List.append_singleton_inj.1 he).2) hsame
      · exact h.temporary (hkept ▸ hdirectory)
      · exact hway hmade
  short := by
    rw [temporary_congr hwritten.process]
    exact h.short.imp_right (find_tooLong_congr hwritten.directory)

theorem find_of_undecodable {f : Utf8Fault} (h : t.readText? p = .error (.undecodable f)) :
    ∃ bytes stamp, t.find p = .ok (.file bytes stamp) ∧ decodeUtf8 bytes = .error f := by
  unfold readText? at h
  split at h
  · cases h
  · cases h
  · unfold readText at h
    cases hb : t.readBytes p with
    | error e => simp [hb, Except.map] at h
    | ok bytes =>
      cases hd : decodeUtf8 bytes with
      | ok s => simp [hb, hd, Except.map] at h
      | error f' =>
        obtain rfl : f' = f := by simpa [hb, hd, Except.map] using h
        unfold readBytes at hb
        split at hb
        · next bytes' stamp hfind =>
          cases hb
          exact ⟨bytes, stamp, hfind, hd⟩
        · cases hb
        · cases hb

theorem Reaches.entry_ne {existing : Option String} (h : t.Reaches p home) (hrooted : t.IsRooted)
    (hread : t.readText? p = .ok existing) : t.entry? (home ++ [p.name]) ≠ some .directory := by
  intro hdirectory
  obtain ⟨made, rest, home, hsegments, hdots, hwalk, -, hplace⟩ := h.leadsTo
  rw [hplace] at hdirectory
  have hnone : t.find p ≠ .error .nameTooLong := fun hlong => by
    rw [readText?_of_tooLong h.zero hlong] at hread
    cases hread
  have htext : ¬ longestPath < p.text.utf8ByteSize := fun hlong =>
    hnone (find_of_locate_error (if_pos hlong))
  have hlocate : t.locate p = t.walk home rest := by
    rw [locate, if_neg htext, hsegments, walk_append, hwalk]
    rfl
  obtain hok | hlong := hrooted.walk_cases hdots (by rw [hdirectory]; simp)
  · rw [readText?_of_directory h.zero (find_ok.2 ⟨_, hlocate.trans hok, hdirectory⟩)] at hread
    cases hread
  · exact hnone (find_of_locate_error (hlocate.trans hlong))

end Clear

end Tree

end GoScaffold
