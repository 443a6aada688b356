import GoScaffold.Generation.Request
import GoScaffold.Proofs.Workspace.Frame

/-!
# Writes are whole

Under a relative path of names, whose temporary name nothing has, a write has its text at its path
and all other files as they were, or it has all files as they were. Nothing stays under the temporary
name. A write that does not go through has been refused by the file system, unless the temporary name
is too long to be looked up.
-/
namespace GoScaffold

open GoScaffold.Text

/-- A relative path of names, none of which leads up. -/
structure Path.IsPlain (p : Path) : Prop where
  relative : p.anchor = ""
  nonempty : p.segments ≠ []
  names : ∀ s ∈ p.segments, Path.isSegment s = true ∧ s ≠ ".."

namespace Path.IsPlain

variable {p : Path} (h : p.IsPlain)

include h

theorem start_eq : Tree.start p = [] := by
  simp [Tree.start, Path.isAbsolute, h.relative]

theorem name_ne : p.name ≠ "" ∧ p.name ≠ ".." := by
  obtain ⟨above, name, hsegments⟩ := (List.eq_nil_or_concat p.segments).resolve_left h.nonempty
  obtain ⟨hsegment, hup⟩ := h.names name (by simp [hsegments])
  rw [show p.name = name by simp [Path.name, hsegments]]
  simp only [Path.isSegment, Bool.and_eq_true, bne_iff_ne] at hsegment
  exact ⟨hsegment.1, hup⟩

theorem segments_eq : p.segments = p.parent.segments ++ [p.name] := by
  obtain ⟨above, hsegments, habove, -⟩ := Tree.exists_segments h.name_ne.1
  rw [habove, ← hsegments]

theorem temporary_eq (t : Tree) :
    (t.temporary p).segments = p.parent.segments ++ [t.temporaryName p.name] := by
  obtain ⟨above, -, habove, htemporary⟩ := Tree.exists_segments h.name_ne.1
  rw [habove, htemporary]

theorem no_dots : ".." ∉ p.parent.segments := fun hmem =>
  (h.names _ (List.dropLast_subset _ hmem)).2 rfl

end Path.IsPlain

namespace Tree

/-- Both trees have the same file at the location, or neither has one. -/
def HaveSameFile (t t' : Tree) (l : Location) : Prop :=
  ∀ bytes stamp, t'.entry? l = some (.file bytes stamp) ↔ t.entry? l = some (.file bytes stamp)

/-- What a write leaves: nothing under the temporary name, and the files that were there everywhere, or
everywhere but at its own path. -/
structure IsWhole (t : Tree) (p : Path) (text : String) (t' : Tree) (fault : Option WriteFault) : Prop where
  temporary : t'.entry? (t.temporary p).segments = none
  written : fault = none → (∃ stamp, t'.entry? p.segments = some (.file text.toUTF8 stamp)) ∧
    ∀ l, l ≠ p.segments → t.HaveSameFile t' l
  unchanged : fault ≠ none → ∀ l, t.HaveSameFile t' l

section Plain

variable {t t' moved : Tree} {p : Path} {text : String}

theorem haveSameFile_of_entry {l : Location} (h : t'.entry? l = t.entry? l) : t.HaveSameFile t' l :=
  fun bytes stamp => by rw [h]

theorem IsWayMade.haveSameFile {home : Location} (h : t.IsWayMade t' home) (l : Location) :
    t.HaveSameFile t' l := fun bytes stamp => by
  obtain hsame | ⟨hnone, hmade⟩ := h.grown l
  · rw [hsame]
  · simp [hnone, hmade]

theorem IsWayMade.entry_temporary (h : t.IsWayMade t' p.parent.segments) (hp : p.IsPlain)
    (hunused : t.entry? (t.temporary p).segments = none) : t'.entry? (t.temporary p).segments = none := by
  rw [hp.temporary_eq] at hunused ⊢
  rw [h.frame _ (not_prefix_of_longer _ _), hunused]

theorem IsWayMade.not_isFixed_temporary (h : t.IsWayMade t' p.parent.segments) (hp : p.IsPlain)
    (hunused : t.entry? (t.temporary p).segments = none) : ¬ isFixed (t.temporary p).segments = true := by
  have htemporary := h.entry_temporary hp hunused
  exact not_isFixed (t := t') (by simp [htemporary])

/-- Where directories alone have been made, a fault leaves every file. -/
theorem IsWayMade.isWhole (h : t.IsWayMade t' p.parent.segments) (hp : p.IsPlain)
    (hunused : t.entry? (t.temporary p).segments = none) (f : WriteFault) :
    t.IsWhole p text t' (some f) where
  temporary := h.entry_temporary hp hunused
  written hnone := by cases hnone
  unchanged _ := h.haveSameFile

theorem isWhole_refl (hunused : t.entry? (t.temporary p).segments = none) (f : WriteFault) :
    t.IsWhole p text t (some f) where
  temporary := hunused
  written hnone := by cases hnone
  unchanged _ _ := haveSameFile_of_entry rfl

/-- A write that is given up where nothing has the temporary name leaves the tree as it is. -/
theorem abandon_of_unused (h : ∀ l, t.locate (t.temporary p) = .ok l → t.entry? l = none) (e : FileError) :
    ∃ f, t.abandon p e = (t, some f) := by
  rw [abandon]
  split
  · exact ⟨_, rfl⟩
  · exact ⟨_, rfl⟩
  · next hholds =>
    exfalso
    unfold holds probe at hholds
    split at hholds
    · simp [Except.map] at hholds
    · cases hfind : t.find (t.temporary p) with
      | ok entry =>
        obtain ⟨l, hl, hentry⟩ := find_ok.1 hfind
        rw [h l hl] at hentry
        cases hentry
      | error r => cases r <;> simp [hfind, refuse, Except.map] at hholds

section Stages

variable (hp : p.IsPlain) (hrooted : t.IsRooted) (hunused : t.entry? (t.temporary p).segments = none)

include hp

theorem locate_temporary {l : Location} (h : t.locate (t.temporary p) = .ok l) :
    l = (t.temporary p).segments := by
  have hwalk := locate_ok h
  rw [show start (t.temporary p) = [] from hp.start_eq] at hwalk
  refine (walk_eq_append ?_ hwalk).trans (List.nil_append _)
  rw [hp.temporary_eq]
  simp [hp.no_dots, (temporaryName_ne_dots t p.name).symm]

theorem walk_plain (t : Tree) : t.walk (start p) [] = .ok [] := by
  rw [hp.start_eq]
  rfl

theorem isWayMade_plain :
    t.IsWayMade (t.makeDirectories p.anchor p.parent.segments.reverse).1 p.parent.segments :=
  makeDirectories_way p.anchor hp.no_dots (walk_plain hp t) rfl

include hunused

/-- No file has a name with a zero character, and none is written. -/
theorem isWhole_of_hasZero (text : String) (hzero : p.hasZero = true) :
    ∃ t' f, t.writeText p text = (t', some f) ∧ t.IsWhole p text t' (some f) := by
  have hway := isWayMade_plain (t := t) hp
  by_cases hparent : p.parent.hasZero = true
  · refine ⟨t, .zeroCharacter, ?_, isWhole_refl hunused _⟩
    rw [writeText, if_neg hp.name_ne.1, if_pos hparent]
  · rw [Bool.not_eq_true] at hparent
    cases hmade : t.makeDirectories p.anchor p.parent.segments.reverse with
    | mk t' fault =>
      rw [hmade] at hway
      cases fault with
      | none =>
        exact ⟨t', .zeroCharacter, writeText_of_hasZero hp.name_ne.1 hparent hzero hmade,
          hway.isWhole hp hunused _⟩
      | some e =>
        obtain ⟨f, hf⟩ := abandon_of_unused (t := t') (p := p) (fun l hl => by
          rw [locate_temporary hp hl, temporary_congr (process_of_makeDirectories hmade)]
          exact hway.entry_temporary hp hunused) e
        exact ⟨t', f, (writeText_of_notMade hp.name_ne.1 hparent hmade).trans hf,
          hway.isWhole hp hunused f⟩

/-- Without a zero character a write fails at a temporary name that is too long, or has nothing made
and is refused behind a file, or has its folder made. Then it is refused if a directory is in the place
of the file, and goes through otherwise. -/
theorem writeText_stages (hrooted : t.IsRooted) (hzero : p.hasZero = false) (text : String) :
    (∃ t' e, t.writeText p text = (t', some (.temporaryRefused e)) ∧
      t.IsWayMade t' p.parent.segments ∧ t'.locate (t.temporary p) = .error .nameTooLong) ∨
    (∃ e, t.writeText p text = (t, some (.refused p e)) ∧ t.IsBlocked [] p.parent.segments ∧
      t.locate (t.temporary p) = .error .notDirectory) ∨
    ∃ t', t.IsWayMade t' p.parent.segments ∧ ¬ t.IsBlocked [] p.parent.segments ∧
      t'.locate (t.temporary p) = .ok (t.temporary p).segments ∧
      ((t.entry? p.segments = some .directory ∧ ∃ e, t.writeText p text =
        ((t'.put (t.temporary p).segments text.toUTF8).remove (t.temporary p).segments, some (.refused p e))) ∨
      t.entry? p.segments ≠ some .directory ∧ ∃ moved, t.writeText p text = (moved, none)) := by
  have hway := isWayMade_plain (t := t) hp
  have hparent : p.parent.segments = [] ++ p.parent.segments := rfl
  have hwalk := walk_plain hp t
  obtain hlong | ⟨htext, hblocked | ⟨hblocked, hlong, hmade, hwalk', hdirectory⟩⟩ :=
    makeDirectories_cases hp.name_ne.1 hzero hparent hp.no_dots hwalk rfl rfl
  · obtain ⟨e, he⟩ := writeText_of_tooLong text hp.name_ne.1 hzero rfl hlong
    exact Or.inl ⟨_, e, he, hway, hlong⟩
  · obtain ⟨e, he⟩ := writeText_of_isBlocked hrooted hp.name_ne.1 hzero hparent hwalk rfl htext hblocked
    exact Or.inr (Or.inl ⟨e, he, hblocked,
      locate_of_isBlocked hrooted hp.name_ne.1 hparent hwalk htext hblocked⟩)
  · rw [hmade] at hway
    rw [List.nil_append] at hwalk' hdirectory
    obtain ⟨hl, hl'⟩ := locate_of_made hp.name_ne rfl hwalk' hdirectory htext hlong
    have htemporary := hway.entry_temporary hp hunused
    have hsame := hway.frame _ (not_prefix_of_longer p.parent.segments p.name)
    rw [← hp.temporary_eq] at hl
    refine Or.inr (Or.inr ⟨_, hway, hblocked, hl, ?_⟩)
    rw [hp.segments_eq, ← hsame]
    by_cases htaken : Tree.entry? (t.makeDirectories p.anchor p.parent.segments.reverse).1
        (p.parent.segments ++ [p.name]) = some .directory
    · exact Or.inl ⟨htaken,
        writeText_of_occupied text hp.name_ne hzero hmade hl (by simp [htemporary]) hl' htaken⟩
    · obtain hmoved | ⟨-, hused⟩ := writeText_of_made text hp.name_ne hzero rfl hmade hwalk' hdirectory
        htext hlong htaken
      · exact Or.inr ⟨htaken, hmoved⟩
      · rw [← hp.temporary_eq, htemporary] at hused
        cases hused

/-- Where the folder has been made and the bytes under the temporary name go again, every file stays. -/
theorem IsWayMade.isWhole_remove (h : t.IsWayMade t' p.parent.segments) (bytes : ByteArray)
    (f : WriteFault) :
    t.IsWhole p text ((t'.put (t.temporary p).segments bytes).remove (t.temporary p).segments) (some f) where
  temporary := entry_remove_self (h.not_isFixed_temporary hp hunused) _
  written hnone := by cases hnone
  unchanged _ l := by
    by_cases hl : (t.temporary p).segments = l
    · subst hl
      exact haveSameFile_of_entry
        ((entry_remove_self (h.not_isFixed_temporary hp hunused) _).trans hunused.symm)
    · intro bytes' stamp
      rw [entry_remove_of_ne hl, entry_put_of_ne hl]
      exact h.haveSameFile l bytes' stamp

/-- A write that goes through changes its own file alone. -/
theorem isWhole_written (h : t.writeText p text = (moved, none)) :
    t.IsWhole p text moved none := by
  have hwritten := isWritten_writeText h (List.nil_append _).symm hp.no_dots (walk_plain hp t) rfl
  rw [List.nil_append] at hwritten
  have htemporary : moved.entry? (t.temporary p).segments = none := by
    rw [hp.temporary_eq]
    exact hwritten.temporary
  refine ⟨htemporary, fun _ => ⟨?_, fun l hl bytes stamp => ?_⟩, fun hne => absurd rfl hne⟩
  · rw [hp.segments_eq]
    exact hwritten.file
  · by_cases hother : l = (t.temporary p).segments
    · rw [hother, htemporary, hunused]
    · rw [hp.temporary_eq] at hother
      rw [hp.segments_eq] at hl
      obtain hsame | ⟨-, hnone, hmade⟩ := hwritten.frame l hl hother
      · rw [hsame]
      · simp [hnone, hmade]

end Stages

/-- What a write that goes through needs: names that files may have, and a way that no file is on, to
where no directory is. -/
structure IsOpen (t : Tree) (p : Path) : Prop where
  zero : p.hasZero = false
  short : (t.temporary p).IsShort
  way : ¬ t.IsBlocked [] p.parent.segments
  free : t.entry? p.segments ≠ some .directory

/-- A fault of the write is one that the file system has refused, unless the temporary name is too long
to be looked up. -/
def IsRefusedUnlessTooLong (t : Tree) (temporary : Path) (fault : Option WriteFault) : Prop :=
  ∀ f, fault = some f → (f.isRefusal = true ↔ t.locate temporary ≠ .error .nameTooLong)

theorem no_dots_temporary (hp : p.IsPlain) : ".." ∉ (t.temporary p).segments := by
  rw [hp.temporary_eq]
  simp [hp.no_dots, (temporaryName_ne_dots t p.name).symm]

theorem fault_iff_of_not_isOpen {f : WriteFault} (h : ¬ t.IsOpen p) : some f = none ↔ t.IsOpen p := by
  simp [h]

theorem isRefusedUnlessTooLong_of_locate {f : WriteFault}
    (h : f.isRefusal = true ↔ t.locate p ≠ .error .nameTooLong) :
    t.IsRefusedUnlessTooLong p (some f) := fun _ hf => Option.some.inj hf ▸ h

/-- What comes of a write under a plain path whose temporary name is free. -/
theorem writeText_outcome (hrooted : t.IsRooted) (hp : p.IsPlain)
    (hunused : t.entry? (t.temporary p).segments = none) (text : String) :
    ∃ t' fault, t.writeText p text = (t', fault) ∧ t.IsWhole p text t' fault ∧
      (fault = none ↔ t.IsOpen p) ∧
      (p.hasZero = false → t'.IsRefusedUnlessTooLong (t.temporary p) fault) := by
  by_cases hzero : p.hasZero = true
  · obtain ⟨t', f, hwrite, hwhole⟩ := isWhole_of_hasZero hp hunused text hzero
    have hclosed : ¬ t.IsOpen p := fun hopen => by simp [hopen.zero] at hzero
    exact ⟨t', some f, hwrite, hwhole, fault_iff_of_not_isOpen hclosed, fun hno => by simp [hno] at hzero⟩
  rw [Bool.not_eq_true] at hzero
  obtain ⟨t', e, hwrite, hway, hlong⟩ | ⟨e, hwrite, hblocked, hlocate⟩ |
    ⟨t', hway, hblocked, hlocate, ⟨hdirectory, e, hwrite⟩ | ⟨hfree, moved, hwrite⟩⟩ :=
    writeText_stages hp hunused hrooted hzero text
  · -- the temporary name is too long to be looked up
    have hclosed : ¬ t.IsOpen p := fun hopen => not_isShort_of_locate hlong hopen.short
    refine ⟨t', _, hwrite, hway.isWhole hp hunused _, fault_iff_of_not_isOpen hclosed, fun _ => ?_⟩
    exact isRefusedUnlessTooLong_of_locate (by simp [WriteFault.isRefusal, hlong])
  · -- a file is on the way
    have hclosed : ¬ t.IsOpen p := fun hopen => hopen.way hblocked
    refine ⟨t, _, hwrite, isWhole_refl hunused _, fault_iff_of_not_isOpen hclosed, fun _ => ?_⟩
    exact isRefusedUnlessTooLong_of_locate (by simp [WriteFault.isRefusal, hlocate])
  · -- a directory is in the place of the file
    have hclosed : ¬ t.IsOpen p := fun hopen => hopen.free hdirectory
    refine ⟨_, _, hwrite, hway.isWhole_remove hp hunused _ _, fault_iff_of_not_isOpen hclosed,
      fun _ => isRefusedUnlessTooLong_of_locate (iff_of_true rfl ?_)⟩
    have htemporary : t'.entry? (t.temporary p).segments ≠ some .directory := by
      simp [hway.entry_temporary hp hunused]
    have hput := entry_put_ne (not_isFixed htemporary) t' text.toUTF8
    rw [locate_congr (directory_remove hput)
      (locate_congr (directory_put htemporary text.toUTF8) hlocate)]
    simp
  · have hopen : t.IsOpen p :=
      ⟨hzero, isShort_of_locate (no_dots_temporary hp) hlocate, hblocked, hfree⟩
    exact ⟨moved, none, hwrite, isWhole_written hp hunused hwrite, iff_of_true rfl hopen,
      fun _ f hf => by cases hf⟩

/-- A write is all or nothing, and a store on disk passes on what comes of it. -/
theorem writeText_whole (hrooted : t.IsRooted) (hp : p.IsPlain)
    (hunused : t.entry? (t.temporary p).segments = none) (text : String) :
    ∃ t' fault, t.writeText p text = (t', fault) ∧ t.IsWhole p text t' fault ∧
      (fault = none ↔ t.IsOpen p) ∧
      (p.hasZero = false → t'.IsRefusedUnlessTooLong (t.temporary p) fault) ∧
      ∀ (root : Path) (path : String) (w : Workspace), root / path = p → w.tree = t →
        ∃ stored, (Store.disk root).write w path text = ({ w with tree := t' }, stored) ∧
          stored.map StoreFault.message = fault.map WriteFault.message ∧
          stored.map StoreFault.isRefusal = fault.map WriteFault.isRefusal := by
  obtain ⟨t', fault, hwrite, hwhole, hopen, hrefused⟩ := writeText_outcome hrooted hp hunused text
  refine ⟨t', fault, hwrite, hwhole, hopen, hrefused, ?_⟩
  rintro root path w rfl rfl
  refine ⟨fault.map .unwritable, ?_, ?_, ?_⟩
  · simp [Store.write, hwrite]
  · cases fault <;> rfl
  · cases fault <;> rfl

/-- A directory in the place of the file. -/
theorem writeText_whole_occupied :
    let t : Tree :=
      { entries := [(["limits.go"], .directory), (["limits.go", "notes"], .file "kept".toUTF8 1)]
        clock := 1 }
    let p : Path := { segments := ["limits.go"] }
    t.IsRooted ∧ p.IsPlain ∧ t.entry? (t.temporary p).segments = none ∧
      ∃ t' f, t.writeText p "package limits\n" = (t', some f) ∧
        t.IsWhole p "package limits\n" t' (some f) := by
  intro t p
  have hrooted : t.IsRooted := isRooted_of_entries (by
    simp only [t, List.forall_mem_cons, List.not_mem_nil, false_implies, implies_true, and_true]
    exact ⟨rfl, rfl⟩)
  have hp : p.IsPlain := ⟨rfl, by decide, by decide +kernel⟩
  have hunused : t.entry? (t.temporary p).segments = none := by rfl
  obtain ⟨t', fault, hwrite, hwhole, hopen, -⟩ := writeText_whole hrooted hp hunused "package limits\n"
  refine ⟨hrooted, hp, hunused, t', ?_⟩
  cases fault with
  | none => exact absurd rfl (hopen.1 rfl).free
  | some f => exact ⟨f, hwrite, hwhole⟩

end Plain

end Tree

end GoScaffold
