import GoScaffold.Proofs.Template.Site
import GoScaffold.Proofs.Workspace.Frame

/-!
# Directories that are given the built-in templates

Templates are written one after another, and each is whole or not there. They go only where no
template is, so in a directory that is there they take the place of no file.
-/
namespace GoScaffold.Template

open GoScaffold.Text

namespace Shelf

/-- The file that a built-in template is written to. -/
def target (dir : Path) (name : String) : Path := dir / (name ++ ".go.tmpl")

section Write

variable {t t' : Tree} {dir : Path} {name : String} {l : Location}

theorem isAfterWrites_writeAll (dir : Path) (templates : List (String × String)) (t : Tree) :
    t.IsAfterWrites (writeAll dir templates t).1
      (templates.map fun e => (target dir e.1, e.2)) := by
  induction templates generalizing t with
  | nil => exact .refl t
  | cons e rest ih =>
    have hwrite := Tree.isAfterWrites_writeText t (target dir e.1) e.2
    rw [writeAll]
    split
    · next t' f hw =>
      rw [target, hw] at hwrite
      exact hwrite.mono (by simp [target])
    · next t' hw =>
      rw [target, hw] at hwrite
      have hall := hwrite.trans (ih t')
      split
      · next t'' paths hrest =>
        rw [hrest] at hall
        exact hall
      · next t'' f hrest =>
        rw [hrest] at hall
        exact hall

theorem fault_of_writeAll {templates : List (String × String)} {f : TemplateFault}
    (h : (writeAll dir templates t).2 = .error f) : ∃ g, f = .unwritable g := by
  induction templates generalizing t with
  | nil => cases h
  | cons e rest ih =>
    rw [writeAll] at h
    split at h
    · next g hw =>
      cases h
      exact ⟨g, rfl⟩
    · next t' hw =>
      specialize @ih t'
      split at h
      · cases h
      · next t'' f' hrest =>
        rw [hrest] at ih
        cases h
        exact ih rfl

/-- The name is one of a file of its own below the template directory, which the directory then
lists by that name. -/
structure IsFileName (name : String) : Prop where
  ne : name ≠ ""
  relative : (Path.ofString (name ++ ".go.tmpl")).anchor = ""
  down : ".." ∉ (Path.ofString (name ++ ".go.tmpl")).segments
  inside : Tree.isInside (Path.ofString (name ++ ".go.tmpl")).segments = true
  logical : logicalName? (join "/" (Path.ofString (name ++ ".go.tmpl")).segments) = some name

theorem mem_filesBelow {segments : List String} {bytes : ByteArray} {stamp : Nat}
    (h : t.entry? (l ++ segments) = some (.file bytes stamp))
    (hinside : Tree.isInside segments = true) : segments ∈ t.filesBelow l := by
  rw [Tree.entry?] at h
  split at h
  · cases h
  · rw [Tree.filesBelow, List.mem_mergeSort, List.mem_filterMap]
    refine ⟨_, OrderedMap.mem_of_get? h, ?_⟩
    simp [hinside]

/-- The segments lead down to a file with the template of the name. -/
structure IsFileOf (below : List String) (name : String) : Prop where
  ne : name ≠ ""
  down : ".." ∉ below
  inside : Tree.isInside below = true
  logical : logicalName? (join "/" below) = some name

theorem IsFileOf.ne_nil {below : List String} (h : IsFileOf below name) : below ≠ [] := by
  rintro rfl
  have hlogical := h.logical
  rw [show logicalName? (join "/" []) = none from by decide] at hlogical
  cases hlogical

theorem IsFileName.isFileOf (hname : IsFileName name) :
    IsFileOf (Path.ofString (name ++ ".go.tmpl")).segments name :=
  ⟨hname.ne, hname.down, hname.inside, hname.logical⟩

theorem target_eq (hname : IsFileName name) :
    target dir name = Tree.below dir (Path.ofString (name ++ ".go.tmpl")).segments := by
  show Path.append dir _ = _
  rw [Path.append, Path.isAbsolute, hname.relative]
  rfl

theorem locate_below {below : List String} (hne : below ≠ []) (hdown : ".." ∉ below)
    (hl : t.locate (Tree.below dir below) = .ok l) :
    ∃ home, t.locate dir = .ok home ∧ t.entry? home = some .directory ∧ l = home ++ below := by
  have hshort : ¬ Tree.longestPath < dir.text.utf8ByteSize := by
    rw [Tree.locate] at hl
    split at hl
    · cases hl
    · next hshort => exact Nat.not_lt.2 (Tree.text_append_le (Nat.not_lt.1 hshort))
  have hwalk := Tree.locate_ok hl
  rw [Tree.below, Tree.walk_append] at hwalk
  change (t.walk (Tree.start dir) dir.segments).bind _ = _ at hwalk
  cases hdir : t.walk (Tree.start dir) dir.segments with
  | error r =>
    rw [hdir] at hwalk
    cases hwalk
  | ok home =>
    rw [hdir] at hwalk
    change t.walk home below = _ at hwalk
    have hl := Tree.walk_eq_append hdown hwalk
    have hhome : t.entry? home = some .directory := by
      obtain ⟨s, more, rfl⟩ := List.exists_cons_of_ne_nil hne
      rw [Tree.walk] at hwalk
      split at hwalk
      · cases hwalk
      · cases hwalk
      · next hdirectory => exact hdirectory
    exact ⟨home, by rw [Tree.locate, if_neg hshort, hdir], hhome, hl⟩

theorem isDirectory_of_locate {home : Location} (hzero : dir.hasZero = false)
    (hhome : t.locate dir = .ok home) (hdirectory : t.entry? home = some .directory) :
    t.isDirectory dir = .ok true := by
  simp [Tree.isDirectory, Tree.probe, hzero, Tree.find_ok.2 ⟨home, hhome, hdirectory⟩, Except.map]

/-- Where no template is listed, no file holds one. -/
theorem not_file_of_hasCustom {s : Shelf} (hs : s.directory = some dir)
    (hcustom : s.hasCustom t = .ok false) (hpresent : t.isDirectory dir = .ok true)
    {below : List String} (hbelow : IsFileOf below name)
    (hl : t'.locate (Tree.below dir below) = .ok l) (bytes : ByteArray) (stamp : Nat) :
    t.entry? l ≠ some (.file bytes stamp) := by
  intro hfile
  obtain ⟨home, hhome⟩ : ∃ home, t.locate dir = .ok home := by
    cases hd : t.locate dir with
    | ok home => exact ⟨home, rfl⟩
    | error r =>
      rw [Tree.isDirectory, Tree.probe] at hpresent
      split at hpresent
      · simp [Except.map] at hpresent
      · rw [Tree.find_of_locate_error hd] at hpresent
        cases r <;> simp [Tree.refuse, Except.map] at hpresent
  have hempty : templatesIn t dir = [] := by
    simpa [hasCustom, custom, hs, hpresent, Except.map] using hcustom
  have hnone : firstFile? t dir name = none := by
    rw [← get?_templatesIn, hempty]
    rfl
  -- the location lies below the one of the directory, by the segments of the file
  obtain ⟨home', hhome', -, rfl⟩ := locate_below hbelow.ne_nil hbelow.down hl
  obtain rfl := Tree.walk_unique (Tree.locate_ok hhome) (Tree.locate_ok hhome')
  have hmem := mem_filesBelow hfile hbelow.inside
  rw [firstFile?, hhome] at hnone
  simp only [Option.map_eq_none_iff, List.find?_eq_none] at hnone
  exact hnone _ hmem (decide_eq_true ⟨hbelow.ne, hbelow.logical⟩)

/-- Where every entry stands in a directory, a file below a path has a directory there, if the path
leads to it without double dots behind what is there. -/
theorem isDirectory_of_file (hrooted : t.IsRooted) {made rest below : List String} {home : Location}
    (hsegments : dir.segments = made ++ rest) (hdots : ".." ∉ rest)
    (hmade : t.walk (Tree.start dir) made = .ok home) (hzero : dir.hasZero = false)
    (hne : below ≠ []) (hdown : ".." ∉ below) (hl : t'.locate (Tree.below dir below) = .ok l)
    {bytes : ByteArray} {stamp : Nat} (hfile : t.entry? l = some (.file bytes stamp)) :
    t.isDirectory dir = .ok true := by
  obtain ⟨there, hthere, -, rfl⟩ := locate_below hne hdown hl
  have hwalk' := Tree.locate_ok hthere
  rw [hsegments, Tree.walk_append] at hwalk'
  cases hmade' : t'.walk (Tree.start dir) made with
  | error r =>
    rw [hmade'] at hwalk'
    cases hwalk'
  | ok home' =>
    obtain rfl := Tree.walk_unique hmade hmade'
    rw [hmade'] at hwalk'
    change t'.walk home rest = .ok there at hwalk'
    obtain rfl := Tree.walk_eq_append hdots hwalk'
    have hdirectory : t.entry? (home ++ rest) = some .directory :=
      hrooted.directory_above hne (by rw [hfile]; simp)
    have hwalk : t.walk (Tree.start dir) dir.segments = .ok (home ++ rest) := by
      rw [hsegments, Tree.walk_append, hmade]
      exact hrooted.walk_of_entry (Tree.isPlainWay_of_walk hdots hwalk') (by simp [hdirectory])
    have hshort : ¬ Tree.longestPath < dir.text.utf8ByteSize := by
      rw [Tree.locate] at hthere
      split at hthere
      · cases hthere
      · next hshort => exact hshort
    exact isDirectory_of_locate hzero (by rw [Tree.locate, if_neg hshort, hwalk]) hdirectory

end Write

/-- Of the built-in templates some have been written into a directory, each as a whole. Nothing else
has been written, and nothing but what stood under a temporary name is gone. No template takes the
place of a file, unless the directory was missing and is reached through double dots. -/
structure IsStocked (s : Shelf) (t t' : Tree) (dir : Path) : Prop where
  now : ∀ l bytes stamp, t'.entry? l = some (.file bytes stamp) →
    t.entry? l = some (.file bytes stamp) ∨
      ∃ e ∈ s.builtins, t'.locate (target dir e.1) = .ok l ∧ bytes = e.2.toUTF8
  before : ∀ l bytes stamp, t.entry? l = some (.file bytes stamp) →
    t'.entry? l = some (.file bytes stamp) ∨
      (∃ e ∈ s.builtins, t'.locate (target dir e.1) = .ok l ∧
        ∃ stamp', t'.entry? l = some (.file e.2.toUTF8 stamp')) ∨
      ∃ e ∈ s.builtins, t'.locate (t.temporary (target dir e.1)) = .ok l ∧
        ∀ bytes' stamp', t'.entry? l ≠ some (.file bytes' stamp')
  new : t.isDirectory dir = .ok true ∨ t.IsRooted ∧ ".." ∉ dir.segments ∧ dir.hasZero = false →
    ∀ e ∈ s.builtins, ∀ l, t'.locate (target dir e.1) = .ok l →
      ∀ bytes stamp, t.entry? l ≠ some (.file bytes stamp)

section Materialize

variable {s : Shelf} {t : Tree} {dir : Path}

/-- The built-in templates are written only where there are none. -/
theorem materialize_cases (hs : s.directory = some dir) (hnames : ∀ e ∈ s.builtins, IsFileName e.1) :
    (s.materialize false t).1 = t ∨
      s.hasCustom t = .ok false ∧ s.IsStocked t (s.materialize false t).1 dir := by
  rw [materialize, hs]
  cases hcustom : s.hasCustom t with
  | error e => exact Or.inl rfl
  | ok present =>
    cases present with
    | true => exact Or.inl rfl
    | false =>
      right
      refine ⟨rfl, ?_⟩
      simp only [Bool.false_and, Bool.false_eq_true, if_false]
      have hafter := isAfterWrites_writeAll dir
        (s.builtins.mergeSort fun a b => decide (a.1 ≤ b.1)) t
      have hwrites : ∀ w ∈ (s.builtins.mergeSort fun a b => decide (a.1 ≤ b.1)).map
          (fun e => (target dir e.1, e.2)), ∃ e ∈ s.builtins, w = (target dir e.1, e.2) := by
        intro w hw
        obtain ⟨e, he, rfl⟩ := List.mem_map.1 hw
        exact ⟨e, List.mem_mergeSort.1 he, rfl⟩
      refine ⟨?_, ?_, ?_⟩
      · intro l bytes stamp hl
        rcases hafter.entry l with h | ⟨-, h⟩ | ⟨w, hw, hloc, stamp', -, -, h⟩ | ⟨w, -, -, h⟩
        · exact Or.inl (h ▸ hl)
        · rw [h] at hl
          cases hl
        · rw [h] at hl
          cases hl
          obtain ⟨e, he, rfl⟩ := hwrites w hw
          exact Or.inr ⟨e, he, hloc, rfl⟩
        · exact absurd hl (h bytes stamp)
      · intro l bytes stamp hl
        rcases hafter.entry l with h | ⟨h, -⟩ | ⟨w, hw, hloc, stamp', -, -, h⟩ | ⟨w, hw, hloc, h⟩
        · exact Or.inl (h.trans hl)
        · rw [h] at hl
          cases hl
        · obtain ⟨e, he, rfl⟩ := hwrites w hw
          exact Or.inr (Or.inl ⟨e, he, hloc, stamp', h⟩)
        · obtain ⟨e, he, rfl⟩ := hwrites w hw
          exact Or.inr (Or.inr ⟨e, he, hloc, h⟩)
      · intro hplain e he l hl bytes stamp hfile
        have hbelow := (hnames e he).isFileOf
        rw [target_eq (hnames e he)] at hl
        have hpresent : t.isDirectory dir = .ok true := by
          rcases hplain with hpresent | ⟨hrooted, hdots, hzero⟩
          · exact hpresent
          · exact isDirectory_of_file hrooted (List.nil_append _).symm hdots rfl hzero hbelow.ne_nil
              hbelow.down hl hfile
        exact not_file_of_hasCustom hs hcustom hpresent hbelow hl bytes stamp hfile

/-- What can have the writing of templates refused, but for a directory that cannot be read. -/
theorem fault_of_materialize (hs : s.directory = some dir) {f : TemplateFault}
    (h : (s.materialize false t).2 = .error f) :
    (∃ e, f = .unreachable e) ∨ ∃ g, f = .unwritable g := by
  rw [materialize, hs] at h
  cases hcustom : s.hasCustom t with
  | error e =>
    rw [hcustom] at h
    cases h
    exact Or.inl ⟨e, rfl⟩
  | ok present =>
    rw [hcustom] at h
    cases present with
    | true => cases h
    | false => exact Or.inr (fault_of_writeAll h)

end Materialize

end Shelf

end GoScaffold.Template
