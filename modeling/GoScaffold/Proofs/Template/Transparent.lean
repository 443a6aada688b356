import GoScaffold.Proofs.Template.Materialized

/-!
# Built-in templates where there were none

Where a directory holds no template, the built-in ones take the place of no file in it, and none comes
before them. So every name comes to what it came to before, also in a press that has been in use.
-/
namespace GoScaffold.Template

open GoScaffold.Text

namespace Shelf

section Transparent

variable {s : Shelf} {t t' : Tree} {dir : Path} {home : Location} {name text : String}
  {p : Press} {ts : List Tree}

/-- Where no template is listed, no file below the directory holds one. -/
theorem not_file_below (hs : s.directory = some dir) (hcustom : s.hasCustom t = .ok false)
    (hrooted : t.IsRooted) (hway : t.LeadsTo dir home) (hzero : dir.hasZero = false)
    {below : List String} (hbelow : IsFileOf below name) {l : Location}
    (hl : t'.locate (Tree.below dir below) = .ok l) (bytes : ByteArray) (stamp : Nat) :
    t.entry? l ≠ some (.file bytes stamp) := by
  intro hfile
  obtain ⟨made, rest, home, hsegments, hdots, hwalk, -, -⟩ := hway
  have hpresent := isDirectory_of_file hrooted hsegments hdots hwalk hzero hbelow.ne_nil hbelow.down
    hl hfile
  exact not_file_of_hasCustom hs hcustom hpresent hbelow hl bytes stamp hfile

theorem custom_of_hasCustom (h : s.hasCustom t = .ok false) : s.custom t = .ok [] := by
  rw [hasCustom] at h
  cases hcustom : s.custom t with
  | error e => simp [hcustom, Except.map] at h
  | ok custom => simpa [hcustom, Except.map] using h

/-- Where no template is listed, a name stands for the built-in one. -/
theorem site?_of_hasCustom (h : s.hasCustom t = .ok false) (hkeys : (OrderedMap.keys s.builtins).Nodup)
    (htext : (name, text) ∈ s.builtins) : s.site? t name = .ok (some (.builtin text)) := by
  rw [site?_eq, custom_of_hasCustom h]
  simp [Except.map, OrderedMap.get?, OrderedMap.get?_of_mem hkeys htext]

theorem exists_custom_of_site? {path : Path} (h : s.site? t name = .ok (some (.file path))) :
    ∃ custom, s.custom t = .ok custom ∧ OrderedMap.get? name custom = some path := by
  rw [site?_eq] at h
  cases hcustom : s.custom t with
  | error e =>
    rw [hcustom] at h
    cases h
  | ok custom =>
    refine ⟨custom, rfl, ?_⟩
    rw [hcustom] at h
    cases hpath : OrderedMap.get? name custom with
    | none => cases hbuiltin : OrderedMap.get? name s.builtins <;> simp [Except.map, hpath, hbuiltin] at h
    | some path' => simpa [Except.map, hpath] using h

theorem exists_list_of_site? {path : Path} (h : s.site? t name = .ok (some (.file path))) :
    ∃ listed, s.list t = .ok listed ∧ (name, Origin.custom) ∈ listed := by
  obtain ⟨custom, hcustom, hpath⟩ := exists_custom_of_site? h
  have hmem : name ∈ OrderedMap.keys custom := by
    rw [← OrderedMap.contains_iff_mem_keys, OrderedMap.contains, hpath]
    rfl
  refine ⟨_, by rw [list, hcustom, Except.map], List.mem_map.2 ⟨name, ?_, ?_⟩⟩
  · rw [List.mem_mergeSort, List.mem_eraseDups]
    exact List.mem_append_right _ hmem
  · rw [if_pos (List.contains_iff_mem.2 hmem)]

/-- Templates that are listed are left alone. -/
theorem materialize_of_site? {path : Path} (hs : s.directory = some dir)
    (h : s.site? t name = .ok (some (.file path))) : s.materialize false t = (t, .ok []) := by
  obtain ⟨custom, hcustom, hpath⟩ := exists_custom_of_site? h
  have hpresent : s.hasCustom t = .ok true := by
    cases custom with
    | nil => cases hpath
    | cons e custom => simp [hasCustom, hcustom, Except.map]
  rw [materialize, hs]
  simp [hpresent]

theorem exists_below_of_site? (hs : s.directory = some dir) (hname : IsPlainName name) {path : Path}
    (h : s.site? t name = .ok (some (.file path))) :
    ∃ below, path = Tree.below dir below ∧ IsFileOf below name := by
  obtain ⟨custom, hcustom, hpath⟩ := exists_custom_of_site? h
  have hfirst : firstFile? t dir name = some path := by
    simp only [Shelf.custom, hs] at hcustom
    cases hpresent : t.isDirectory dir with
    | error e =>
      rw [hpresent] at hcustom
      cases hcustom
    | ok present =>
      rw [hpresent] at hcustom
      cases present with
      | false =>
        cases hcustom
        cases hpath
      | true =>
        cases hcustom
        rw [← get?_templatesIn, ← hpath]
        rfl
  rw [firstFile?] at hfirst
  split at hfirst
  · cases hfirst
  · next l hl =>
    obtain ⟨below, hfind, rfl⟩ := Option.map_eq_some_iff.1 hfirst
    obtain ⟨hfile, hmem, -⟩ := find?_filesBelow hfind
    obtain ⟨hne, hlogical⟩ := of_decide_eq_true hfile
    obtain ⟨above, last, rfl, hplain⟩ := hname
    exact ⟨below, rfl, hne, (file_of_logicalName? hplain hlogical).1, isInside_of_mem hmem, hlogical⟩

/-- Before and after the built-in templates come where there were none, no template that a press has
read from a file is current. -/
theorem not_isCurrent (hsound : Press.IsSound s p t ts) (he : t.IsEditedTo t')
    (hs : s.directory = some dir) (hcustom : s.hasCustom t = .ok false) (hrooted : t.IsRooted)
    (hway : t.LeadsTo dir home) (hzero : dir.hasZero = false) (hname : IsPlainName name) {l : Loaded}
    (hl : OrderedMap.get? name p.loaded = some l) (hfile : l.source ≠ none) :
    l.isCurrent t = false ∧ l.isCurrent t' = false := by
  obtain ⟨t₀, ht₀, site, text, hreading⟩ := hsound.read name l hl
  cases site with
  | builtin text => exact absurd hreading.source hfile
  | file path =>
    obtain ⟨bytes, stamp, hfind, hsource⟩ := hreading.exists_stamp
    obtain ⟨below, rfl, hbelow⟩ := exists_below_of_site? hs hname hreading.first
    -- a file with the time of the reading would have been there before
    have hnone {t'' : Tree} (hafter : ∀ k bytes, t''.entry? k = some (.file bytes stamp) →
        t.entry? k = some (.file bytes stamp)) : l.isCurrent t'' = false := by
      rw [Bool.eq_false_iff]
      intro hcurrent
      simp only [Loaded.isCurrent, hsource] at hcurrent
      split at hcurrent
      · next bytes' now hnow =>
        obtain rfl : now = stamp := by simpa using hcurrent
        obtain ⟨k, hk, hentry⟩ := Tree.find_ok.1 hnow
        exact not_file_below hs hcustom hrooted hway hzero hbelow hk _ _ (hafter k _ hentry)
      · cases hcurrent
    refine ⟨hnone fun _ _ hk => hk, hnone fun k bytes' hk => ?_⟩
    rcases he.file k bytes' stamp hk with hk | ⟨hlow, -⟩
    · exact hk
    · obtain ⟨l₀, -, hl₀⟩ := Tree.find_ok.1 hfind
      have hstamp := hsound.stamped t₀ ht₀ l₀ bytes stamp hl₀
      have hclock := (hsound.edited t₀ ht₀).clock
      omega

/-- A built-in template that is now in a file renders as it did. -/
theorem render_of_written (hsound : Press.IsSound s p t ts) {path : Path}
    (hbefore : s.site? t name = .ok (some (.builtin text)))
    (hafter : s.site? t' name = .ok (some (.file path))) (htext : t'.readText path = .ok text)
    (hcurrent : ∀ l, OrderedMap.get? name p.loaded = some l → l.source ≠ none →
      l.isCurrent t = false ∧ l.isCurrent t' = false) (scope : Scope) :
    (p.render t' name scope).2 = (p.render t name scope).2 := by
  have hnow : s.renderNow t' name scope = s.renderNow t name scope := by
    simp only [renderNow, hbefore, hafter, Site.render, Site.textIn, htext]
  have hanew (hnone : p.current? t name = none) (hnone' : p.current? t' name = none) :
      (p.render t' name scope).2 = (p.render t name scope).2 := by
    rw [Press.render_of_current_none hnone, Press.render_of_current_none hnone', hsound.shelf, hnow]
  cases hl : OrderedMap.get? name p.loaded with
  | none => exact hanew (by simp [Press.current?, hl]) (by simp [Press.current?, hl])
  | some l =>
    cases hsource : l.source with
    | none =>
      have hkept (t : Tree) : p.current? t name = some l := by
        simp [Press.current?, hl, Loaded.isCurrent, hsource]
      rw [Press.render_eq, Press.render_eq, Press.fetch_of_current (hkept t),
        Press.fetch_of_current (hkept t')]
    | some source =>
      obtain ⟨hold, hold'⟩ := hcurrent l hl (by simp [hsource])
      exact hanew (by simp [Press.current?, hl, hold]) (by simp [Press.current?, hl, hold'])

/-- Where there was no template, what is written takes the place of no file. -/
theorem entry_of_writes (hs : s.directory = some dir) (hcustom : s.hasCustom t = .ok false)
    (hrooted : t.IsRooted) (hway : t.LeadsTo dir home) (hnames : ∀ e ∈ s.builtins, IsPlainName e.1)
    (hzero : ∀ e ∈ s.builtins, dir.hasZero = false)
    (hafter : t.IsAfterWrites t' (s.builtins.map fun e => (target dir e.1, e.2))) {l : Location}
    {bytes : ByteArray} {stamp : Nat} (hfile : t.entry? l = some (.file bytes stamp)) :
    t'.entry? l = some (.file bytes stamp) ∨
      ∃ e ∈ s.builtins, t'.locate (t.temporary (target dir e.1)) = .ok l := by
  rcases hafter.entry l with hsame | ⟨hnone, -⟩ | ⟨w, hw, hloc, -⟩ | ⟨w, hw, hloc, -⟩
  · exact Or.inl (hsame.trans hfile)
  · rw [hfile] at hnone
    cases hnone
  · obtain ⟨e, he, rfl⟩ := List.mem_map.1 hw
    have hname := isFileName_of_plain (hnames e he)
    rw [target_eq hname] at hloc
    exact absurd hfile
      (not_file_below hs hcustom hrooted hway (hzero e he) hname.isFileOf hloc bytes stamp)
  · obtain ⟨e, he, rfl⟩ := List.mem_map.1 hw
    exact Or.inr ⟨e, he, hloc⟩

/-- Where there was no template, a name comes to the file that is written for it. -/
theorem site?_of_written (hs : s.directory = some dir) (hcustom : s.hasCustom t = .ok false)
    (hrooted : t.IsRooted) (hway : t.LeadsTo dir home) (hnames : ∀ e ∈ s.builtins, IsPlainName e.1)
    (hdistinct : t'.IsDistinct)
    (hafter : t.IsAfterWrites t' (s.builtins.map fun e => (target dir e.1, e.2)))
    {e : String × String} (he : e ∈ s.builtins) (hzero : (target dir e.1).hasZero = false) {stamp : Nat}
    (hfind : t'.find (target dir e.1) = .ok (.file e.2.toUTF8 stamp)) :
    s.site? t' e.1 = .ok (some (.file (target dir e.1))) := by
  have hname := hnames e he
  obtain ⟨⟨bytes, stamp', hrival⟩, -⟩ | ⟨-, hsite⟩ := site?_of_target hs hname hdistinct hzero hfind
  · obtain ⟨l, hl, hfile⟩ := Tree.find_ok.1 hrival
    have hbefore := entry_rival_of_writes hname hnames hafter hl hfile
    have hzero := (directory_of_target hname hzero hfind).1
    obtain ⟨above, last, hname, hplain⟩ := hname
    rw [hname, rival, div_of_plain hplain (by decide)] at hl
    exact absurd hbefore (not_file_below hs hcustom hrooted hway hzero
      (isFileOf_of_plain hplain (Or.inl rfl)) hl bytes stamp')
  · exact hsite

end Transparent

/-- In a tree where every entry stands in a directory, and with a template directory of which the
double dots lead through directories that are there, the built-in templates take the place of no file
but one that stands under a temporary name of theirs. Where any are written, all are: each is listed
as a custom one and loaded as it is, each name renders as before in every press, and there is nothing
more to write. The templates that are delivered are such as is asked here, by `builtins_fit`. -/
theorem materialize_transparent {s : Shelf} {t t' : Tree} {dir : Path} {home : Location}
    {paths : List Path} (hs : s.directory = some dir) (hnames : ∀ e ∈ s.builtins, IsPlainName e.1)
    (hkeys : (OrderedMap.keys s.builtins).Nodup) (hreturns : ∀ e ∈ s.builtins, '\r' ∉ e.2.toList)
    (hrooted : t.IsRooted) (hdistinct : t.IsDistinct) (hway : t.LeadsTo dir home)
    (h : s.materialize false t = (t', .ok paths)) :
    (∀ l bytes stamp, t.entry? l = some (.file bytes stamp) →
      t'.entry? l = some (.file bytes stamp) ∨
        ∃ e ∈ s.builtins, t'.locate (t.temporary (target dir e.1)) = .ok l) ∧
    (paths ≠ [] →
      (∀ e ∈ s.builtins,
        (∃ listed, s.list t' = .ok listed ∧ (e.1, Origin.custom) ∈ listed) ∧
        (∃ stamp, Press.load s t' e.1 = Press.compiled (some (target dir e.1, stamp)) e.1 e.2) ∧
        ∀ p ts, Press.History s p (t :: ts) → ∀ scope,
          (p.render t' e.1 scope).2 = (p.render t e.1 scope).2) ∧
      s.materialize false t' = (t', .ok [])) := by
  rcases materialize_ok hs h with ⟨-, -, rfl, rfl⟩ | ⟨hcustom, hwritten⟩
  · exact ⟨fun _ _ _ hfile => Or.inl hfile, fun hne => absurd rfl hne⟩
  · specialize hcustom rfl
    obtain ⟨hsome, hholds, hkept, hafter⟩ := holdsAll_builtins hnames hkeys hwritten
    have hzero (e : String × String) (he : e ∈ s.builtins) : dir.hasZero = false := by
      obtain ⟨hzero, stamp, hfind⟩ := hholds e he
      exact (directory_of_target (hnames e he) hzero hfind).1
    have hsite (e : String × String) (he : e ∈ s.builtins) :
        s.site? t' e.1 = .ok (some (.file (target dir e.1))) := by
      obtain ⟨hzero, stamp, hfind⟩ := hholds e he
      exact site?_of_written hs hcustom hrooted hway hnames (hkept hdistinct) hafter he hzero hfind
    refine ⟨fun _ _ _ => entry_of_writes hs hcustom hrooted hway hnames hzero hafter, ?_⟩
    intro hpaths
    constructor
    · intro e he
      obtain ⟨-, stamp, hfind⟩ := hholds e he
      refine ⟨exists_list_of_site? (hsite e he),
        ⟨stamp, by rw [load_of_site? (hsite e he), loadFile_target (hreturns e he) hfind]⟩, ?_⟩
      intro p ts hhistory scope
      refine render_of_written hhistory.isSound (site?_of_hasCustom hcustom hkeys he) (hsite e he)
        (readText_target (hreturns e he) hfind) ?_ scope
      intro l hl hfile
      exact not_isCurrent hhistory.isSound hafter.isEditedTo hs hcustom hrooted hway (hzero e he)
        (hnames e he) hl hfile
    · obtain ⟨e, he⟩ := List.exists_mem_of_ne_nil _ (hsome hpaths)
      exact materialize_of_site? hs (hsite e he)

/-- Beside a file that is no template. -/
theorem materialize_transparent_note :
    Press.lateShelf.materialize false (besideTree "note") =
      (filledTree "note", .ok [Press.templatePath]) ∧
    (∃ listed, Press.lateShelf.list (filledTree "note") = .ok listed ∧
      ("a", Origin.custom) ∈ listed) ∧
    (({ shelf := Press.lateShelf } : Press).render (filledTree "note") "a" []).2 =
      (({ shelf := Press.lateShelf } : Press).render (besideTree "note") "a" []).2 ∧
    Press.lateShelf.materialize false (filledTree "note") = (filledTree "note", .ok []) := by
  have hnone : templatesIn (besideTree "note") { segments := ["tpl"] } = [] :=
    templatesIn_besideTree (List.mergeSort_singleton _) (by decide +kernel)
  have hdone : Press.lateShelf.materialize false (besideTree "note") =
      (filledTree "note", .ok [Press.templatePath]) :=
    materialize_lateShelf hasCustom_besideTree (by simp [hnone]) (writeText_besideTree rfl rfl)
  have hrooted : (besideTree "note").IsRooted := by
    apply Tree.isRooted_of_entries
    simp only [besideTree, List.forall_mem_cons]
    exact ⟨rfl, rfl, fun _ h => absurd h List.not_mem_nil⟩
  have hstamped : (besideTree "note").IsStamped := by
    intro l bytes stamp he
    rw [Tree.entry?] at he
    split at he
    · cases he
    · have hmem := OrderedMap.mem_of_get? he
      simp only [besideTree, List.mem_cons, Prod.mk.injEq, reduceCtorEq, and_false, false_or,
        List.not_mem_nil, or_false, Entry.file.injEq] at hmem
      exact hmem.2.2.le
  have hdirectory : Press.lateShelf.directory = some { segments := ["tpl"] } := rfl
  obtain ⟨-, hall⟩ := materialize_transparent hdirectory isPlainName_lateShelf (by decide)
    (by decide) hrooted isDistinct_besideTree
    ⟨["tpl"], [], ["tpl"], rfl, List.not_mem_nil, rfl, rfl, rfl⟩ hdone
  obtain ⟨heach, hagain⟩ := hall (by simp)
  obtain ⟨hlisted, -, hrender⟩ := heach ("a", "built-in") (List.mem_singleton_self _)
  exact ⟨hdone, hlisted, hrender _ [] (.new _ hstamped) [], hagain⟩

/-- A template directory that is reached through one that is missing. -/
def dottedShelf : Shelf where
  directory := some { segments := ["missing", "..", "tpl"] }
  builtins := [("a", "built-in")]

def dottedTree : Tree where
  entries := (Press.templateTree "built-in" 2).entries ++ [(["missing"], .directory)]
  clock := 2

theorem writeText_dotted : (Press.templateTree "mine" 1).writeText
    { segments := ["missing", "..", "tpl", "a.go.tmpl"] } "built-in" = (dottedTree, none) := by
  let t : Tree := { Press.templateTree "mine" 1 with
    entries := (Press.templateTree "mine" 1).entries ++ [(["missing"], .directory)] }
  have hup : t.ensureDirectory { segments := ["missing", ".."] } = .ok t :=
    Tree.ensureDirectory_of_find (hasZero_eq_false (by decide)) rfl
  have hthere : t.ensureDirectory { segments := ["missing", "..", "tpl"] } = .ok t :=
    Tree.ensureDirectory_of_find (hasZero_eq_false (by decide)) rfl
  have hmissing : (Press.templateTree "mine" 1).makeDirectories "" ["missing"] = (t, none) := rfl
  have hmade : (Press.templateTree "mine" 1).makeDirectories "" ["tpl", "..", "missing"] = (t, none) :=
    Tree.makeDirectories_of_missing rfl rfl (Tree.makeDirectories_of_missing rfl rfl hmissing hup) hthere
  exact Tree.writeText_of_steps (by decide) (hasZero_eq_false (by decide))
    (hasZero_eq_false (by decide)) hmade rfl rfl

/-- A directory that is missed because of a missing one in front of double dots loses its template,
and a file under the temporary name is lost. -/
theorem materialize_not_transparent :
    (dottedShelf.materialize false (Press.templateTree "mine" 1)).1 = dottedTree ∧
    (Press.templateTree "mine" 1).readBytes Press.templatePath = .ok "mine".toUTF8 ∧
    dottedTree.readBytes Press.templatePath = .ok "built-in".toUTF8 ∧
    (Press.lateShelf.materialize false (besideTree ".a.go.tmpl.tmp.PID")).1 =
      Press.templateTree "built-in" 2 ∧
    (besideTree ".a.go.tmpl.tmp.PID").readBytes
      ((besideTree ".a.go.tmpl.tmp.PID").temporary Press.templatePath) = .ok "mine".toUTF8 ∧
    (Press.templateTree "built-in" 2).find
      ((besideTree ".a.go.tmpl.tmp.PID").temporary Press.templatePath) = .error .absent := by
  have hcustom : dottedShelf.hasCustom (Press.templateTree "mine" 1) = .ok false := by
    have hzero : Path.hasZero { segments := ["missing", "..", "tpl"] } = false :=
      hasZero_eq_false (by decide)
    have hfind : (Press.templateTree "mine" 1).find { segments := ["missing", "..", "tpl"] } =
        .error .absent := rfl
    simp [hasCustom, custom, dottedShelf, Tree.isDirectory, Tree.probe, hzero, hfind, Except.map]
  have htarget : target { segments := ["missing", "..", "tpl"] } "a" =
      { segments := ["missing", "..", "tpl", "a.go.tmpl"] } := by decide +kernel
  have hnone : templatesIn (besideTree ".a.go.tmpl.tmp.PID") { segments := ["tpl"] } = [] :=
    templatesIn_besideTree (List.mergeSort_singleton _) (by decide +kernel)
  have hdirectory : dottedShelf.directory = some { segments := ["missing", "..", "tpl"] } := rfl
  have hwritten : (besideTree ".a.go.tmpl.tmp.PID").writeText Press.templatePath "built-in" =
      (Press.templateTree "built-in" 2, none) := writeText_besideTree rfl rfl
  refine ⟨?_, rfl, rfl, ?_, rfl, rfl⟩
  · rw [materialize_single hdirectory rfl hcustom rfl (htarget ▸ writeText_dotted)]
  · rw [materialize_lateShelf hasCustom_besideTree (by simp [hnone]) hwritten]

end Shelf

end GoScaffold.Template
