import GoScaffold.Proofs.Template.FileName
import GoScaffold.Proofs.Template.History

/-!
# Built-in templates in files

Once every built-in template is in its file, the file is what its name stands for, unless one with
the ending `.go.j2` comes before it. So templates that replace what is there are not always the ones
that are found.
-/
namespace GoScaffold

open GoScaffold.Text

/-- A file that no write gets to stays. -/
theorem Tree.IsAfterWrites.find_file {t t' : Tree} {writes : List (Path × String)} {p : Path}
    {bytes : ByteArray} {stamp : Nat} (h : t.IsAfterWrites t' writes)
    (hfind : t.find p = .ok (.file bytes stamp))
    (hother : ∀ w ∈ writes, ∀ l, t'.locate p = .ok l →
      t'.locate w.1 ≠ .ok l ∧ t'.locate (t.temporary w.1) ≠ .ok l) :
    t'.find p = .ok (.file bytes stamp) := by
  obtain ⟨l, hl, he⟩ := find_ok.1 hfind
  have hl' := locate_congr h.directory hl
  refine find_ok.2 ⟨l, hl', ?_⟩
  rcases h.entry l with hsame | ⟨hnone, -⟩ | ⟨w, hw, hloc, -⟩ | ⟨w, hw, hloc, -⟩
  · exact hsame.trans he
  · rw [he] at hnone
    cases hnone
  · exact absurd hloc (hother w hw l hl').1
  · exact absurd hloc (hother w hw l hl').2

namespace Template

section Builtins

theorem not_mem_of_eq_ofList {c : Char} {s : String} {cs : List Char} (h : s = String.ofList cs)
    (hc : c ∉ cs) : c ∉ s.toList := by
  rwa [h, String.toList_ofList]

theorem no_return_textOf {lines : List String} (h : ∀ l ∈ lines, '\r' ∉ l.toList) :
    '\r' ∉ (textOf lines).toList := by
  induction lines with
  | nil => exact List.not_mem_nil
  | cons l lines ih =>
    obtain ⟨hl, hlines⟩ := List.forall_mem_cons.1 h
    specialize ih hlines
    simp only [textOf, List.map_cons, concat, String.toList_append, List.mem_append, not_or] at ih ⊢
    exact ⟨⟨hl, by decide⟩, ih⟩

/-- No built-in template has a return in it, which would be read as a newline from its file. -/
theorem no_return_builtins : ∀ e ∈ builtins, '\r' ∉ e.2.toList := by
  simp only [builtins, List.forall_mem_cons]
  refine ⟨?_, ?_, ?_, ?_, ?_, ?_, ?_, fun _ h => absurd h List.not_mem_nil⟩
  all_goals
    apply no_return_textOf
    simp only [List.forall_mem_cons, shown, tag, String.toList_append, List.mem_append, not_or]
    and_intros
  -- a literal is compared with its characters: to compute them from its bytes takes too long
  all_goals first
    | exact not_mem_of_eq_ofList rfl (by decide)
    | exact fun _ h => absurd h List.not_mem_nil

/-- The built-in templates that are delivered can stand in files: no two have one name, the names are
plain, and the texts come back as they are. -/
theorem builtins_fit : (OrderedMap.keys builtins).Nodup ∧
    ∀ e ∈ builtins, IsPlainName e.1 ∧ '\r' ∉ e.2.toList := by
  refine ⟨by simp [builtins, OrderedMap.keys], fun e he => ⟨?_, no_return_builtins e he⟩⟩
  simp only [builtins, List.mem_cons, List.not_mem_nil, or_false] at he
  rcases he with rfl | rfl | rfl | rfl | rfl | rfl | rfl
  · exact ⟨["domain"], "entity", rfl, by decide⟩
  · exact ⟨["usecase"], "dto", rfl, by decide⟩
  · exact ⟨["repository"], "interface", rfl, by decide⟩
  · exact ⟨["handler", "http"], "handler", rfl, by decide⟩
  · exact ⟨["messages"], "errors", rfl, by decide⟩
  · exact ⟨["messages"], "responses", rfl, by decide⟩
  · exact ⟨["constants"], "constants", rfl, by decide⟩

end Builtins

namespace Shelf

section Apart

variable {t : Tree} {dir : Path} {l : Location} {name name' : String}

theorem eq_append_of_locate {home : Location} {below : List String} (hhome : t.locate dir = .ok home)
    (hne : below ≠ []) (hdown : ".." ∉ below) (hl : t.locate (Tree.below dir below) = .ok l) :
    l = home ++ below := by
  obtain ⟨home', hhome', -, rfl⟩ := locate_below hne hdown hl
  rw [Except.ok.inj (hhome.symm.trans hhome')]

theorem eq_of_locate_below {below below' : List String} (hne : below ≠ []) (hdown : ".." ∉ below)
    (hne' : below' ≠ []) (hdown' : ".." ∉ below') (hl : t.locate (Tree.below dir below) = .ok l)
    (hl' : t.locate (Tree.below dir below') = .ok l) : below = below' := by
  obtain ⟨home, hhome, -, rfl⟩ := locate_below hne hdown hl
  exact List.append_cancel_left (eq_append_of_locate hhome hne' hdown' hl')

/-- No two names have one file. -/
theorem eq_of_locate_target (h : IsFileName name) (h' : IsFileName name')
    (hl : t.locate (target dir name) = .ok l) (hl' : t.locate (target dir name') = .ok l) :
    name = name' := by
  rw [target_eq h] at hl
  rw [target_eq h'] at hl'
  have hsame := eq_of_locate_below h.isFileOf.ne_nil h.down h'.isFileOf.ne_nil h'.down hl hl'
  have hlogical := h.logical
  rw [hsame, h'.logical] at hlogical
  exact (Option.some.inj hlogical).symm

/-- Two files of which the names end differently are in different places. -/
theorem locate_ne_of_ending {above above' : List String} {x y a b : String} {c d : Char}
    (ha : a.toList.getLast? = some c) (hb : b.toList.getLast? = some d) (hcd : c ≠ d)
    (hdown : ".." ∉ above ++ [x ++ a]) (hdown' : ".." ∉ above' ++ [y ++ b])
    (hl : t.locate (Tree.below dir (above ++ [x ++ a])) = .ok l) :
    t.locate (Tree.below dir (above' ++ [y ++ b])) ≠ .ok l := by
  intro hl'
  have hsame := eq_of_locate_below (by simp) hdown (by simp) hdown' hl hl'
  exact ne_of_last ha hb hcd (List.append_singleton_inj.1 hsame).2

end Apart

/-- Every template stands in its file. -/
def HoldsAll (t : Tree) (dir : Path) (templates : List (String × String)) : Prop :=
  ∀ e ∈ templates, (target dir e.1).hasZero = false ∧
    ∃ stamp, t.find (target dir e.1) = .ok (.file e.2.toUTF8 stamp)

section Write

variable {s : Shelf} {t t' : Tree} {dir : Path} {l home : Location}
  {templates : List (String × String)} {paths : List Path}

theorem temporary_target (t : Tree) {above : List String} {last : String}
    (h : ∀ s ∈ above ++ [last], IsPlainSegment s) :
    t.temporary (target dir (join "/" (above ++ [last]))) =
      Tree.below dir (above ++ [t.temporaryName (last ++ ".go.tmpl")]) := by
  rw [target, div_of_plain h (by decide), Tree.temporary, Path.withName, Tree.name_below]
  simp [Tree.below, ← List.append_assoc]

/-- A template that has been written stays when others are. -/
theorem find_target_of_writes {name : String} (hname : IsPlainName name)
    (hothers : ∀ e ∈ templates, IsPlainName e.1 ∧ e.1 ≠ name) {bytes : ByteArray} {stamp : Nat}
    (h : t.IsAfterWrites t' (templates.map fun e => (target dir e.1, e.2)))
    (hfind : t.find (target dir name) = .ok (.file bytes stamp)) :
    t'.find (target dir name) = .ok (.file bytes stamp) := by
  refine h.find_file hfind ?_
  intro w hw l hl
  obtain ⟨e, he, rfl⟩ := List.mem_map.1 hw
  obtain ⟨hplain, hne⟩ := hothers e he
  constructor
  · intro hl'
    exact hne (eq_of_locate_target (isFileName_of_plain hplain) (isFileName_of_plain hname) hl' hl)
  · obtain ⟨above, last, rfl, hsegments⟩ := hname
    obtain ⟨above', last', he', hother⟩ := hplain
    rw [target, div_of_plain hsegments (by decide)] at hl
    simp only [he', temporary_target t hother]
    obtain ⟨c, hmark, hlower⟩ := Tree.exists_getLast_mark t.process
    refine locate_ne_of_ending (a := ".go.tmpl") rfl hmark ?_ ?_ ?_ hl
    · rintro rfl
      cases hlower
    · exact (isFileOf_of_plain hsegments (Or.inr rfl)).down
    · intro hdots
      rcases List.mem_append.1 hdots with hdots | hdots
      · exact (hother ".." (List.mem_append_left _ hdots)).up rfl
      · exact Tree.temporaryName_ne_dots t _ (List.mem_singleton.1 hdots).symm

/-- A file in front of a template is none that has been written. -/
theorem entry_rival_of_writes {name : String} (hname : IsPlainName name)
    (hnames : ∀ e ∈ templates, IsPlainName e.1) {bytes : ByteArray} {stamp : Nat}
    (h : t.IsAfterWrites t' (templates.map fun e => (target dir e.1, e.2)))
    (hl : t'.locate (rival dir name) = .ok l) (he : t'.entry? l = some (.file bytes stamp)) :
    t.entry? l = some (.file bytes stamp) := by
  rcases h.entry l with hsame | ⟨-, hmade⟩ | ⟨w, hw, hloc, -⟩ | ⟨w, -, -, hgone⟩
  · rw [← hsame, he]
  · rw [he] at hmade
    cases hmade
  · obtain ⟨e, he, rfl⟩ := List.mem_map.1 hw
    obtain ⟨above, last, rfl, hplain⟩ := hname
    obtain ⟨above', last', he', hplain'⟩ := hnames e he
    rw [rival, div_of_plain hplain (by decide)] at hl
    rw [he', target, div_of_plain hplain' (by decide)] at hloc
    refine absurd hloc (locate_ne_of_ending (a := ".go.j2") (b := ".go.tmpl") rfl rfl (by decide)
      ?_ ?_ hl)
    · exact (isFileOf_of_plain hplain (Or.inl rfl)).down
    · exact (isFileOf_of_plain hplain' (Or.inr rfl)).down
  · exact absurd he (hgone bytes stamp)

/-- Writing all leaves all of them, and no location listed twice. -/
theorem holdsAll_of_writeAll (hnames : ∀ e ∈ templates, IsPlainName e.1)
    (hkeys : (OrderedMap.keys templates).Nodup)
    (h : writeAll dir templates t = (t', .ok paths)) :
    paths = templates.map (fun e => target dir e.1) ∧ HoldsAll t' dir templates ∧
      (t.IsDistinct → t'.IsDistinct) := by
  induction templates generalizing t paths with
  | nil =>
    cases h
    exact ⟨rfl, fun e he => absurd he List.not_mem_nil, id⟩
  | cons e rest ih =>
    rw [OrderedMap.keys, List.map_cons, List.nodup_cons] at hkeys
    have hafter := isAfterWrites_writeAll dir rest
    rw [writeAll] at h
    split at h
    · cases h
    · next t₁ hwrite =>
      specialize hafter t₁
      split at h
      · next t₂ paths' hrest =>
        cases h
        rw [hrest] at hafter
        obtain ⟨rfl, hholds, hdistinct⟩ :=
          ih (fun e' he' => hnames e' (List.mem_cons_of_mem _ he')) hkeys.2 hrest
        refine ⟨rfl, ?_, fun hd => hdistinct (hd.writeText hwrite)⟩
        intro e' he'
        rcases List.mem_cons.1 he' with rfl | he'
        · obtain ⟨hzero, stamp, hfind⟩ := Tree.find_writeText hwrite
          refine ⟨hzero, stamp, find_target_of_writes (hnames _ (List.mem_cons_self ..)) ?_ hafter hfind⟩
          intro e'' he''
          refine ⟨hnames e'' (List.mem_cons_of_mem _ he''), fun hsame => hkeys.1 ?_⟩
          exact hsame ▸ List.mem_map_of_mem he''
        · exact hholds e' he'
      · cases h

/-- Templates are written unless there are some already that are not to be replaced. -/
theorem materialize_ok {force : Bool} (hs : s.directory = some dir)
    (h : s.materialize force t = (t', .ok paths)) :
    s.hasCustom t = .ok true ∧ force = false ∧ t' = t ∧ paths = [] ∨
      (force = false → s.hasCustom t = .ok false) ∧
        writeAll dir (s.builtins.mergeSort fun a b => decide (a.1 ≤ b.1)) t = (t', .ok paths) := by
  rw [materialize, hs] at h
  cases hcustom : s.hasCustom t with
  | error e =>
    rw [hcustom] at h
    cases h
  | ok present =>
    simp only [hcustom] at h
    split at h
    · next hpresent =>
      cases h
      simp only [Bool.and_eq_true, Bool.not_eq_true'] at hpresent
      exact Or.inl ⟨by rw [hpresent.1], hpresent.2, rfl, rfl⟩
    · next hpresent =>
      refine Or.inr ⟨?_, h⟩
      rintro rfl
      cases present <;> simp_all

theorem holdsAll_builtins (hnames : ∀ e ∈ s.builtins, IsPlainName e.1)
    (hkeys : (OrderedMap.keys s.builtins).Nodup)
    (h : writeAll dir (s.builtins.mergeSort fun a b => decide (a.1 ≤ b.1)) t = (t', .ok paths)) :
    (paths ≠ [] → s.builtins ≠ []) ∧ HoldsAll t' dir s.builtins ∧ (t.IsDistinct → t'.IsDistinct) ∧
      t.IsAfterWrites t' (s.builtins.map fun e => (target dir e.1, e.2)) := by
  have hperm := List.mergeSort_perm s.builtins fun a b => decide (a.1 ≤ b.1)
  have hafter := isAfterWrites_writeAll dir (s.builtins.mergeSort fun a b => decide (a.1 ≤ b.1)) t
  rw [h] at hafter
  obtain ⟨rfl, hholds, hdistinct⟩ := holdsAll_of_writeAll
    (fun e he => hnames e (hperm.mem_iff.1 he)) ((hperm.map _).nodup_iff.2 hkeys) h
  refine ⟨?_, fun e he => hholds e (hperm.mem_iff.2 he), hdistinct, ?_⟩
  · rintro hpaths hempty
    exact hpaths (by simp [hempty])
  · exact hafter.mono ((hperm.map _).subset)

end Write

section Find

variable {s : Shelf} {t t' : Tree} {dir : Path} {l home : Location} {above : List String}
  {last name text : String}

theorem directory_of_target (hname : IsPlainName name) (hzero : (target dir name).hasZero = false)
    {e : Entry} (hfind : t.find (target dir name) = .ok e) :
    dir.hasZero = false ∧ ∃ home, t.locate dir = .ok home ∧ t.isDirectory dir = .ok true := by
  have hfile := isFileName_of_plain hname
  obtain ⟨l, hl, -⟩ := Tree.find_ok.1 hfind
  rw [target_eq hfile] at hl hzero
  obtain ⟨home, hhome, hdirectory, -⟩ := locate_below hfile.isFileOf.ne_nil hfile.down hl
  have hzero : dir.hasZero = false := by
    rw [Tree.hasZero_eq, List.any_eq_false] at hzero ⊢
    exact fun s hs => hzero s (List.mem_append_left _ hs)
  exact ⟨hzero, home, hhome, isDirectory_of_locate hzero hhome hdirectory⟩

/-- The file in front of a written template is one that is listed. -/
theorem mem_filesBelow_iff (hplain : ∀ s ∈ above ++ [last], IsPlainSegment s)
    (hdistinct : t.IsDistinct) (hhome : t.locate dir = .ok home)
    (hl : t.locate (target dir (join "/" (above ++ [last]))) = .ok l) :
    above ++ [last ++ ".go.j2"] ∈ t.filesBelow home ↔
      ∃ bytes stamp, t.find (rival dir (join "/" (above ++ [last]))) = .ok (.file bytes stamp) := by
  have hfile := isFileOf_of_plain hplain (Or.inr rfl)
  have hrival := isFileOf_of_plain hplain (Or.inl rfl)
  rw [target, div_of_plain hplain (by decide)] at hl
  rw [rival, div_of_plain hplain (by decide)]
  have hlast : IsPlainSegment last := hplain last (by simp)
  have hj2 : IsPlainSegment (last ++ ".go.j2") := hlast.append (by decide)
  have htmpl : IsPlainSegment (last ++ ".go.tmpl") := hlast.append (by decide)
  have hl' := eq_append_of_locate hhome hfile.ne_nil hfile.down hl
  have hsize : (last ++ ".go.j2").utf8ByteSize ≤ (last ++ ".go.tmpl").utf8ByteSize := by
    rw [String.utf8ByteSize_append, String.utf8ByteSize_append]
    exact Nat.add_le_add_left (by decide) _
  obtain ⟨k, hk, hplace⟩ := locate_shorter htmpl.up hj2.up hsize hl
  rw [hl', ← List.append_assoc, List.append_singleton_inj] at hk
  rw [← hk.1] at hplace
  constructor
  · intro hmem
    have hfree : Tree.isFixed (home ++ (above ++ [last ++ ".go.j2"])) = false := by
      rw [← List.append_assoc]
      exact not_isFixed_of_plain hj2 _
    obtain ⟨bytes, stamp, he⟩ := entry_of_mem_filesBelow hdistinct hfree hmem
    exact ⟨bytes, stamp, Tree.find_ok.2 ⟨_, hplace, by rwa [List.append_assoc]⟩⟩
  · rintro ⟨bytes, stamp, hfind⟩
    obtain ⟨x, hx, he⟩ := Tree.find_ok.1 hfind
    obtain rfl := Except.ok.inj (hplace.symm.trans hx)
    rw [List.append_assoc] at he
    exact mem_filesBelow he hrival.inside

/-- The site of a template that has been written is its file, unless there is one in front of it. -/
theorem site?_of_target (hs : s.directory = some dir) (hname : IsPlainName name)
    (hdistinct : t.IsDistinct) {bytes : ByteArray} {stamp : Nat}
    (hzero : (target dir name).hasZero = false)
    (hfind : t.find (target dir name) = .ok (.file bytes stamp)) :
    (∃ bytes stamp, t.find (rival dir name) = .ok (.file bytes stamp)) ∧
        s.site? t name = .ok (some (.file (rival dir name))) ∨
      (¬ ∃ bytes stamp, t.find (rival dir name) = .ok (.file bytes stamp)) ∧
        s.site? t name = .ok (some (.file (target dir name))) := by
  obtain ⟨-, home, hhome, hpresent⟩ := directory_of_target hname hzero hfind
  obtain ⟨above, last, rfl, hplain⟩ := hname
  obtain ⟨l, hl, he⟩ := Tree.find_ok.1 hfind
  have hmem := mem_filesBelow_iff hplain hdistinct hhome hl
  have hthere : above ++ [last ++ ".go.tmpl"] ∈ t.filesBelow home := by
    have hfile := isFileOf_of_plain hplain (Or.inr rfl)
    rw [target, div_of_plain hplain (by decide)] at hl
    rw [eq_append_of_locate hhome hfile.ne_nil hfile.down hl] at he
    exact mem_filesBelow he hfile.inside
  have hfirst := find?_of_plain hplain hthere
  have hsite : s.site? t (join "/" (above ++ [last])) = .ok (some (.file (Tree.below dir
      (above ++ [last ++ if above ++ [last ++ ".go.j2"] ∈ t.filesBelow home then ".go.j2"
        else ".go.tmpl"])))) := by
    simp only [site?, hs, hpresent, Except.map, if_true, firstFile?, hhome, hfirst, Option.map_some,
      Option.some_or]
    rfl
  rw [← hmem, hsite]
  by_cases hrival : above ++ [last ++ ".go.j2"] ∈ t.filesBelow home
  · exact Or.inl ⟨hrival, by rw [if_pos hrival, rival, div_of_plain hplain (by decide)]⟩
  · exact Or.inr ⟨hrival, by rw [if_neg hrival, target, div_of_plain hplain (by decide)]⟩

theorem readText_target (hreturn : '\r' ∉ text.toList) {stamp : Nat}
    (hfind : t.find (target dir name) = .ok (.file text.toUTF8 stamp)) :
    t.readText (target dir name) = .ok text := by
  rw [Tree.readText_of_file hfind (Tree.decodeUtf8_toByteArray text),
    withNewlines_of_no_return hreturn]

theorem load_of_site? {path : Path} (h : s.site? t name = .ok (some (.file path))) :
    Press.load s t name = Press.loadFile t name path := by
  rw [Press.load_eq, h, Press.loadFile]
  cases htext : t.readText path with
  | error e => simp only [Site.textIn, htext]
  | ok text =>
    simp only [Site.textIn, htext]
    rfl

theorem loadFile_target (hreturn : '\r' ∉ text.toList) {stamp : Nat}
    (hfind : t.find (target dir name) = .ok (.file text.toUTF8 stamp)) :
    Press.loadFile t name (target dir name) =
      Press.compiled (some (target dir name, stamp)) name text := by
  rw [Press.loadFile, readText_target hreturn hfind, hfind]

end Find

section Beside

/-- A template directory with one file. -/
def besideTree (file : String) : Tree where
  entries := [(["tpl"], .directory), (["tpl", file], .file "mine".toUTF8 1)]
  clock := 1

def filledTree (file : String) : Tree where
  entries := (besideTree file).entries ++ [(["tpl", "a.go.tmpl"], .file "built-in".toUTF8 2)]
  clock := 2

variable {file : String}

theorem isDirectory_besideTree : (besideTree file).isDirectory { segments := ["tpl"] } = .ok true := by
  have hlocate : (besideTree file).locate { segments := ["tpl"] } = .ok ["tpl"] := rfl
  exact isDirectory_of_locate Press.hasZero_templates hlocate rfl

theorem hasCustom_besideTree : Press.lateShelf.hasCustom (besideTree file) =
    .ok (!(templatesIn (besideTree file) { segments := ["tpl"] }).isEmpty) := by
  simp [hasCustom, custom, Press.lateShelf, isDirectory_besideTree, Except.map]

theorem templatesIn_besideTree (hfiles : (besideTree file).filesBelow ["tpl"] = [[file]])
    (hname : logicalName? file = none) :
    templatesIn (besideTree file) { segments := ["tpl"] } = [] := by
  have hlocate : (besideTree file).locate { segments := ["tpl"] } = .ok ["tpl"] := rfl
  rw [templatesIn_of_locate hlocate, hfiles]
  simp [listed?, join, hname, firstOfEach]

theorem materialize_single {s : Shelf} {dir : Path} {name text : String} {t t' : Tree}
    {force present : Bool} (hs : s.directory = some dir) (hsingle : s.builtins = [(name, text)])
    (hcustom : s.hasCustom t = .ok present) (hforce : (present && !force) = false)
    (hwrite : t.writeText (target dir name) text = (t', none)) :
    s.materialize force t = (t', .ok [target dir name]) := by
  have hsort : (s.builtins.mergeSort fun a b => decide (a.1 ≤ b.1)) = [(name, text)] := by
    rw [hsingle, List.mergeSort_singleton]
  have hall : writeAll dir [(name, text)] t = (t', .ok [target dir name]) := by
    simp only [writeAll, show dir / (name ++ ".go.tmpl") = target dir name from rfl, hwrite]
  rw [materialize, hs]
  simp only [hcustom, hforce, hsort, hall, Bool.false_eq_true, if_false]

theorem target_tpl : target { segments := ["tpl"] } "a" = Press.templatePath := by decide +kernel

theorem materialize_lateShelf {t t' : Tree} {force present : Bool}
    (hcustom : Press.lateShelf.hasCustom t = .ok present) (hforce : (present && !force) = false)
    (hwrite : t.writeText Press.templatePath "built-in" = (t', none)) :
    Press.lateShelf.materialize force t = (t', .ok [Press.templatePath]) := by
  rw [← target_tpl] at hwrite ⊢
  exact materialize_single rfl rfl hcustom hforce hwrite

theorem writeText_besideTree {written : Tree}
    (hbytes : (besideTree file).writeBytes ((besideTree file).temporary Press.templatePath)
      "built-in".toUTF8 = .ok written) {moved : Tree}
    (hmove : written.moveFile ((besideTree file).temporary Press.templatePath) Press.templatePath =
      .ok moved) :
    (besideTree file).writeText Press.templatePath "built-in" = (moved, none) := by
  have hmade : (besideTree file).makeDirectories "" ["tpl"] = (besideTree file, none) := by
    have hfind : (besideTree file).find { segments := ["tpl"] } = .ok .directory := rfl
    simp [Tree.makeDirectories, Tree.ensureDirectory_of_find Press.hasZero_templates hfind]
  exact Tree.writeText_of_steps (by decide) (hasZero_eq_false (by decide))
    (hasZero_eq_false (by decide)) hmade hbytes hmove

theorem isPlainName_lateShelf : ∀ e ∈ Press.lateShelf.builtins, IsPlainName e.1 := by
  intro e he
  obtain rfl := List.mem_singleton.1 he
  exact ⟨[], "a", rfl, by decide⟩

theorem isDistinct_besideTree : (besideTree file).IsDistinct := by
  simp [Tree.IsDistinct, besideTree, OrderedMap.keys]

end Beside

/-- Where the built-in templates replace what is there, each is in its file, and its name comes to it
whatever else the directory holds, but for a file with the ending `.go.j2`: that one stays as it was,
and the name goes on to stand for it. What is asked of the templates holds of those that are delivered,
by `builtins_fit`. -/
theorem load_materialize_force {s : Shelf} {t t' : Tree} {dir : Path} {paths : List Path}
    (hs : s.directory = some dir) (hnames : ∀ e ∈ s.builtins, IsPlainName e.1)
    (hkeys : (OrderedMap.keys s.builtins).Nodup) (hreturns : ∀ e ∈ s.builtins, '\r' ∉ e.2.toList)
    (hdistinct : t.IsDistinct) (h : s.materialize true t = (t', .ok paths)) :
    ∀ e ∈ s.builtins, t'.readText (target dir e.1) = .ok e.2 ∧
      ((¬ ∃ bytes stamp, t'.find (rival dir e.1) = .ok (.file bytes stamp)) →
        ∃ stamp, Press.load s t' e.1 = Press.compiled (some (target dir e.1, stamp)) e.1 e.2) ∧
      ∀ bytes stamp, t'.find (rival dir e.1) = .ok (.file bytes stamp) →
        Press.load s t' e.1 = Press.loadFile t' e.1 (rival dir e.1) ∧
          ∃ l, t'.locate (rival dir e.1) = .ok l ∧ t.entry? l = some (.file bytes stamp) := by
  intro e he
  rcases materialize_ok hs h with ⟨-, hforce, -⟩ | ⟨-, hwritten⟩
  · cases hforce
  · obtain ⟨-, hholds, hkept, hafter⟩ := holdsAll_builtins hnames hkeys hwritten
    obtain ⟨hzero, stamp, hfind⟩ := hholds e he
    refine ⟨readText_target (hreturns e he) hfind, ?_, ?_⟩
    · intro hnone
      obtain ⟨hsome, -⟩ | ⟨-, hsite⟩ := site?_of_target hs (hnames e he) (hkept hdistinct) hzero hfind
      · exact absurd hsome hnone
      · exact ⟨stamp, by rw [load_of_site? hsite, loadFile_target (hreturns e he) hfind]⟩
    · intro bytes stamp' hrival
      obtain ⟨-, hsite⟩ | ⟨hnone, -⟩ := site?_of_target hs (hnames e he) (hkept hdistinct) hzero hfind
      · refine ⟨load_of_site? hsite, ?_⟩
        obtain ⟨l, hl, hfile⟩ := Tree.find_ok.1 hrival
        exact ⟨l, hl, entry_rival_of_writes (hnames e he) hnames hafter hl hfile⟩
      · exact absurd ⟨bytes, stamp', hrival⟩ hnone

/-- The file in front of the one that is written goes on to be the template. -/
theorem load_materialize_force_rival :
    Press.lateShelf.materialize true (besideTree "a.go.j2") =
      (filledTree "a.go.j2", .ok [Press.templatePath]) ∧
    (filledTree "a.go.j2").readText Press.templatePath = .ok "built-in" ∧
    Press.load Press.lateShelf (filledTree "a.go.j2") "a" =
      Press.loadFile (filledTree "a.go.j2") "a" { segments := ["tpl", "a.go.j2"] } ∧
    (filledTree "a.go.j2").readText { segments := ["tpl", "a.go.j2"] } = .ok "mine" := by
  have hdone : Press.lateShelf.materialize true (besideTree "a.go.j2") =
      (filledTree "a.go.j2", .ok [Press.templatePath]) :=
    materialize_lateShelf hasCustom_besideTree (by simp) (writeText_besideTree rfl rfl)
  have hrival : rival { segments := ["tpl"] } "a" = { segments := ["tpl", "a.go.j2"] } := by
    decide +kernel
  have hmine : (filledTree "a.go.j2").find { segments := ["tpl", "a.go.j2"] } =
      .ok (.file "mine".toUTF8 1) := rfl
  have hdirectory : Press.lateShelf.directory = some { segments := ["tpl"] } := rfl
  obtain ⟨htext, -, hkept⟩ := load_materialize_force hdirectory isPlainName_lateShelf (by decide)
    (by decide) isDistinct_besideTree hdone ("a", "built-in") (List.mem_singleton_self _)
  rw [target_tpl] at htext
  rw [hrival] at hkept
  refine ⟨hdone, htext, (hkept _ _ hmine).1, ?_⟩
  rw [Tree.readText_of_file hmine (Tree.decodeUtf8_toByteArray "mine")]
  exact congrArg Except.ok (by decide +kernel)

end Shelf

end Template

end GoScaffold
