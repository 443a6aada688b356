import GoScaffold.Proofs.Json.RoundTrip
import GoScaffold.Proofs.Settings.Custom
import GoScaffold.Proofs.Workspace.Written
import GoScaffold.Settings.Saved

/-!
# Settings read back

Settings whose values are plain are saved as one object and read back as they were if no custom
setting has the name of a setting. Otherwise that custom setting is lost: what is read has under
`custom` only what stood in the custom setting of this name and what names no setting.
-/
namespace GoScaffold

open GoScaffold.Text

/-- The file name ends in `.json` behind something else. -/
def Path.IsJsonFile (p : Path) : Prop := ∃ stem : String, stem ≠ "" ∧ p.name = stem ++ ".json"

theorem Path.suffix_of_isJsonFile {p : Path} (h : p.IsJsonFile) : p.suffix = ".json" := by
  obtain ⟨stem, hstem, hname⟩ := h
  have htail : (p.name.toList.reverse.takeWhile (· != '.')).reverse = "json".toList := by
    rw [hname]
    simp
  have hlength : p.name.length = stem.length + 5 := by
    rw [hname, String.length_append]
    rfl
  have hpos : stem.length ≠ 0 := by simpa using hstem
  have hfour : "json".toList.length = 4 := rfl
  simp only [suffix, htail, hlength, hfour]
  rw [if_neg (by simp; omega)]
  rfl

/-- A file can be written under the path. -/
def Tree.IsWritable (t : Tree) (p : Path) : Prop :=
  p.hasZero = false ∧ ∃ l, t.locate p = .ok l ∧ t.entry? l ≠ some .directory

theorem Tree.isWritable_of_absent {t : Tree} {p : Path} {l : Location}
    (hz : ∀ s ∈ p.segments, '\x00' ∉ s.toList) (hl : t.locate p = .ok l) (hn : t.entry? l = none) :
    t.IsWritable p :=
  ⟨hasZero_eq_false hz, l, hl, by simp [hn]⟩

namespace Settings

variable {s : Settings} {fs : List (String × Json)}

def IsPlain (s : Settings) : Prop := ∀ f ∈ s.fields, f.2.isPlain = true

theorem isPlain_defaults (c : Custom) : IsPlain { custom := c } := by
  intro f hf
  simp only [fields, List.mem_cons, List.not_mem_nil, or_false] at hf
  rcases hf with rfl | rfl | rfl | rfl | rfl | rfl | rfl | rfl | rfl | rfl <;> rfl

/-- What the settings are saved as when their custom ones are the fields of an object. -/
def saved (s : Settings) (fs : List (String × Json)) : List (String × Json) :=
  OrderedMap.insertAll s.fields fs

theorem flat_eq (h : s.custom = .ofJson (.object fs)) :
    s.flat = .ok (.ofFields (s.saved fs)) := by
  rw [flat, h]
  exact congrArg Except.ok (Entries.putAll_ofFields s.fields fs)

theorem keys_fields (s : Settings) : OrderedMap.keys s.fields = OrderedMap.keys (fields {}) := rfl

theorem nodup_keys_fields (s : Settings) : (OrderedMap.keys s.fields).Nodup := by
  rw [keys_fields]
  decide

theorem isPlain_saved (hs : s.IsPlain) (hfs : (Json.object fs).isPlain = true) :
    (Json.object (s.saved fs)).isPlain = true := by
  rw [Json.isPlain, Bool.and_eq_true, decide_eq_true_iff, Json.haveFieldsPlain_iff] at hfs ⊢
  constructor
  · exact OrderedMap.nodup_keys_insertAll s.nodup_keys_fields
  · intro f hf
    rcases OrderedMap.mem_or_mem_of_mem_insertAll hf with hf | hf
    · exact hs f hf
    · exact hfs.2 f hf

/-- Over the defaults, what was saved has the same custom settings under `custom`. -/
theorem get?_customName_saved (hs : s.IsPlain) (hfs : (Json.object fs).isPlain = true) :
    OrderedMap.get? customName (OrderedMap.insertAll (fields {}) (s.saved fs)) =
      OrderedMap.get? customName fs := by
  have hnone (s : Settings) : OrderedMap.get? customName s.fields = none := rfl
  have hplain := isPlain_saved hs hfs
  rw [Json.isPlain, Bool.and_eq_true, decide_eq_true_iff] at hfs hplain
  rw [OrderedMap.get?_insertAll hplain.1, saved, OrderedMap.get?_insertAll hfs.1, hnone, hnone,
    Option.or_none, Option.or_none]

theorem readFile_of_find {t : Tree} {p : Path} {stamp : Nat} (hz : p.hasZero = false)
    (hfind : t.find p = .ok (.file (Json.object fs).toFile.toUTF8 stamp))
    (hplain : (Json.object fs).isPlain = true)
    (hwritable : (Json.object fs).unwritable? Json.deepestWritten = none) (hp : p.IsJsonFile) :
    readFile t p = .ok fs := by
  have hread := Json.read_toFile hplain hwritable
  have htext : t.readText p = .ok (Json.object fs).toFile := by
    rw [Tree.readText_of_file hfind (Tree.decodeUtf8_toByteArray (Json.object fs).toFile),
      withNewlines_of_no_return (Json.return_not_mem_toFile hplain)]
  have hsuffix : lower p.suffix = ".json" := by
    rw [Path.suffix_of_isJsonFile hp]
    decide +kernel
  rw [readFile, Tree.holds_of_find hz hfind]
  simp only [hsuffix, htext, hread, ne_eq, not_true_eq_false, if_false]

section File

variable {t t' : Tree} {p : Path} (hcustom : s.custom = .ofJson (.object fs))

include hcustom

theorem save_ok (h : s.save t p = .ok t') :
    p.hasZero = false ∧ (Json.object (s.saved fs)).unwritable? Json.deepestWritten = none ∧
      t.writeBytes p (Json.object (s.saved fs)).toFile.toUTF8 = .ok t' := by
  rw [save, flat_eq hcustom] at h
  simp only [Entries.toFields_ofFields] at h
  split at h
  · cases h
  · next hz =>
    split at h
    · cases h
    · cases h
    · cases h
    · next hnone hbytes =>
      cases h
      exact ⟨by simpa using hz, hnone, hbytes⟩

/-- Where a file can be written, settings are saved unless a value is not. -/
theorem save_of_isWritable (hw : t.IsWritable p) :
    (∃ f, (Json.object (s.saved fs)).unwritable? Json.deepestWritten = some f ∧
      s.save t p = .error (.unwritable f)) ∨ ∃ t', s.save t p = .ok t' := by
  obtain ⟨hz, l, hl, hdir⟩ := hw
  have hbytes (bytes : ByteArray) : t.writeBytes p bytes = .ok (t.put l bytes) := by
    simp only [Tree.writeBytes, hl]
  have hsave := flat_eq hcustom
  cases hf : (Json.object (s.saved fs)).unwritable? Json.deepestWritten with
  | none =>
    right
    exact ⟨_, by simp only [save, hsave, Entries.toFields_ofFields, hz, hf, hbytes]; rfl⟩
  | some f =>
    left
    refine ⟨f, rfl, ?_⟩
    cases f <;> simp [save, hsave, Entries.toFields_ofFields, hz, hf, hbytes]

/-- What was saved is read from the file. -/
theorem readFile_of_save (hs : s.IsPlain) (hfs : (Json.object fs).isPlain = true)
    (hp : p.IsJsonFile) (h : s.save t p = .ok t') : readFile t' p = .ok (s.saved fs) := by
  obtain ⟨hz, hwritable, hbytes⟩ := save_ok hcustom h
  exact readFile_of_find hz (Tree.find_writeBytes hbytes) (isPlain_saved hs hfs) hwritable hp

end File

theorem isKnown_iff {k : String} :
    isKnown k = true ↔ k ∈ OrderedMap.keys (fields {}) ∨ k = customName := by
  rw [isKnown, names, List.contains_eq_mem, decide_eq_true_iff, List.mem_append,
    List.mem_singleton]

theorem load_eq {t : Tree} {file : String} {entries : List (String × Json)} (hne : file ≠ "")
    (h : readFile t (.ofString file) = .ok entries) :
    load t [] (some file) = ofEntries (OrderedMap.insertAll (fields {}) entries) := by
  simp only [load, h, bind, Except.bind]
  rfl

/-- The values by name of settings without custom ones make the settings. -/
theorem ofKnown_fields (s : Settings) : ofKnown s.fields = { s with custom := .entries [] } := by
  simp [ofKnown, fields, OrderedMap.get?, customName]

/-- Settings come back from their values and custom ones under other names. -/
theorem ofEntries_of_not_known (h : s.custom = .ofJson (.object fs))
    (hkeys : (OrderedMap.keys fs).Nodup) (hfree : ∀ k ∈ OrderedMap.keys fs, isKnown k = false) :
    ofEntries (s.fields ++ fs) = .ok s := by
  have hfields : ∀ f ∈ s.fields, isKnown f.1 = true := by
    intro f hf
    rw [isKnown_iff, ← keys_fields s]
    exact Or.inl (List.mem_map_of_mem hf)
  have hfs : ∀ f ∈ fs, isKnown f.1 = false := fun f hf => hfree f.1 (List.mem_map_of_mem hf)
  have hknown : (s.fields ++ fs).filter (isKnown ·.1) = s.fields := by
    rw [List.filter_append, List.filter_eq_self.2 hfields, List.filter_eq_nil_iff.2 (by simpa using hfs),
      List.append_nil]
  have hunknown : (s.fields ++ fs).filter (fun e => !isKnown e.1) = fs := by
    have hnone : s.fields.filter (fun e => !isKnown e.1) = [] :=
      List.filter_eq_nil_iff.2 (by simpa using hfields)
    rw [List.filter_append, hnone, List.filter_eq_self.2 (by simpa using hfs), List.nil_append]
  have hall : Entries.putAll [] (Entries.ofFields fs) = Entries.ofFields fs := by
    have hput := Entries.putAll_ofFields [] fs
    rw [OrderedMap.insertAll_of_nodup (by simpa using hkeys)] at hput
    exact hput
  have hself : { s with custom := .entries (.ofFields fs) } = s := by
    cases s
    simp only at h
    rw [h]
    rfl
  simp only [ofEntries, hknown, hunknown, ofKnown_fields, Custom.base, hall, hself]
  split
  · next hempty =>
    rw [List.isEmpty_iff] at hempty
    subst hempty
    exact congrArg Except.ok hself
  · rfl

/-- The entries that further ones are added to are those of the custom value, if there are any. -/
theorem exists_value_of_mem_base {v : Option Json} {own : Entries} {e : Key × Json}
    (h : ((v.map Custom.ofJson).getD (.entries [])).base = .ok own) (he : e ∈ own) :
    ∃ j, v = some j ∧ j.entries = .ok own := by
  cases v with
  | none =>
    cases h
    cases he
  | some j =>
    refine ⟨j, rfl, ?_⟩
    cases j with
    | object fs => exact h
    | _ =>
      simp only [Option.map_some, Option.getD_some, Custom.ofJson, Custom.base] at h
      split at h
      · exact h
      · cases h
        cases he

/-- What is kept under the name of a setting stood in the value for the custom settings. -/
theorem exists_value_of_mem_custom {entries : List (String × Json)} {s' : Settings} {es : Entries}
    {e : Key × Json} {k : String} (h : ofEntries entries = .ok s') (hes : s'.custom = .entries es)
    (he : e ∈ es) (hk : e.1 = .text k) (hknown : isKnown k = true) :
    ∃ j own, OrderedMap.get? customName entries = some j ∧ j.entries = .ok own ∧ e ∈ own := by
  have hvalue : OrderedMap.get? customName (entries.filter (isKnown ·.1)) =
      OrderedMap.get? customName entries := by
    rw [OrderedMap.get?_filter isKnown, if_pos (isKnown_iff.2 (Or.inr rfl))]
  have hbase (own : Entries) (hown : (ofKnown (entries.filter (isKnown ·.1))).custom.base = .ok own)
      (hmem : e ∈ own) :
      ∃ j own, OrderedMap.get? customName entries = some j ∧ j.entries = .ok own ∧ e ∈ own := by
    have hcustom : (ofKnown (entries.filter (isKnown ·.1))).custom =
        ((OrderedMap.get? customName entries).map Custom.ofJson).getD (.entries []) := by
      rw [← hvalue]
      rfl
    rw [hcustom] at hown
    obtain ⟨j, hj, hentries⟩ := exists_value_of_mem_base hown hmem
    exact ⟨j, own, hj, hentries, hmem⟩
  simp only [ofEntries] at h
  split at h
  · cases h
    exact hbase es (by rw [hes]; rfl) he
  · split at h
    · cases h
    · next own hown =>
      cases h
      cases hes
      rcases Entries.mem_or_exists_of_mem_putAll he with hmem | ⟨f, hf, rfl⟩
      · exact hbase own hown hmem
      · -- what names no setting has another name
        cases hk
        simp [hknown] at hf

theorem exists_of_same_custom {es : Entries} {c : Custom} (h : (Custom.entries es).same c = true)
    {e : Key × Json} (he : e ∈ es) :
    ∃ es', c = .entries es' ∧ ∃ e' ∈ es', e'.1.same e.1 = true ∧ e.2.same e'.2 = true := by
  cases c with
  | value j => cases h
  | entries es' =>
    refine ⟨es', rfl, ?_⟩
    simp only [Custom.same, Entries.same, Bool.and_eq_true, List.all_eq_true] at h
    have hfound := h.2 e he
    split at hfound
    · next e' hfind =>
      exact ⟨e', List.mem_of_find?_eq_some hfind, by simpa using List.find?_some hfind, hfound⟩
    · cases hfound

/-- Settings do not come back if a custom one has the name of a setting. -/
theorem not_same_of_known {s' : Settings} {entries : List (String × Json)}
    (hcustom : s.custom = .ofJson (.object fs))
    (hentries : OrderedMap.get? customName entries = OrderedMap.get? customName fs)
    (h : ofEntries entries = .ok s') {f : String × Json} (hf : f ∈ fs) (hknown : isKnown f.1 = true) :
    s.same s' = false := by
  rw [Bool.eq_false_iff]
  intro hsame
  rw [same, Bool.and_eq_true, hcustom] at hsame
  -- the value under the name of a setting stood in the custom setting called `custom`
  have hstands {g : String × Json} (hg : g ∈ fs) (hknown : isKnown g.1 = true) :
      ∃ j, OrderedMap.get? customName fs = some j ∧ g.2.height < j.height := by
    obtain ⟨es', hes', e', he', hkey, hvalue⟩ :=
      exists_of_same_custom (e := (.text g.1, g.2)) hsame.2 (List.mem_map.2 ⟨g, hg, rfl⟩)
    obtain ⟨j, own, hj, hown, hmem⟩ :=
      exists_value_of_mem_custom h hes' he' (Key.same_text.1 hkey) hknown
    refine ⟨j, hentries ▸ hj, ?_⟩
    exact Nat.lt_of_le_of_lt (Json.height_le_of_same hvalue) (Json.height_lt_of_mem_entries hown hmem)
  obtain ⟨j, hj, -⟩ := hstands hf hknown
  -- and so that one would stand in itself
  obtain ⟨j', hj', hlt⟩ := hstands (OrderedMap.mem_of_get? hj) (isKnown_iff.2 (Or.inr rfl))
  rw [hj] at hj'
  cases hj'
  exact Nat.lt_irrefl _ hlt

theorem same_self (hcustom : s.custom = .ofJson (.object fs)) (hs : s.IsPlain)
    (hfs : (Json.object fs).isPlain = true) : s.same s = true := by
  rw [same, Bool.and_eq_true, hcustom]
  constructor
  · exact Json.sameFields_self s.nodup_keys_fields fun f hf => Json.same_self (hs f hf)
  · exact Entries.same_self hfs

section Reload

variable {t : Tree} {file : String} (hcustom : s.custom = .ofJson (.object fs)) (hs : s.IsPlain)
  (hfs : (Json.object fs).isPlain = true) (hp : (Path.ofString file).IsJsonFile)

include hcustom hs hfs hp

theorem load_eq_of_save {t' : Tree} (h : s.save t (.ofString file) = .ok t') :
    load t' [] (some file) = ofEntries (OrderedMap.insertAll (fields {}) (s.saved fs)) := by
  apply load_eq _ (readFile_of_save hcustom hs hfs hp h)
  rintro rfl
  obtain ⟨stem, hstem, hname⟩ := hp
  have hempty : "" = stem ++ ".json" := hname
  have hlength : 0 = stem.length + 5 := by
    have h := congrArg String.length hempty
    rwa [String.length_append] at h
  omega

/-- Settings whose custom ones have names of their own come back as they were. -/
theorem load_of_save {t' : Tree} (h : s.save t (.ofString file) = .ok t')
    (hfree : ∀ k ∈ OrderedMap.keys fs, isKnown k = false) : load t' [] (some file) = .ok s := by
  have hkeys : (OrderedMap.keys fs).Nodup := by
    rw [Json.isPlain, Bool.and_eq_true, decide_eq_true_iff] at hfs
    exact hfs.1
  have hsaved : OrderedMap.insertAll s.fields fs = s.fields ++ fs := by
    apply OrderedMap.insertAll_of_nodup
    rw [OrderedMap.keys, List.map_append]
    apply List.nodup_append.2 ⟨s.nodup_keys_fields, hkeys, _⟩
    rintro k hfields k' hcustom rfl
    have hknown : isKnown k = true := isKnown_iff.2 (Or.inl hfields)
    rw [hfree k hcustom] at hknown
    cases hknown
  have hlayered : OrderedMap.insertAll (fields {}) (s.saved fs) = s.fields ++ fs := by
    rw [saved, hsaved, OrderedMap.insertAll, List.foldl_append]
    have hdefaults : OrderedMap.insertAll (fields {}) s.fields = s.fields :=
      OrderedMap.insertAll_of_keys_eq rfl s.nodup_keys_fields
    rw [OrderedMap.insertAll] at hdefaults hsaved
    rw [hdefaults, hsaved]
  rw [load_eq_of_save hcustom hs hfs hp h, hlayered, ofEntries_of_not_known hcustom hkeys hfree]

/-- Where a file can be written, settings are saved unless a value is not, and then they come back
if and only if no custom one has the name of a setting. -/
theorem load_save_iff (hw : t.IsWritable (.ofString file)) :
    (∃ f, (Json.object (s.saved fs)).unwritable? Json.deepestWritten = some f ∧
      s.save t (.ofString file) = .error (.unwritable f)) ∨
    ∃ t', s.save t (.ofString file) = .ok t' ∧
      ((∃ s', load t' [] (some file) = .ok s' ∧ s.same s' = true) ↔
        ∀ k ∈ OrderedMap.keys fs, isKnown k = false) := by
  rcases save_of_isWritable hcustom hw with hfault | ⟨t', hsave⟩
  · exact Or.inl hfault
  · refine Or.inr ⟨t', hsave, ?_, ?_⟩
    · rintro ⟨s', hload, hsame⟩ k hk
      rw [load_eq_of_save hcustom hs hfs hp hsave] at hload
      obtain ⟨f, hf, rfl⟩ := List.mem_map.1 hk
      rw [Bool.eq_false_iff]
      intro hknown
      rw [not_same_of_known hcustom (get?_customName_saved hs hfs) hload hf hknown] at hsame
      cases hsame
    · intro hfree
      exact ⟨s, load_of_save hcustom hs hfs hp hsave hfree, same_self hcustom hs hfs⟩

end Reload

/-- Custom settings in each other, under a name of their own. -/
def teamFields : List (String × Json) :=
  [("team", .object [("size", .int 3), ("names", .array [.str "Ada", .null])])]

def teamSettings : Settings := { custom := .ofJson (.object teamFields) }

theorem load_save_iff_team : ∃ t' s', teamSettings.save {} (.ofString "shop.json") = .ok t' ∧
    load t' [] (some "shop.json") = .ok s' ∧ teamSettings.same s' = true := by
  have hwritable : Tree.IsWritable {} (.ofString "shop.json") := by
    apply Tree.isWritable_of_absent (l := ["shop.json"])
    · decide +kernel
    · decide +kernel
    · rfl
  have hvalues : (Json.object (saved teamSettings teamFields)).unwritable? Json.deepestWritten = none := by
    decide
  rcases load_save_iff rfl (isPlain_defaults (.ofJson (.object teamFields))) (by decide)
    ⟨"shop", by decide, by decide +kernel⟩ hwritable with ⟨f, hf, -⟩ | ⟨t', hsave, hiff⟩
  · exact absurd (hvalues.symm.trans hf) (by simp)
  · obtain ⟨s', hload, hsame⟩ := hiff.2 (by decide)
    exact ⟨t', s', hsave, hload, hsame⟩

/-- A file with another ending is not read as settings. -/
theorem load_eq_error_of_suffix {t : Tree} {file : String} (hne : file ≠ "")
    (h : lower (Path.ofString file).suffix ≠ ".json") :
    ∃ fault, load t [] (some file) = .error fault := by
  have hread : ∃ fault, readFile t (.ofString file) = .error fault := by
    unfold readFile
    split
    · exact ⟨_, rfl⟩
    · exact ⟨_, rfl⟩
    · rw [if_pos h]
      exact ⟨_, rfl⟩
  obtain ⟨fault, hfault⟩ := hread
  exact ⟨fault, by simp only [load, hfault, bind, Except.bind]⟩

/-- A name that is only `.json` has no ending: what is saved under it is not read. -/
theorem not_reloaded_bare : IsPlain {} ∧ Tree.IsWritable {} (.ofString ".json") ∧
    ∃ t', save {} {} (.ofString ".json") = .ok t' ∧ ∀ s', load t' [] (some ".json") ≠ .ok s' := by
  have hwritable : Tree.IsWritable {} (.ofString ".json") := by
    apply Tree.isWritable_of_absent (l := [".json"])
    · decide +kernel
    · decide +kernel
    · rfl
  have hcustom : custom {} = .ofJson (.object []) := rfl
  have hvalues : (Json.object (saved {} [])).unwritable? Json.deepestWritten = none := by decide
  refine ⟨isPlain_defaults _, hwritable, ?_⟩
  rcases save_of_isWritable hcustom hwritable with ⟨f, hf, -⟩ | ⟨t', ht'⟩
  · exact absurd (hvalues.symm.trans hf) (by simp)
  · refine ⟨t', ht', ?_⟩
    intro s' hs'
    have hsuffix : lower (Path.ofString ".json").suffix ≠ ".json" := by decide +kernel
    obtain ⟨fault, hfault⟩ := load_eq_error_of_suffix (t := t') (by decide) hsuffix
    rw [hfault] at hs'
    cases hs'

end Settings

end GoScaffold
