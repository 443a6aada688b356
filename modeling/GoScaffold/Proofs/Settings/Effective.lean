import GoScaffold.Proofs.Settings.Saved

/-!
# Effective settings

A setting comes from the overrides, where a null counts as absent, or else from the file, where a null
counts, or else from the defaults. What names no setting is added to the custom entries. A manager
that loads settings again and again loads the same ones each time.
-/
namespace GoScaffold

namespace Settings

/-- An override that is not null. -/
def counts : Json → Bool
  | .null => false
  | _ => true

/-- The overrides that count. -/
def given (overrides : List (String × Json)) : List (String × Json) :=
  overrides.filter fun e => counts e.2

def unknown (entries : List (String × Json)) : List (String × Json) :=
  entries.filter fun e => !isKnown e.1

def fileEntries (t : Tree) : Option String → Except SettingsFault (List (String × Json))
  | none => .ok []
  | some "" => .ok []
  | some path => readFile t (.ofString path)

/-- The value under a key in the overrides, or else in the file. -/
def layer? (file overrides : List (String × Json)) (k : String) : Option Json :=
  ((OrderedMap.get? k overrides).filter counts).or (OrderedMap.get? k file)

def fieldsOf : Option Json → List (String × Json)
  | some (.object fs) => fs
  | _ => []

section Layers

variable {t : Tree} {file : Option String} {fromFile overrides entries entries' : List (String × Json)}

theorem load_eq_bind (t : Tree) (overrides : List (String × Json)) (file : Option String) :
    load t overrides file =
      (fileEntries t file).bind fun fromFile => ofEntries (layered fromFile overrides) := by
  unfold load
  split
  · rfl
  · rfl
  · next path hne =>
    have hfile : fileEntries t (some path) = readFile t (.ofString path) := by
      unfold fileEntries
      split
      · next heq => cases heq
      · next heq => exact absurd (Option.some.inj heq) hne
      · next heq =>
        cases heq
        rfl
    rw [hfile]
    rfl

theorem nodup_fileEntries (h : fileEntries t file = .ok fromFile) :
    (OrderedMap.keys fromFile).Nodup := by
  unfold fileEntries at h
  split at h
  · cases h
    exact List.nodup_nil
  · cases h
    exact List.nodup_nil
  · unfold readFile at h
    split at h
    · cases h
    · cases h
    · split at h
      · cases h
      · split at h
        · cases h
        · cases h
        · split at h
          · cases h
          · cases h
          · cases h
          · next hread =>
            cases h
            exact Json.nodup_of_read hread
          · cases h

theorem layered_eq (fromFile overrides : List (String × Json)) : layered fromFile overrides =
    OrderedMap.insertAll (OrderedMap.insertAll (fields {}) fromFile) (given overrides) := rfl

theorem nodup_given (h : (OrderedMap.keys overrides).Nodup) :
    (OrderedMap.keys (given overrides)).Nodup :=
  h.sublist (List.filter_sublist.map _)

/-- In all layers together, the last one with a key wins. -/
theorem get?_layered (hfile : (OrderedMap.keys fromFile).Nodup)
    (hoverrides : (OrderedMap.keys overrides).Nodup) (k : String) :
    OrderedMap.get? k (layered fromFile overrides) =
      (layer? fromFile overrides k).or (OrderedMap.get? k (fields {})) := by
  rw [layered_eq, OrderedMap.get?_insertAll (nodup_given hoverrides),
    OrderedMap.get?_insertAll hfile, given,
    OrderedMap.get?_filter_of_nodup hoverrides fun e => counts e.2, layer?, Option.or_assoc]

theorem unknown_fields (s : Settings) : unknown s.fields = [] := by
  rw [unknown, List.filter_eq_nil_iff]
  intro f hf
  have hknown : isKnown f.1 = true := by
    rw [isKnown_iff, ← keys_fields s]
    exact Or.inl (List.mem_map_of_mem hf)
  simp [hknown]

theorem unknown_layered (fromFile overrides : List (String × Json)) :
    unknown (layered fromFile overrides) =
      OrderedMap.insertAll (OrderedMap.insertAll [] (unknown fromFile)) (unknown (given overrides)) := by
  rw [layered_eq, unknown, OrderedMap.filter_insertAll (fun k => !isKnown k),
    OrderedMap.filter_insertAll (fun k => !isKnown k)]
  exact congrArg (fun m => OrderedMap.insertAll (OrderedMap.insertAll m _) _) (unknown_fields {})

theorem fields_ofKnown (values : List (String × Json)) : (ofKnown values).fields =
    (fields {}).map fun d => (d.1, (OrderedMap.get? d.1 values).getD d.2) := rfl

theorem get?_known (entries : List (String × Json)) {k : String} (h : isKnown k = true) :
    OrderedMap.get? k (entries.filter (isKnown ·.1)) = OrderedMap.get? k entries := by
  rw [OrderedMap.get?_filter isKnown, if_pos h]

/-- The settings that entries make, if the custom ones are given as an object. -/
theorem ofEntries_of_object
    (h : ∀ j, OrderedMap.get? customName entries = some j → ∃ fs, j = .object fs) :
    ∃ s, ofEntries entries = .ok s ∧
      s.fields = (fields {}).map (fun d => (d.1, (OrderedMap.get? d.1 entries).getD d.2)) ∧
      s.custom = .entries (.ofFields (OrderedMap.insertAll
        (fieldsOf (OrderedMap.get? customName entries)) (unknown entries))) := by
  have hfields : (ofKnown (entries.filter (isKnown ·.1))).fields =
      (fields {}).map (fun d => (d.1, (OrderedMap.get? d.1 entries).getD d.2)) := by
    rw [fields_ofKnown]
    refine List.map_congr_left fun d hd => ?_
    rw [get?_known _ (isKnown_iff.2 (Or.inl (List.mem_map_of_mem hd)))]
  have hcustom : (ofKnown (entries.filter (isKnown ·.1))).custom =
      .entries (.ofFields (fieldsOf (OrderedMap.get? customName entries))) := by
    have hvalue : (ofKnown (entries.filter (isKnown ·.1))).custom =
        ((OrderedMap.get? customName entries).map Custom.ofJson).getD (.entries []) := by
      rw [← get?_known _ (isKnown_iff.2 (Or.inr rfl))]
      rfl
    rw [hvalue]
    cases hj : OrderedMap.get? customName entries with
    | none => rfl
    | some j =>
      obtain ⟨fs, rfl⟩ := h j hj
      rfl
  by_cases hunknown : (unknown entries).isEmpty = true
  · have heq : ofEntries entries = .ok (ofKnown (entries.filter (isKnown ·.1))) := by
      unfold unknown at hunknown
      simp only [ofEntries, hunknown, if_true]
    rw [List.isEmpty_iff] at hunknown
    exact ⟨_, heq, hfields, by rw [hcustom, hunknown]; rfl⟩
  · have heq : ofEntries entries = .ok { ofKnown (entries.filter (isKnown ·.1)) with
        custom := .entries ((Entries.ofFields (fieldsOf (OrderedMap.get? customName entries))).putAll
          (Entries.ofFields (unknown entries))) } := by
      unfold unknown at hunknown ⊢
      simp only [ofEntries, hunknown, hcustom, Custom.base, Bool.false_eq_true, if_false]
    rw [Entries.putAll_ofFields] at heq
    exact ⟨_, heq, hfields, rfl⟩

end Layers

theorem eq_of_fields {s s' : Settings} (hfields : s.fields = s'.fields) (hcustom : s.custom = s'.custom) :
    s = s' := by
  have hsame := ofKnown_fields s
  rw [hfields, ofKnown_fields s'] at hsame
  cases s
  cases s'
  simp only [mk.injEq] at hsame hcustom ⊢
  simp [hsame, hcustom]

/-- What entries come to depends on the values under the known names and on the others as they stand. -/
theorem ofEntries_congr {entries entries' : List (String × Json)}
    (hfields : ∀ d ∈ fields {}, OrderedMap.get? d.1 entries = OrderedMap.get? d.1 entries')
    (hcustom : ((OrderedMap.get? customName entries).map Custom.ofJson).getD (.entries []) =
      ((OrderedMap.get? customName entries').map Custom.ofJson).getD (.entries []))
    (hunknown : unknown entries = unknown entries') : ofEntries entries = ofEntries entries' := by
  have hknown : ofKnown (entries.filter (isKnown ·.1)) = ofKnown (entries'.filter (isKnown ·.1)) := by
    apply eq_of_fields
    · rw [fields_ofKnown, fields_ofKnown]
      refine List.map_congr_left fun d hd => ?_
      have hd' : isKnown d.1 = true := isKnown_iff.2 (Or.inl (List.mem_map_of_mem hd))
      rw [get?_known _ hd', get?_known _ hd', hfields d hd]
    · have hname : isKnown customName = true := isKnown_iff.2 (Or.inr rfl)
      rw [← get?_known entries hname, ← get?_known entries' hname] at hcustom
      exact hcustom
  unfold unknown at hunknown
  simp only [ofEntries, hknown, hunknown]

/-- What loads settings: it has the defaults by name, from one call to the next. -/
structure Manager where
  defaults : List (String × Json) := fields {} ++ [(customName, .object [])]

structure Call where
  tree : Tree
  overrides : List (String × Json)
  file : Option String

namespace Manager

/-- The layers go into a copy of the defaults, which has custom entries of its own. -/
def load (m : Manager) (c : Call) : Manager × Except SettingsFault Settings :=
  let base := OrderedMap.insert customName (.object []) m.defaults
  (m, (fileEntries c.tree c.file).bind fun fromFile =>
    ofEntries (OrderedMap.insertAll (OrderedMap.insertAll base fromFile) (given c.overrides)))

def after (m : Manager) : List Call → Manager
  | [] => m
  | c :: calls => (m.load c).1.after calls

theorem ofEntries_defaults (fromFile overrides : List (String × Json)) :
    ofEntries (OrderedMap.insertAll (OrderedMap.insertAll
        (OrderedMap.insert customName (.object []) ({} : Manager).defaults) fromFile) (given overrides)) =
      ofEntries (layered fromFile overrides) := by
  have hbase : OrderedMap.insert customName (.object []) ({} : Manager).defaults =
      fields {} ++ [(customName, .object [])] := rfl
  have hget (k : String) (m : List (String × Json)) :
      OrderedMap.get? k (OrderedMap.insertAll (OrderedMap.insertAll m fromFile) (given overrides)) =
        ((OrderedMap.get? k (OrderedMap.insertAll [] (given overrides))).or
          (OrderedMap.get? k (OrderedMap.insertAll [] fromFile))).or (OrderedMap.get? k m) := by
    rw [OrderedMap.get?_insertAll_or k (OrderedMap.insertAll m fromFile),
      OrderedMap.get?_insertAll_or k m, Option.or_assoc]
  rw [hbase, layered_eq]
  apply ofEntries_congr
  · intro d hd
    rw [hget, hget, OrderedMap.get?_append, OrderedMap.get?_of_mem (nodup_keys_fields {}) hd,
      Option.some_or]
  · have hdefault : OrderedMap.get? customName (fields {}) = none := rfl
    rw [hget, hget, OrderedMap.get?_append, hdefault]
    cases (OrderedMap.get? customName (OrderedMap.insertAll [] (given overrides))).or
      (OrderedMap.get? customName (OrderedMap.insertAll [] fromFile)) <;> rfl
  · unfold unknown
    rw [OrderedMap.filter_insertAll fun k => !isKnown k, OrderedMap.filter_insertAll fun k => !isKnown k,
      OrderedMap.filter_insertAll fun k => !isKnown k, OrderedMap.filter_insertAll fun k => !isKnown k]
    rfl

/-- A new manager loads what the layers come to. -/
theorem load_new (c : Call) : ({} : Manager).load c = ({}, Settings.load c.tree c.overrides c.file) := by
  rw [load, load_eq_bind]
  exact Prod.ext rfl (congrArg (Except.bind _) (funext fun _ => ofEntries_defaults _ _))

theorem after_new (calls : List Call) : ({} : Manager).after calls = {} := by
  induction calls with
  | nil => rfl
  | cons c calls ih => rw [after, load_new, ih]

end Manager

/-- Every setting but the custom ones has the value of the override, unless that is null, or else of
the file, or else the default. The custom settings are the object that is given in the same way, with
the other names of the file and then of the overrides put in, the later values winning. A manager
loads this whatever it has loaded before. -/
theorem load_layers {t : Tree} {file : Option String} {fromFile overrides : List (String × Json)}
    (hfile : fileEntries t file = .ok fromFile) (hkeys : (OrderedMap.keys overrides).Nodup)
    (hcustom : ∀ j, layer? fromFile overrides customName = some j → ∃ fs, j = .object fs) :
    ∃ s, load t overrides file = .ok s ∧
      s.fields = (fields {}).map (fun d => (d.1, (layer? fromFile overrides d.1).getD d.2)) ∧
      s.custom = .entries (.ofFields (OrderedMap.insertAll (OrderedMap.insertAll
        (fieldsOf (layer? fromFile overrides customName)) (unknown fromFile))
        (unknown (given overrides)))) ∧
      ∀ calls, ((({} : Manager).after calls).load { tree := t, overrides, file }).2 = .ok s := by
  have hlayered := get?_layered (nodup_fileEntries hfile) hkeys
  have hname : OrderedMap.get? customName (layered fromFile overrides) =
      layer? fromFile overrides customName := by
    have hdefault : OrderedMap.get? customName (fields {}) = none := rfl
    rw [hlayered, hdefault, Option.or_none]
  rw [← hname] at hcustom
  obtain ⟨s, hs, hfields, hentries⟩ := ofEntries_of_object hcustom
  have hload : load t overrides file = .ok s := by rw [load_eq_bind, hfile, ← hs]; rfl
  refine ⟨s, hload, ?_, ?_, ?_⟩
  · rw [hfields]
    refine List.map_congr_left fun d hd => ?_
    rw [hlayered, OrderedMap.get?_of_mem (nodup_keys_fields {}) hd]
    cases layer? fromFile overrides d.1 <;> rfl
  · have hnil : (OrderedMap.keys ([] : List (String × Json))).Nodup := List.nodup_nil
    rw [hentries, hname, unknown_layered,
      OrderedMap.insertAll_insertAll (OrderedMap.nodup_keys_insertAll hnil),
      OrderedMap.insertAll_insertAll hnil]
    rfl
  · intro calls
    rw [Manager.after_new, Manager.load_new]
    exact hload

/-- A settings file with a null, a custom object and a name of its own. -/
def shopFile : List (String × Json) := [
  ("database", .str "mysql"),
  ("timestamps", .null),
  ("custom", .object [("team", .int 3), ("region", .str "eu")]),
  ("stage", .str "test")]

def shopOverrides : List (String × Json) := [
  ("database", .null),
  ("validation", .bool true),
  ("region", .str "us"),
  ("owner", .str "Ada")]

def shopTree : Tree where
  entries := [(["shop.json"], .file (Json.object shopFile).toFile.toUTF8 1)]
  clock := 1

theorem load_layers_shop : ∃ s, load shopTree shopOverrides (some "shop.json") = .ok s ∧
    s.database = .str "mysql" ∧ s.validation = .bool true ∧ s.timestamps = .null ∧
    s.softDelete = .bool false ∧
    s.custom = .entries (.ofFields [("team", .int 3), ("region", .str "us"), ("stage", .str "test"),
      ("owner", .str "Ada")]) := by
  have hfind : shopTree.find (.ofString "shop.json") =
      .ok (.file (Json.object shopFile).toFile.toUTF8 1) := by
    rw [show Path.ofString "shop.json" = { segments := ["shop.json"] } from by decide +kernel]
    rfl
  have hfile : fileEntries shopTree (some "shop.json") = .ok shopFile :=
    readFile_of_find (hasZero_eq_false (by decide +kernel)) hfind (by decide) (by decide)
      ⟨"shop", by decide, by decide +kernel⟩
  have hkeys : (OrderedMap.keys shopOverrides).Nodup := by decide
  have hobject : ∀ j, layer? shopFile shopOverrides customName = some j → ∃ fs, j = .object fs := by
    intro j hj
    cases hj
    exact ⟨_, rfl⟩
  obtain ⟨s, hload, hfields, hcustom, -⟩ := load_layers hfile hkeys hobject
  have hvalue (k : String) : OrderedMap.get? k s.fields = OrderedMap.get? k
      ((fields {}).map fun d => (d.1, (layer? shopFile shopOverrides d.1).getD d.2)) := by
    rw [hfields]
  exact ⟨s, hload, Option.some.inj (hvalue "database"), Option.some.inj (hvalue "validation"),
    Option.some.inj (hvalue "timestamps"), Option.some.inj (hvalue "soft_delete"), hcustom⟩

end Settings

end GoScaffold
