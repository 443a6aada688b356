import GoScaffold.Field.Descriptor
import GoScaffold.Proofs.Text.Pieces
import Mathlib.Data.List.Forall2
import Mathlib.Order.Bounds.Basic

/-!
# The grammar of descriptors

What it means for the segments of a descriptor to declare fields, without the order of the checks
and without the columns that are carried along. Reading accepts exactly the segments that declare
fields, and otherwise blames the first segment with which they stop doing so.
-/
namespace GoScaffold.Descriptor

open GoScaffold.Text GoScaffold.Naming

/-- The trimmed segment is the name and the token around its first colon. -/
def IsPair (segment name token : String) : Prop :=
  ∃ before after, (trim segment).toList = before ++ ':' :: after ∧ ':' ∉ before ∧
    name = trim (.ofList before) ∧ token = trim (.ofList after)

/-- The segment names a field that the user may declare and asks for some type. -/
structure Names (segment name token : String) : Prop where
  pair : IsPair segment name token
  identifier : isIdentifier name.toList = true
  token : token ≠ ""
  column : snake (pascal name) ∉ systemColumns

/-- The segment declares the field, with the type that its token stands for. -/
def Declares (catalog : Catalog) (segment : String) (f : Field) : Prop :=
  ∃ name token, Names segment name token ∧
    ∃ type, catalog.resolve token = some type ∧ f = { name := pascal name, type := type }

/-- Each segment declares the field in its place, and no two fields have one column. -/
structure DeclareAll (catalog : Catalog) (segments : List String) (fields : List Field) : Prop where
  declares : List.Forall₂ (Declares catalog) segments fields
  columns : (fields.map Field.column).Nodup

def IsGood (catalog : Catalog) (segments : List String) : Prop :=
  ∃ fields, DeclareAll catalog segments fields

/-- The segment behind good ones lacks nothing but a type for its token. -/
def LacksType (catalog : Catalog) (earlier : List String) (segment : String) : Prop :=
  ∃ name token, Names segment name token ∧ catalog.resolve token = none ∧
    ∃ fields, DeclareAll catalog earlier fields ∧ snake (pascal name) ∉ fields.map Field.column

/-- The error is about the segment that ends the first prefix that is not good. -/
structure Error.Blames (catalog : Catalog) (segments : List String) (e : Error)
    (segment : String) : Prop where
  position : IsLeast {k | ¬ IsGood catalog (segments.take k)} e.position
  nth : segments[e.position - 1]? = some segment
  token : e.token = trim segment
  unsupported : e.fault.kind = "unsupported type" ↔
    LacksType catalog (segments.take (e.position - 1)) segment
  invalid : e.fault.kind = "invalid field declaration" ↔
    ¬ LacksType catalog (segments.take (e.position - 1)) segment

variable {catalog : Catalog} {seen segments : List String} {segment : String}

theorem IsPair.unique {name token name' token' : String} (h : IsPair segment name token)
    (h' : IsPair segment name' token') : name = name' ∧ token = token' := by
  obtain ⟨before, after, hcs, hbefore, rfl, rfl⟩ := h
  obtain ⟨before', after', hcs', hbefore', rfl, rfl⟩ := h'
  have hcut := cutAt?_eq_some_iff.2 ⟨hcs, hbefore⟩
  rw [cutAt?_eq_some_iff.2 ⟨hcs', hbefore'⟩] at hcut
  obtain ⟨rfl, rfl⟩ := Prod.mk.inj (Option.some.inj hcut)
  exact ⟨rfl, rfl⟩

theorem Declares.unique {f g : Field} (hf : Declares catalog segment f)
    (hg : Declares catalog segment g) : f = g := by
  obtain ⟨name, token, hnames, type, htype, rfl⟩ := hf
  obtain ⟨name', token', hnames', type', htype', rfl⟩ := hg
  obtain ⟨rfl, rfl⟩ := hnames.pair.unique hnames'.pair
  rw [htype] at htype'
  rw [Option.some.inj htype']

theorem declares_unique {fields fields' : List Field}
    (h : List.Forall₂ (Declares catalog) segments fields)
    (h' : List.Forall₂ (Declares catalog) segments fields') : fields = fields' := by
  induction h generalizing fields' with
  | nil =>
    cases h'
    rfl
  | cons hf _ ih =>
    cases h' with
    | cons hg hrest => rw [hf.unique hg, ih hrest]

theorem DeclareAll.take {fields : List Field} (h : DeclareAll catalog segments fields) (k : Nat) :
    DeclareAll catalog (segments.take k) (fields.take k) where
  declares := List.forall₂_take k h.declares
  columns := by
    rw [List.map_take]
    exact h.columns.sublist (List.take_sublist k _)

theorem DeclareAll.of_snoc {all : List Field} (h : DeclareAll catalog (segments ++ [segment]) all) :
    ∃ fields f, DeclareAll catalog segments fields ∧ Declares catalog segment f ∧
      f.column ∉ fields.map Field.column := by
  have hearlier := h.take segments.length
  rw [List.take_left'  rfl] at hearlier
  have hlast := List.forall₂_drop segments.length h.declares
  rw [List.drop_left' rfl] at hlast
  cases hdrop : all.drop segments.length with
  | nil => simp [hdrop] at hlast
  | cons f rest =>
    rw [hdrop] at hlast
    cases hlast with
    | cons hf _ =>
      refine ⟨_, f, hearlier, hf, fun hmem => ?_⟩
      have hnodup := h.columns
      rw [← List.take_append_drop segments.length all, List.map_append, hdrop] at hnodup
      exact (List.nodup_append.1 hnodup).2.2 _ hmem _ (by simp) rfl

theorem Fault.kind_cases (fault : Fault) :
    fault.kind = "unsupported type" ∨ fault.kind = "invalid field declaration" := by
  cases fault <;> simp [Fault.kind]

/-- A segment that names a field not seen before is judged by its type alone. -/
theorem readPair_of_names {name token : String} (h : Names segment name token)
    (hseen : snake (pascal name) ∉ seen) :
    readPair catalog seen (trim segment) =
      match catalog.resolve token with
      | none => .error (.unsupported token (catalog.suggest token))
      | some type => .ok { name := pascal name, type } := by
  obtain ⟨⟨before, after, hcs, hbefore, hname, htoken⟩, hid, hne, hcolumn⟩ := h
  have hempty : name ≠ "" := by
    rintro rfl
    simp [isIdentifier] at hid
  rw [readPair, cutAt?_eq_some_iff.2 ⟨hcs, hbefore⟩]
  dsimp only
  rw [← hname, ← htoken, if_neg hempty, if_neg hne, if_neg (by simp [hid]), if_neg hcolumn]
  refine (if_neg hseen).trans ?_
  cases catalog.resolve token <;> rfl

theorem readPair_of_not_names (catalog : Catalog)
    (h : ¬ ∃ name token, Names segment name token ∧ snake (pascal name) ∉ seen) :
    ∃ fault, readPair catalog seen (trim segment) = .error fault ∧
      fault.kind = "invalid field declaration" := by
  unfold readPair
  split
  · exact ⟨_, rfl, rfl⟩
  · next before after hcut =>
    obtain ⟨hcs, hbefore⟩ := cutAt?_eq_some_iff.1 hcut
    have hpair : IsPair segment (trim (.ofList before)) (trim (.ofList after)) :=
      ⟨before, after, hcs, hbefore, rfl, rfl⟩
    dsimp only
    split_ifs with _ htoken hid hcolumn hseen
    iterate 5 exact ⟨_, rfl, rfl⟩
    exact absurd ⟨_, _, ⟨hpair, by simpa using hid, htoken, hcolumn⟩, hseen⟩ h

theorem readPair_eq_ok_iff {f : Field} :
    readPair catalog seen (trim segment) = .ok f ↔ Declares catalog segment f ∧ f.column ∉ seen := by
  constructor
  · intro h
    by_cases hnames : ∃ name token, Names segment name token ∧ snake (pascal name) ∉ seen
    · obtain ⟨name, token, hnames, hseen⟩ := hnames
      rw [readPair_of_names hnames hseen] at h
      split at h
      · cases h
      · next type htype =>
        cases h
        exact ⟨⟨name, token, hnames, type, htype, rfl⟩, hseen⟩
    · obtain ⟨fault, hfault, -⟩ := readPair_of_not_names catalog hnames
      rw [hfault] at h
      cases h
  · rintro ⟨⟨name, token, hnames, type, htype, rfl⟩, hseen⟩
    rw [readPair_of_names hnames hseen, htype]

theorem readPair_unsupported_iff {fault : Fault}
    (h : readPair catalog seen (trim segment) = .error fault) :
    fault.kind = "unsupported type" ↔ ∃ name token, Names segment name token ∧
      catalog.resolve token = none ∧ snake (pascal name) ∉ seen := by
  constructor
  · intro hkind
    by_contra hnot
    by_cases hnames : ∃ name token, Names segment name token ∧ snake (pascal name) ∉ seen
    · obtain ⟨name, token, hnames, hseen⟩ := hnames
      rw [readPair_of_names hnames hseen] at h
      split at h
      · next hnone => exact hnot ⟨name, token, hnames, hnone, hseen⟩
      · cases h
    · obtain ⟨fault', hfault, hinvalid⟩ := readPair_of_not_names catalog hnames
      rw [hfault] at h
      cases h
      exact absurd (hkind.symm.trans hinvalid) (by decide)
  · rintro ⟨name, token, hnames, hnone, hseen⟩
    rw [readPair_of_names hnames hseen, hnone] at h
    cases h
    rfl

theorem readPairs_eq_ok_iff {position : Nat} {fields : List Field} :
    readPairs catalog seen position segments = .ok fields ↔
      DeclareAll catalog segments fields ∧ ∀ f ∈ fields, f.column ∉ seen := by
  induction segments generalizing seen position fields with
  | nil =>
    constructor
    · intro h
      cases h
      exact ⟨⟨.nil, by simp⟩, by simp⟩
    · rintro ⟨⟨h, -⟩, -⟩
      cases h
      rfl
  | cons segment segments ih =>
    constructor
    · intro h
      unfold readPairs at h
      dsimp only at h
      split at h
      · cases h
      · next f hf =>
        obtain ⟨hdeclares, hcolumn⟩ := readPair_eq_ok_iff.1 hf
        cases hr : readPairs catalog (f.column :: seen) (position + 1) segments with
        | error e => simp [hr, Except.map] at h
        | ok rest =>
          simp only [hr, Except.map, Except.ok.injEq] at h
          subst h
          obtain ⟨⟨hrest, hnodup⟩, hfresh⟩ := ih.1 hr
          refine ⟨⟨.cons hdeclares hrest, ?_⟩, ?_⟩
          · rw [List.map_cons, List.nodup_cons]
            refine ⟨fun hmem => ?_, hnodup⟩
            obtain ⟨g, hg, hcol⟩ := List.mem_map.1 hmem
            exact hfresh g hg (by simp [hcol])
          · intro g hg
            rcases List.mem_cons.1 hg with rfl | hg
            · exact hcolumn
            · exact fun hs => hfresh g hg (List.mem_cons_of_mem _ hs)
    · rintro ⟨⟨hall, hnodup⟩, hfresh⟩
      cases hall with
      | @cons _ f _ rest hdeclares hrest =>
        rw [List.map_cons, List.nodup_cons] at hnodup
        have hf : readPair catalog seen (trim segment) = .ok f :=
          readPair_eq_ok_iff.2 ⟨hdeclares, hfresh f (by simp)⟩
        have hr : readPairs catalog (f.column :: seen) (position + 1) segments = .ok rest := by
          refine ih.2 ⟨⟨hrest, hnodup.2⟩, fun g hg hs => ?_⟩
          rcases List.mem_cons.1 hs with hcol | hs
          · exact hnodup.1 (hcol ▸ List.mem_map_of_mem hg)
          · exact hfresh g (List.mem_cons_of_mem _ hg) hs
        simp [readPairs, hf, hr, Except.map]

/-- Reading stops at the first pair that is refused; the pairs before it declare fields. -/
theorem readPairs_eq_error {position : Nat} {e : Error}
    (h : readPairs catalog seen position segments = .error e) :
    ∃ before segment after fields seen', segments = before ++ segment :: after ∧
      e.position = position + before.length ∧ e.token = trim segment ∧
      DeclareAll catalog before fields ∧ (∀ f ∈ fields, f.column ∉ seen) ∧
      (∀ c, c ∈ seen' ↔ c ∈ fields.map Field.column ∨ c ∈ seen) ∧
      readPair catalog seen' (trim segment) = .error e.fault := by
  induction segments generalizing seen position with
  | nil => cases h
  | cons segment segments ih =>
    unfold readPairs at h
    dsimp only at h
    split at h
    · next fault hfault =>
      cases h
      exact ⟨[], segment, segments, [], seen, rfl, rfl, rfl, ⟨.nil, by simp⟩, by simp, by simp,
        hfault⟩
    · next f hf =>
      obtain ⟨hdeclares, hcolumn⟩ := readPair_eq_ok_iff.1 hf
      cases hr : readPairs catalog (f.column :: seen) (position + 1) segments with
      | ok rest => simp [hr, Except.map] at h
      | error e' =>
        simp only [hr, Except.map, Except.error.injEq] at h
        subst h
        obtain ⟨before, blamed, after, fields, seen', rfl, hposition, htoken, ⟨hbefore, hnodup⟩,
          hfresh, hseen, hpair⟩ := ih hr
        refine ⟨segment :: before, blamed, after, f :: fields, seen', rfl, ?_, htoken,
          ⟨.cons hdeclares hbefore, ?_⟩, ?_, ?_, hpair⟩
        · rw [hposition, List.length_cons]
          omega
        · rw [List.map_cons, List.nodup_cons]
          refine ⟨fun hmem => ?_, hnodup⟩
          obtain ⟨g, hg, hcol⟩ := List.mem_map.1 hmem
          exact hfresh g hg (by simp [hcol])
        · intro g hg
          rcases List.mem_cons.1 hg with rfl | hg
          · exact hcolumn
          · exact fun hs => hfresh g hg (List.mem_cons_of_mem _ hs)
        · intro c
          rw [hseen, List.map_cons, List.mem_cons, List.mem_cons, or_left_comm, or_assoc]

theorem readPairs_blames {e : Error} (h : readPairs catalog [] 1 segments = .error e) :
    ∃ segment, e.Blames catalog segments segment := by
  obtain ⟨before, segment, after, fields, seen', rfl, hposition, htoken, hbefore, -, hseen, hpair⟩ :=
    readPairs_eq_error h
  have hseen (c : String) : c ∈ seen' ↔ c ∈ fields.map Field.column := by simp [hseen]
  have hlength : e.position - 1 = before.length := by omega
  have htake : (before ++ segment :: after).take (e.position - 1) = before := by simp [hlength]
  have hkind : e.fault.kind = "unsupported type" ↔ LacksType catalog before segment := by
    rw [readPair_unsupported_iff hpair]
    constructor
    · rintro ⟨name, token, hnames, hnone, hcolumn⟩
      exact ⟨name, token, hnames, hnone, fields, hbefore, (hseen _).not.1 hcolumn⟩
    · rintro ⟨name, token, hnames, hnone, fields', hbefore', hcolumn⟩
      rw [declares_unique hbefore'.declares hbefore.declares] at hcolumn
      exact ⟨name, token, hnames, hnone, (hseen _).not.2 hcolumn⟩
  refine ⟨segment, ⟨?_, fun k hk => ?_⟩, by simp [hlength], htoken, by rw [htake, hkind], ?_⟩
  · rintro ⟨all, hall⟩
    have htaken : (before ++ segment :: after).take e.position = before ++ [segment] := by
      rw [show e.position = before.length + 1 by omega, List.take_length_add_append]
      rfl
    rw [htaken] at hall
    -- the blamed segment would declare a field with a column of its own, and be read as it
    obtain ⟨earlier, f, hearlier, hf, hcolumn⟩ := hall.of_snoc
    rw [declares_unique hearlier.declares hbefore.declares] at hcolumn
    rw [readPair_eq_ok_iff.2 ⟨hf, (hseen _).not.2 hcolumn⟩] at hpair
    simp at hpair
  · by_contra hlt
    have htaken : (before ++ segment :: after).take k = before.take k := by
      rw [List.take_append_of_le_length (by omega)]
    exact hk (htaken ▸ ⟨_, hbefore.take k⟩)
  · rw [htake, ← hkind]
    rcases e.fault.kind_cases with h | h <;> simp [h]

theorem read_of_not_blank (catalog : Catalog) {s : String} (h : isBlankText s = false) :
    read catalog (some s) = readPairs catalog [] 1 (splitAt ',' s) := by
  simp [read, h]

theorem exists_declareAll_of_read {text : Option String} {fields : List Field}
    (h : read catalog text = .ok fields) : ∃ segments, DeclareAll catalog segments fields := by
  have hnil : DeclareAll catalog [] [] := ⟨.nil, by simp⟩
  unfold read at h
  split at h
  · cases h
    exact ⟨[], hnil⟩
  · split at h
    · cases h
      exact ⟨[], hnil⟩
    · exact ⟨_, (readPairs_eq_ok_iff.1 h).1⟩

/-- Reading accepts exactly the grammar and blames the first segment that leaves it. -/
theorem read_grammar (catalog : Catalog) (s : String) :
    read catalog none = .ok [] ∧
    (isBlankText s = true → read catalog (some s) = .ok []) ∧
    (isBlankText s = false →
      (∀ fields, read catalog (some s) = .ok fields ↔
        DeclareAll catalog (splitAt ',' s) fields) ∧
      (¬ IsGood catalog (splitAt ',' s) → ∃ e segment, read catalog (some s) = .error e ∧
        e.Blames catalog (splitAt ',' s) segment)) := by
  refine ⟨rfl, fun hblank => by simp [read, hblank], fun hblank => ?_⟩
  have hread := read_of_not_blank catalog hblank
  have hok (fields : List Field) : read catalog (some s) = .ok fields ↔
      DeclareAll catalog (splitAt ',' s) fields := by
    rw [hread, readPairs_eq_ok_iff]
    simp
  refine ⟨hok, fun hbad => ?_⟩
  cases h : read catalog (some s) with
  | ok fields => exact absurd ⟨fields, (hok fields).1 h⟩ hbad
  | error e =>
    obtain ⟨segment, hblames⟩ := readPairs_blames (hread ▸ h)
    exact ⟨e, segment, rfl, hblames⟩

theorem read_grammar_duplicate :
    read .builtin (some " \n") = .ok [] ∧
    DeclareAll .builtin (splitAt ',' "a_b:int") [{ name := "AB", type := "int" }] ∧
    ∃ e segment, read .builtin (some "ab:int,Ab:any") = .error e ∧
      e.Blames .builtin (splitAt ',' "ab:int,Ab:any") segment := by
  have hbad : ¬ IsGood .builtin (splitAt ',' "ab:int,Ab:any") := fun ⟨fields, h⟩ => by
    have hread := (((read_grammar .builtin "ab:int,Ab:any").2.2 (by decide)).1 fields).2 h
    have hfault : read .builtin (some "ab:int,Ab:any") =
        .error ⟨.duplicate "Ab" "ab", "Ab:any", 2⟩ := by decide +kernel
    simp [hfault] at hread
  exact ⟨(read_grammar .builtin " \n").2.1 (by decide),
    (((read_grammar .builtin "a_b:int").2.2 (by decide)).1 _).1 (by decide +kernel),
    ((read_grammar .builtin "ab:int,Ab:any").2.2 (by decide)).2 hbad⟩

end GoScaffold.Descriptor
