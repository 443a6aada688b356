import GoScaffold.Entity.Basic
import GoScaffold.Proofs.Field.Grammar
import GoScaffold.Proofs.Naming.TypeName
import GoScaffold.Proofs.OrderedMap
import GoScaffold.Proofs.Sequence
import Mathlib.Data.List.Induction
import Mathlib.Data.List.Nodup

/-!
# Entities of a descriptor

What an accepted name and a descriptor that could be read make of an entity: every name is the name
of a type, every field is a user field, and no two fields have one name.
-/
namespace GoScaffold

open GoScaffold.Text GoScaffold.Naming

namespace Descriptor

variable {catalog : Catalog}

theorem Declares.isTypeName {segment : String} {f : Field} (h : Declares catalog segment f) :
    IsTypeName f.name ∧ f.system = false := by
  obtain ⟨name, token, hnames, type, -, rfl⟩ := h
  exact ⟨isTypeName_pascal hnames.identifier, rfl⟩

theorem read_ok {text : Option String} {fields : List Field}
    (h : read catalog text = .ok fields) :
    (∀ f ∈ fields, IsTypeName f.name ∧ f.system = false) ∧ (fields.map Field.name).Nodup := by
  obtain ⟨segments, hsegments⟩ := exists_declareAll_of_read h
  refine ⟨fun f hf => ?_, ?_⟩
  · obtain ⟨segment, -, hdeclares⟩ := exists_of_forall₂ hsegments.declares hf
    exact hdeclares.isTypeName
  · have hmap : fields.map Field.column = (fields.map Field.name).map snake := by
      simp [Field.column]
    have hcolumns := hsegments.columns
    rw [hmap] at hcolumns
    exact hcolumns.of_map _

end Descriptor

theorem names_of_forall₂ {fields : List Field} {members : List Member}
    (h : List.Forall₂ (fun f m => m.name = f.name ∧ m.field.system = f.system) fields members) :
    members.map Member.name = fields.map Field.name := by
  induction h with
  | nil => rfl
  | cons hf _ ih => rw [List.map_cons, List.map_cons, hf.1, ih]

theorem Field.annotate_ok {validation : Bool} {f g : Field} (h : f.annotate validation = .ok g) :
    g.name = f.name ∧ g.system = f.system := by
  unfold annotate at h
  split at h
  · cases h
    exact ⟨rfl, rfl⟩
  · next hs =>
    cases hp : f.plan with
    | error e => simp [hp, Except.map] at h
    | ok p =>
      simp only [hp, Except.map, Except.ok.injEq] at h
      subst h
      exact ⟨rfl, by simpa using hs⟩

/-- A user field is given the tag and the uniqueness that its plan asks for. -/
theorem Field.annotate_tag {validation : Bool} {f g : Field} (h : f.annotate validation = .ok g)
    (hs : g.system = false) :
    ∃ p, g.plan = .ok p ∧ g.tag = g.tagFor p validation ∧ g.unique = p.unique := by
  have hsystem : f.system = false := (annotate_ok h).2 ▸ hs
  unfold annotate at h
  rw [hsystem] at h
  cases hp : f.plan with
  | error e => simp [hp, Except.map] at h
  | ok p =>
    simp only [hp, Except.map, Bool.false_eq_true, if_false, Except.ok.injEq] at h
    subst h
    exact ⟨p, hp, rfl, rfl⟩

theorem Member.plan_field (m : Member) : m.field.plan = .ok m.plan := by
  rw [Field.plan, m.known]
  rfl

theorem Member.ofField_ok {f : Field} {m : Member} (h : Member.ofField f = .ok m) :
    m.field = f := by
  unfold ofField at h
  split at h
  · cases h
    rfl
  · cases h

namespace Entity

/-- The entity of an accepted name and a descriptor. -/
structure IsDescribed (e : Entity) : Prop where
  name : IsTypeName e.name
  user : ∀ m ∈ e.given, m.isUser = true
  fieldName : ∀ m ∈ e.given, IsTypeName m.name
  nodup : (e.given.map Member.name).Nodup

theorem nameFault_eq_none {name : String} (h : nameFault? name = none) :
    Descriptor.isIdentifier (trim name).toList = true := by
  unfold nameFault? at h
  split_ifs at h with _ hid
  simpa using hid

theorem given_of_ofFields {name : String} {fields : List Field} {settings : Settings} {e : Entity}
    (h : ofFields name fields settings = .ok e) :
    Descriptor.isIdentifier (trim name).toList = true ∧ e.name = pascal (trim name) ∧
      e.settings = settings ∧
      List.Forall₂ (fun f m => ∃ g, f.annotate settings.validation.truthy = .ok g ∧
        Member.ofField g = .ok m) fields e.given := by
  unfold ofFields at h
  split at h
  · cases h
  · next hname =>
    split at h
    · next given hgiven =>
      simp only [Except.ok.injEq] at h
      subst h
      refine ⟨nameFault_eq_none hname, rfl, rfl, ?_⟩
      cases ha : annotateAll settings.validation.truthy fields with
      | error e => simp [ha, Except.bind] at hgiven
      | ok annotated =>
        simp only [ha, Except.bind] at hgiven
        have hfields := forall₂_of_mapM ha
        have hmembers := forall₂_of_mapM hgiven
        clear ha hgiven hname
        induction hfields generalizing given with
        | nil =>
          cases hmembers
          exact .nil
        | cons hf _ ih =>
          cases hmembers with
          | cons hm hms => exact .cons ⟨_, hf, hm⟩ (ih _ hms)
    · cases h

theorem ofFields_ok {name : String} {fields : List Field} {settings : Settings} {e : Entity}
    (h : ofFields name fields settings = .ok e) :
    Descriptor.isIdentifier (trim name).toList = true ∧ e.name = pascal (trim name) ∧
      e.settings = settings ∧
      List.Forall₂ (fun f m => m.name = f.name ∧ m.field.system = f.system) fields e.given := by
  obtain ⟨hid, hname, hsettings, hmembers⟩ := given_of_ofFields h
  refine ⟨hid, hname, hsettings, hmembers.imp fun f m ⟨g, hg, hm⟩ => ?_⟩
  have hkept := Field.annotate_ok hg
  rw [Member.name, Member.ofField_ok hm, hkept.1, hkept.2]
  exact ⟨rfl, rfl⟩

/-- Every user field has the tag that its plan asks for. -/
def IsTagged (e : Entity) : Prop :=
  ∀ m ∈ e.userMembers, m.field.tag = m.field.tagFor m.plan e.settings.validation.truthy

theorem isTagged_of_ofFields {name : String} {fields : List Field} {settings : Settings} {e : Entity}
    (h : ofFields name fields settings = .ok e) : e.IsTagged := by
  obtain ⟨-, -, hsettings, hmembers⟩ := given_of_ofFields h
  intro m hm
  obtain ⟨hgiven, huser⟩ := List.mem_filter.1 hm
  obtain ⟨f, -, g, hg, hfield⟩ := exists_of_forall₂ hmembers hgiven
  obtain rfl := Member.ofField_ok hfield
  obtain ⟨p, hp, htag, -⟩ := Field.annotate_tag hg (by simpa [Member.isUser] using huser)
  rw [Member.plan_field] at hp
  cases hp
  rw [htag, hsettings]

theorem isDescribed_of_read {catalog : Catalog} {text : Option String} {fields : List Field}
    (hread : Descriptor.read catalog text = .ok fields) {name : String} {settings : Settings}
    {e : Entity} (h : ofFields name fields settings = .ok e) : e.IsDescribed := by
  obtain ⟨hid, hname, -, hmembers⟩ := ofFields_ok h
  obtain ⟨hfields, hnodup⟩ := Descriptor.read_ok hread
  have hmem (m : Member) (hm : m ∈ e.given) :
      ∃ f ∈ fields, m.name = f.name ∧ m.field.system = f.system := exists_of_forall₂ hmembers hm
  refine ⟨hname ▸ isTypeName_pascal hid, fun m hm => ?_, fun m hm => ?_, ?_⟩
  · obtain ⟨f, hf, -, hsystem⟩ := hmem m hm
    simp [Member.isUser, hsystem, (hfields f hf).2]
  · obtain ⟨f, hf, hmname, -⟩ := hmem m hm
    exact hmname ▸ (hfields f hf).1
  · rwa [names_of_forall₂ hmembers]

def managedMembers : List Member := [.identifier, .createdAt, .updatedAt, .deletedAt]

/-- What the given fields have in common with the managed ones all fields have. -/
theorem forall_members {e : Entity} {P : Member → Prop} (hgiven : ∀ m ∈ e.given, P m)
    (hmanaged : ∀ m ∈ managedMembers, P m) : ∀ m ∈ e.members, P m := by
  simp only [managedMembers, List.forall_mem_cons] at hmanaged
  obtain ⟨hidentifier, hcreated, hupdated, hdeleted, -⟩ := hmanaged
  simp only [members, List.cons_append, List.forall_mem_cons, List.forall_mem_append]
  refine ⟨hidentifier, ⟨hgiven, ?_⟩, ?_⟩
  · split <;> simp [hcreated, hupdated]
  · split <;> simp [hdeleted]

theorem IsDescribed.userMembers {e : Entity} (h : e.IsDescribed) : e.userMembers = e.given :=
  List.filter_eq_self.2 h.user

theorem IsDescribed.plans {e : Entity} (h : e.IsDescribed) :
    e.plans = e.given.map fun m => (m.name, m.plan) := by
  have hkeys : OrderedMap.keys ([] ++ e.given.map fun m => (m.name, m.plan)) =
      e.given.map Member.name := by
    simp [OrderedMap.keys, Function.comp_def]
  rw [Entity.plans, OrderedMap.insertAll_of_nodup (by rw [hkeys]; exact h.nodup), List.nil_append]

end Entity

end GoScaffold

/-! ## Entities that come more than once

An entity may come again with other fields and other settings. Of all that have one name the first
is kept. -/

namespace GoScaffold

/-- The entities after one more has come, unless one of its name is there. -/
def withFirst (parts : List Entity) (e : Entity) : List Entity :=
  if e.name ∈ parts.map Entity.name then parts else parts ++ [e]

def firsts (es : List Entity) : List Entity := es.foldl withFirst []

section

variable {parts es : List Entity} {e b : Entity}

theorem firsts_concat (es : List Entity) (e : Entity) :
    firsts (es ++ [e]) = withFirst (firsts es) e := by
  rw [firsts, List.foldl_append]
  rfl

theorem mem_withFirst (h : b ∈ withFirst parts e) : b ∈ parts ∨ b = e := by
  rw [withFirst] at h
  split at h
  · exact Or.inl h
  · exact (List.mem_append.1 h).imp_right List.mem_singleton.1

theorem exists_mem_withFirst (parts : List Entity) (e : Entity) :
    ∃ b ∈ withFirst parts e, b.name = e.name := by
  rw [withFirst]
  split
  · next hmem => exact List.mem_map.1 hmem
  · exact ⟨e, by simp, rfl⟩

theorem withFirst_ne_nil (parts : List Entity) (e : Entity) : withFirst parts e ≠ [] := by
  obtain ⟨b, hb, -⟩ := exists_mem_withFirst parts e
  exact List.ne_nil_of_mem hb

theorem nodup_withFirst (h : (parts.map Entity.name).Nodup) :
    ((withFirst parts e).map Entity.name).Nodup := by
  rw [withFirst]
  split
  · exact h
  · next hmem =>
    rw [List.map_append, List.map_singleton]
    exact h.append (by simp) (by simpa using hmem)

theorem mem_of_mem_firsts (h : b ∈ firsts es) : b ∈ es := by
  induction es using List.reverseRecOn with
  | nil => exact h
  | append_singleton es e ih =>
    rw [firsts_concat] at h
    rcases mem_withFirst h with h | rfl
    · exact List.mem_append_left _ (ih h)
    · simp

theorem nodup_firsts (es : List Entity) : ((firsts es).map Entity.name).Nodup := by
  induction es using List.reverseRecOn with
  | nil => exact List.nodup_nil
  | append_singleton es e ih =>
    rw [firsts_concat]
    exact nodup_withFirst ih

end

end GoScaffold
