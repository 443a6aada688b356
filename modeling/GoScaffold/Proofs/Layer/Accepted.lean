import GoScaffold.Proofs.Field.RoundTrip
import GoScaffold.Proofs.Layer.Built
import GoScaffold.Proofs.Layer.Validation

/-!
# Whatever is accepted is built

A name and a descriptor that are accepted make an entity. With the built-in templates each of its
pieces is built, whatever has been rendered before and whatever the flags are, and it comes to the
same artifact every time.
-/
namespace GoScaffold

open GoScaffold.Text GoScaffold.Naming GoScaffold.Template

/-- A field with a plan has a type, so it is a member. -/
theorem Member.exists_ofField {f : Field} {p : Plan} (h : f.plan = .ok p) :
    ∃ m, ofField f = .ok m := by
  unfold ofField
  split
  · exact ⟨_, rfl⟩
  · next herror =>
    rw [Field.plan, herror] at h
    cases h

theorem exists_members {validation : Bool} {fields annotated : List Field}
    (h : annotateAll validation fields = .ok annotated)
    (hsystem : ∀ f ∈ annotated, f.system = false) :
    ∃ given, annotated.mapM Member.ofField = .ok given := by
  refine exists_mapM fun g hg => ?_
  obtain ⟨f, -, hannotate⟩ := exists_of_forall₂ (forall₂_of_mapM h) hg
  obtain ⟨p, hp, -⟩ := Field.annotate_tag hannotate (hsystem g hg)
  exact Member.exists_ofField hp

namespace Entity

/-- Nothing that a template asks a field for is missing: each user field has its plan, and the
condition of each member can be written. -/
structure IsPlanned (e : Entity) : Prop where
  plan : ∀ m ∈ e.userMembers, OrderedMap.get? m.name e.plans = some m.plan
  check : ∀ m ∈ e.members, ∀ ref, ∃ condition, m.type.checkExpression ref = .ok condition

theorem IsDescribed.isPlanned {e : Entity} (h : e.IsDescribed) : e.IsPlanned where
  plan m hm := by
    have hkeys : (OrderedMap.keys (e.given.map fun m => (m.name, m.plan))).Nodup := by
      simpa [OrderedMap.keys, Function.comp_def] using h.nodup
    rw [h.userMembers] at hm
    rw [h.plans]
    exact OrderedMap.get?_of_mem hkeys (List.mem_map_of_mem hm)
  check m _ ref := by
    obtain ⟨behind, -, -, hcheck⟩ := FieldType.checkExpression_builtin m.type (mem_builtin m)
    exact ⟨_, hcheck ref⟩

theorem exists_ofFields {name : String} {text : Option String} {fields : List Field}
    (hname : nameFault? name = none) (hread : Descriptor.read .builtin text = .ok fields)
    (settings : Settings) : ∃ e, ofFields name fields settings = .ok e := by
  obtain ⟨segments, hsegments⟩ := Descriptor.exists_declareAll_of_read hread
  obtain ⟨annotated, hannotated, hsystem, -⟩ :=
    Descriptor.annotateAll_of_declares settings.validation.truthy hsegments.declares
  obtain ⟨given, hgiven⟩ := exists_members hannotated hsystem
  exact ⟨{ name := pascal (trim name), given, settings }, by
    simp only [ofFields, hname, hannotated, Except.bind, hgiven]⟩

end Entity

/-- Pieces that are built one after another are built as each on its own. -/
theorem Piece.buildAll_of_declares {e : Entity} {text : Piece → String} {pieces : List Piece}
    (h : ∀ p ∈ pieces, p.Declares e (text p)) {press : Press} (hpress : press.IsBuiltin) (t : Tree) :
    buildAll t e press pieces = .ok (pieces.map fun p => p.artifact e (text p)) := by
  induction pieces generalizing press with
  | nil => rfl
  | cons p pieces ih =>
    obtain ⟨press', hbuild, hpress'⟩ := h p (by simp) press t hpress
    have hrest := ih (fun p hp => h p (by simp [hp])) hpress'
    rw [buildAll, hbuild]
    simp only [hrest, Except.map, List.map_cons]

theorem Settings.moduleAdvice_text (s : String) : ∃ advice, moduleAdvice (.str s) = .ok advice := by
  unfold moduleAdvice
  split <;> exact ⟨_, rfl⟩

namespace Entity

/-- An accepted name and descriptor make an entity under any settings whose module name is a text.
It has all that templates ask for, and each piece of each layer comes to one artifact, whatever has
been rendered before. -/
theorem exists_artifacts {name : String} {text : Option String} {fields : List Field}
    {settings : Settings} {s : String} (hname : nameFault? name = none)
    (hread : Descriptor.read .builtin text = .ok fields) (hmodule : settings.moduleName = .str s) :
    ∃ e, ofFields name fields settings = .ok e ∧ e.IsPlanned ∧
      ∃ artifact : Piece → Artifact, (∀ p, (artifact p).path = p.path e) ∧
        ∀ (layer : Layer) (press : Press) (t : Tree), press.IsBuiltin →
          (∀ p ∈ layer.pieces e, ∃ press' : Press,
            p.build press t e = (press', .ok (artifact p)) ∧ press'.IsBuiltin) ∧
          Piece.buildAll t e press (layer.pieces e) = .ok ((layer.pieces e).map artifact) := by
  obtain ⟨e, he⟩ := exists_ofFields hname hread settings
  have hdescribed := isDescribed_of_read hread he
  obtain ⟨advice, hadvice⟩ := Settings.moduleAdvice_text s
  rw [← hmodule, ← (ofFields_ok he).2.2.1] at hadvice
  choose declared hdeclared using Piece.exists_declares hdescribed hadvice
  refine ⟨e, he, hdescribed.isPlanned, fun p => p.artifact e (declared p), fun _ => rfl,
    fun layer press t hpress => ⟨fun p _ => hdeclared p press t hpress, ?_⟩⟩
  exact Piece.buildAll_of_declares (fun p _ => hdeclared p) hpress t

/-- Settings under which no generated project would compile. -/
def oddSettings : Settings where
  moduleName := .str "a b\n"
  database := .str ""
  fileNaming := .str "?"
  validation := .bool true
  softDelete := .bool true

theorem exists_artifacts_odd : ∃ e,
    ofFields "order_2" [{ name := "PaidAt", type := "time.Time" }, { name := "Raw", type := "[]byte" }]
        oddSettings = .ok e ∧ e.IsPlanned ∧
      ∀ layer : Layer, ∃ artifacts,
        Piece.buildAll {} e (Press.create none) (layer.pieces e) = .ok artifacts := by
  have hname : nameFault? "order_2" = none := by decide +kernel
  have hread : Descriptor.read .builtin (some "paid_at: timestamp, raw: bytes") =
      .ok [{ name := "PaidAt", type := "time.Time" }, { name := "Raw", type := "[]byte" }] := by
    decide +kernel
  have hmodule : oddSettings.moduleName = .str "a b\n" := rfl
  obtain ⟨e, he, hplanned, artifact, -, hbuilt⟩ := exists_artifacts hname hread hmodule
  exact ⟨e, he, hplanned, fun layer => ⟨_, (hbuilt layer _ {} Press.isBuiltin_create).2⟩⟩

end Entity

end GoScaffold
