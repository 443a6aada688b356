import GoScaffold.Proofs.Field.Layout
import GoScaffold.Proofs.GoSource.Struct
import GoScaffold.Proofs.Layer.Repository

/-!
# Members of an entity's own type

The fields and methods of the type that an entity declares in its own file. Its fields have different
names in Go and in JSON, and so have its methods in Go; a method has the name of a field only where a
user field is called like it.
-/
namespace GoScaffold

open GoScaffold.Text GoScaffold.Naming GoScaffold.Template

namespace Entity

variable {e : Entity}

/-- The type of the entity. -/
def record (e : Entity) : GoStruct where
  name := e.name
  fields := e.members.map fun m => (m.name, m.field.tag)

def methods (e : Entity) : List String :=
  (if e.settings.validation.truthy then ["Validate"] else []) ++ e.businessRules.map (·.method) ++
    if e.settings.softDelete.truthy then ["SoftDelete", "IsDeleted"] else []

theorem head_checkLines (e : Entity) :
    ∀ l ∈ e.checks.flatMap checkLines, l.toList.head? = some '\t' := by
  simp only [checkLines, List.forall_mem_flatMap, List.forall_mem_cons]
  simp

theorem structsOf_entityLines (h : e.IsDescribed) (htagged : e.IsTagged) :
    structsOf (textOf e.entityLines) = [e.record] := by
  let rest := e.validateLines ++ e.businessRules.flatMap e.ruleLines ++ e.softDeleteLines ++ [""]
  have hlines : e.entityLines ++ [""] = headerLines "domain" e.entityImports ++
      typeLine e.name "struct" :: (e.members.map fieldLine ++ "\x7d" :: rest) := by
    simp [entityLines, headerLines, rest]
  have hbefore : ∀ l ∈ headerLines "domain" e.entityImports, structName? l = none := fun l hl =>
    structName?_of_head fun hhead => by simpa [hhead] using head_headerLines _ _ l hl
  have hbody : ∀ l ∈ e.members.map fieldLine, ['\t'] <+: l.toList := by
    simp [fieldLine]
  have hrest : ∀ l ∈ rest, structName? l = none := by
    have hhead : ∀ l ∈ rest, l.toList.head? ≠ some 't' := by
      simp only [rest, validateLines, ruleLines, softDeleteLines, List.forall_mem_append,
        List.forall_mem_flatMap]
      refine ⟨⟨⟨?_, ?_⟩, ?_⟩, ?_⟩
      · split
        · simp only [List.cons_append, List.forall_mem_cons, List.forall_mem_append]
          exact ⟨by simp, by simp [methodLine], fun l hl => by simp [head_checkLines e l hl], by simp⟩
        · simp
      · simp [methodLine]
      · split <;> simp [methodLine]
      · simp
    exact fun l hl => structName?_of_head (hhead l hl)
  have hnone := structsAmong_of_forall hrest []
  rw [List.append_nil] at hnone
  rw [structsOf, textLines_textOf fun l hl => lacks_entityLines h htagged l hl '\n' (by decide),
    hlines, structsAmong_of_forall hbefore,
    structsAmong_struct (h.name.word.not_mem (by decide)) hbody, fields_fieldLines h htagged, hnone]
  rfl

theorem methodOn?_methodLine (h : e.IsDescribed) {signature method : String} {behind : List Char}
    (hsignature : signature.toList = method.toList ++ '(' :: behind) (hmethod : '(' ∉ method.toList) :
    methodOn? e.name (e.methodLine signature) = some method := by
  have hline : e.methodLine signature = "func (" ++ (e.receiver ++ " *" ++
      (e.name ++ ") " ++ (method ++ (String.singleton '(' ++ (.ofList behind ++ " \x7b"))))) := by
    simp [methodLine, ← String.toList_inj, hsignature]
  have hcut : cutAt? '*' (e.receiver ++ " *" ++ (e.name ++ ") " ++
      (method ++ (String.singleton '(' ++ (.ofList behind ++ " \x7b"))))).toList =
        some (e.receiver.toList ++ [' '], (e.name ++ ") " ++
          (method ++ (String.singleton '(' ++ (.ofList behind ++ " \x7b")))).toList) := by
    refine cutAt?_eq_some_iff.2 ⟨by simp, ?_⟩
    obtain ⟨c, hreceiver, hc⟩ := exists_receiver h
    rw [hreceiver]
    intro hmem
    have hstar : '*' = c := by simpa using hmem
    exact absurd hc (by rw [← hstar]; decide)
  rw [methodOn?, hline, behindStart?_append, Option.bind_some, hcut, Option.bind_some,
    String.ofList_toList, behindStart?_append, Option.map_some, upTo_append hmethod]

theorem methodsOn_validateLines (h : e.IsDescribed) : e.validateLines.filterMap (methodOn? e.name) =
    if e.settings.validation.truthy then ["Validate"] else [] := by
  have hchecks : (e.checks.flatMap checkLines ++ ["\treturn nil", "\x7d"]).filterMap
      (methodOn? e.name) = [] := by
    have hhead : ∀ l ∈ e.checks.flatMap checkLines ++ ["\treturn nil", "\x7d"],
        l.toList.head? ≠ some 'f' := by
      simp only [List.forall_mem_append, List.forall_mem_cons]
      exact ⟨fun l hl => by simp [head_checkLines e l hl], by simp⟩
    exact List.filterMap_eq_nil_iff.2 fun l hl => methodOn?_of_head (hhead l hl)
  rw [validateLines]
  split
  · have hvalidate : methodOn? e.name (e.methodLine "Validate() error") = some "Validate" :=
      methodOn?_methodLine h rfl (by decide)
    rw [List.cons_append, List.cons_append, List.filterMap_cons_none (methodOn?_of_head (by simp)),
      List.filterMap_cons_some hvalidate, hchecks]
  · rfl

theorem methodsOn_ruleLines (h : e.IsDescribed) :
    (e.businessRules.flatMap e.ruleLines).filterMap (methodOn? e.name) =
      e.businessRules.map (·.method) := by
  have hall : ∀ r ∈ BusinessRule.all, '(' ∉ r.method.toList := by decide
  rw [List.filterMap_flatMap, List.map_eq_flatMap]
  refine List.flatMap_congr fun r hr => ?_
  have hrule : methodOn? e.name (e.methodLine (r.method ++ "() bool")) = some r.method :=
    methodOn?_methodLine h (String.toList_append ..) (hall r (mem_businessRules hr))
  rw [ruleLines, List.filterMap_cons_none (methodOn?_of_head (by simp)),
    List.filterMap_cons_some hrule, List.filterMap_cons_none (methodOn?_of_head (by simp)),
    List.filterMap_cons_none (methodOn?_of_head (by simp)), List.filterMap_nil]

theorem methodsOn_softDeleteLines (h : e.IsDescribed) :
    e.softDeleteLines.filterMap (methodOn? e.name) =
      if e.settings.softDelete.truthy then ["SoftDelete", "IsDeleted"] else [] := by
  rw [softDeleteLines]
  split
  · have hdelete : methodOn? e.name (e.methodLine "SoftDelete()") = some "SoftDelete" :=
      methodOn?_methodLine h rfl (by decide)
    have hdeleted : methodOn? e.name (e.methodLine "IsDeleted() bool") = some "IsDeleted" :=
      methodOn?_methodLine h rfl (by decide)
    rw [List.filterMap_cons_none (methodOn?_of_head (by simp)), List.filterMap_cons_some hdelete,
      List.filterMap_cons_none (methodOn?_of_head (by simp)),
      List.filterMap_cons_none (methodOn?_of_head (by simp)),
      List.filterMap_cons_none (methodOn?_of_head (by simp)),
      List.filterMap_cons_none (methodOn?_of_head (by simp)), List.filterMap_cons_some hdeleted,
      List.filterMap_cons_none (methodOn?_of_head (by simp)),
      List.filterMap_cons_none (methodOn?_of_head (by simp)), List.filterMap_nil]
  · rfl

theorem methodsOn_entityLines (h : e.IsDescribed) (htagged : e.IsTagged) :
    methodsOn e.name (textOf e.entityLines) = e.methods := by
  let before := headerLines "domain" e.entityImports ++ typeLine e.name "struct" ::
    (e.members.map fieldLine ++ ["\x7d"])
  have hlines : e.entityLines ++ [""] = before ++ e.validateLines ++
      e.businessRules.flatMap e.ruleLines ++ e.softDeleteLines ++ [""] := by
    simp [entityLines, headerLines, before]
  have hhead : ∀ l ∈ before, l.toList.head? ≠ some 'f' := by
    simp only [before, List.forall_mem_append, List.forall_mem_cons]
    exact ⟨fun l hl hhead => by simpa [hhead] using head_headerLines _ _ l hl, by simp [typeLine],
      by simp [fieldLine], by simp⟩
  have hbefore : before.filterMap (methodOn? e.name) = [] :=
    List.filterMap_eq_nil_iff.2 fun l hl => methodOn?_of_head (hhead l hl)
  have hlast : [""].filterMap (methodOn? e.name) = [] :=
    List.filterMap_cons_none (methodOn?_of_head (by simp))
  rw [methodsOn, textLines_textOf fun l hl => lacks_entityLines h htagged l hl '\n' (by decide),
    hlines]
  simp only [List.filterMap_append, hbefore, methodsOn_validateLines h, methodsOn_ruleLines h,
    methodsOn_softDeleteLines h, hlast, List.nil_append, List.append_nil, methods]

/-- The columns of the user fields are different, and none is that of a managed field. -/
structure HasOwnColumns (e : Entity) : Prop where
  nodup : (e.given.map Member.column).Nodup
  free : ∀ m ∈ e.given, m.column ∉ Descriptor.systemColumns

theorem hasOwnColumns_of_read {catalog : Catalog} {text : Option String} {fields : List Field}
    (hread : Descriptor.read catalog text = .ok fields) {name : String} {settings : Settings}
    (h : ofFields name fields settings = .ok e) : e.HasOwnColumns where
  nodup := by
    obtain ⟨segments, hsegments⟩ := Descriptor.exists_declareAll_of_read hread
    obtain ⟨-, -, -, hmembers⟩ := ofFields_ok h
    have hcolumns : e.given.map Member.column = fields.map Field.column := by
      rw [columns_eq, ← names_of_forall₂ hmembers, List.map_map]
      rfl
    rw [hcolumns]
    exact hsegments.columns
  free := column_of_read hread h

theorem lacks_jsonKey {s : String} (h : IsWord s) : Lacks ['"', ','] (snake s) :=
  lacks_join_lowerWords h (by decide) (by decide)

/-- In JSON a field is called as its column is. -/
theorem jsonKey?_tag (h : e.IsDescribed) (htagged : e.IsTagged) :
    ∀ m ∈ e.members, jsonKey? m.field.tag = some m.field.column := by
  have huser : ∀ m ∈ e.given, jsonKey? m.field.tag = some m.field.column := by
    intro m hm
    have hm : m ∈ e.userMembers := h.userMembers ▸ hm
    have hkey : Lacks ['"', ','] m.field.column := lacks_jsonKey (h.word_member hm)
    obtain ⟨rest, hrest⟩ : ∃ rest, m.field.tag.toList =
        "json:\"".toList ++ (m.field.column.toList ++ ([] ++ '"' :: rest)) := by
      rw [htagged m hm]
      exact ⟨_, by simp only [Field.tagFor, String.toList_append, List.append_assoc]; rfl⟩
    exact jsonKey?_of_toList hkey List.not_mem_nil (Or.inl rfl) rest hrest
  exact forall_members huser (by decide +kernel)

theorem isDistinct_record (h : e.IsDescribed) (htagged : e.IsTagged) (hcolumns : e.HasOwnColumns) :
    e.record.IsDistinct := by
  have hlayout : (e.fields.map Field.column).Nodup := by
    rw [fields_eq_layout]
    refine nodup_columns_layout ?_ (List.forall_mem_map.2 hcolumns.free) _ _
    rw [List.map_map]
    exact hcolumns.nodup
  have hnames : e.record.fieldNames = e.fields.map Field.name := by
    simp [GoStruct.fieldNames, record, fields, Member.name]
  have hkeys : e.record.keys = (e.fields.map Field.column).map some := by
    simp only [GoStruct.keys, record, fields, List.map_map]
    exact List.map_congr_left fun m hm => jsonKey?_tag h htagged m hm
  refine ⟨?_, ?_⟩
  · rw [hnames]
    exact nodup_names_of_columns hlayout
  · rw [hkeys]
    exact hlayout.map (Option.some_injective _)

theorem rule_of_forMember {m : Member} {r : BusinessRule} (h : BusinessRule.forMember? m = some r) :
    r ∈ BusinessRule.all ∧ r.field = m.name := by
  refine ⟨List.mem_of_find?_eq_some h, ?_⟩
  have hfound := List.find?_some h
  simp only [Bool.and_eq_true, beq_iff_eq] at hfound
  exact hfound.1

/-- Each rule is for a field of its own, so its method is in the type once. -/
theorem nodup_ruleMethods (h : e.IsDescribed) : (e.businessRules.map (·.method)).Nodup := by
  have hall : ∀ r ∈ BusinessRule.all, ∀ s ∈ BusinessRule.all, r.method = s.method → r.field = s.field :=
    by decide
  have hnames : e.userMembers.Pairwise fun m n => m.name ≠ n.name := by
    rw [h.userMembers]
    exact List.pairwise_map.1 h.nodup
  rw [businessRules]
  split
  · refine List.pairwise_map.2 (hnames.filterMap _ fun m n hmn r hr s hs he => hmn ?_)
    obtain ⟨hr, hfield⟩ := rule_of_forMember hr
    obtain ⟨hs, hfield'⟩ := rule_of_forMember hs
    exact hfield ▸ hfield' ▸ hall r hr s hs he
  · exact List.nodup_nil

def methodNames : List String :=
  ["Validate"] ++ BusinessRule.all.map (·.method) ++ ["SoftDelete", "IsDeleted"]

theorem methods_sublist (e : Entity) :
    e.methods.Sublist (["Validate"] ++ e.businessRules.map (·.method) ++ ["SoftDelete", "IsDeleted"]) := by
  rw [methods]
  refine List.Sublist.append (List.Sublist.append ?_ (List.Sublist.refl _)) ?_
  · split <;> simp
  · split <;> simp

theorem mem_methodNames {x : String} (hx : x ∈ e.methods) : x ∈ methodNames := by
  have hmem := (methods_sublist e).subset hx
  simp only [List.mem_append, methodNames] at hmem ⊢
  refine hmem.imp_left (Or.imp_right fun hrule => ?_)
  obtain ⟨r, hr, rfl⟩ := List.mem_map.1 hrule
  exact List.mem_map_of_mem (mem_businessRules hr)

theorem nodup_methods (h : e.IsDescribed) : e.methods.Nodup := by
  have hother : ∀ r ∈ BusinessRule.all, r.method ∉ ["Validate", "SoftDelete", "IsDeleted"] := by decide
  have hrule : ∀ x ∈ e.businessRules.map (·.method), x ∉ ["Validate", "SoftDelete", "IsDeleted"] :=
    List.forall_mem_map.2 fun r hr => hother r (mem_businessRules hr)
  refine (methods_sublist e).nodup ?_
  rw [List.append_assoc, List.singleton_append, List.nodup_cons, List.nodup_append]
  refine ⟨fun hmem => ?_, nodup_ruleMethods h, by decide, fun x hx y hy hxy => ?_⟩
  · rcases List.mem_append.1 hmem with hmem | hmem
    · exact hrule _ hmem (by simp)
    · exact absurd hmem (by decide)
  · exact hrule x hx (hxy ▸ List.mem_cons_of_mem _ hy)

theorem mem_fieldNames_record (h : e.IsDescribed) {x : String} (hx : x ∈ e.methods) :
    x ∈ e.record.fieldNames ↔ ∃ m ∈ e.userMembers, m.name = x := by
  have hmanaged : ∀ m ∈ managedMembers, ∀ y ∈ methodNames, m.name ≠ y := by decide +kernel
  have huser : ∀ m ∈ e.members, m.name = x → ∃ m ∈ e.given, m.name = x :=
    forall_members (fun m hm hmx => ⟨m, hm, hmx⟩) fun m hm hmx =>
      absurd hmx (hmanaged m hm x (mem_methodNames hx))
  have hnames : e.record.fieldNames = e.members.map Member.name := by
    simp [GoStruct.fieldNames, record]
  rw [hnames, List.mem_map, h.userMembers]
  exact ⟨fun ⟨m, hm, hmx⟩ => huser m hm hmx, fun ⟨m, hm, hmx⟩ => ⟨m, by simp [members, hm], hmx⟩⟩

end Entity

end GoScaffold
