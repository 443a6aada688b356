import GoScaffold.Proofs.Layer.Lookup

/-!
# Repositories

The implementation of a repository has the methods of its interface, in the same order and with the
same types. The lookups among them stand for the searchable fields, as the tags of these say.
-/
namespace GoScaffold

open GoScaffold.Text GoScaffold.Naming GoScaffold.Template

namespace Entity

def searchableMembers (e : Entity) : List Member := e.userMembers.filter (·.plan.searchable)

/-- The repository as the texts of the interface, of the implementation behind its head, and of the
entity show it to a reader. -/
structure IsImplemented (e : Entity) (interface code file : String) (methods : List MethodType) :
    Prop where
  listed : interfaceMethods? e.interfaceName interface = some methods
  implemented : implementedMethods? e.repositoryType code = some methods
  nodup : (methods.map MethodType.name).Nodup
  lookups : (methods.map MethodType.name).filter (startsWith · "FindBy") =
    "FindByID" :: e.searchableMembers.map fun m => "FindBy" ++ m.name
  /-- The tag of the field decides on the results and names the column that is asked for. -/
  lookup : ∀ m ∈ e.searchableMembers, ∃ tag column, fieldTag? e.name m.name file = some tag ∧
    tagColumn? tag = some column ∧
    askedColumn? e.repositoryType ("FindBy" ++ m.name) code = some column ∧
    { name := "FindBy" ++ m.name, parameters := [m.type.goType],
      results := if hasUniqueIndex tag then "(*domain." ++ e.name ++ ", error)"
        else "([]domain." ++ e.name ++ ", error)" } ∈ methods

section Names

variable {e : Entity}

theorem column_of_read {catalog : Catalog} {text : Option String} {fields : List Field}
    (hread : Descriptor.read catalog text = .ok fields) {name : String} {settings : Settings}
    (h : ofFields name fields settings = .ok e) :
    ∀ m ∈ e.given, m.column ∉ Descriptor.systemColumns := by
  intro m hm
  obtain ⟨-, -, -, hmembers⟩ := ofFields_ok h
  obtain ⟨f, hf, hname, -⟩ := exists_of_forall₂ hmembers hm
  obtain ⟨segments, hsegments⟩ := Descriptor.exists_declareAll_of_read hread
  obtain ⟨segment, -, declared, token, hnames, type, -, rfl⟩ :=
    exists_of_forall₂ hsegments.declares hf
  change snake m.name ∉ _
  rw [hname]
  exact hnames.column

theorem accessors_eq (h : e.IsDescribed) : e.accessors = e.searchableMembers.map fun m =>
    { method := "FindBy" ++ m.name, field := m.name, goType := m.type.goType,
      cardinality := if m.plan.unique then .one else .many } := by
  rw [accessors, searchableMembers, h.userMembers, ← List.filterMap_eq_map', List.filterMap_filter]
  refine List.filterMap_congr fun m hm => ?_
  simp [Member.accessor?, h.user m hm]

theorem map_method_accessors (h : e.IsDescribed) :
    e.accessors.map Accessor.method = e.searchableMembers.map fun m => "FindBy" ++ m.name := by
  rw [accessors_eq h, List.map_map]
  rfl

theorem startsWith_findBy (name : String) : startsWith ("FindBy" ++ name) "FindBy" = true :=
  List.isPrefixOf_iff_prefix.2 (by simp)

/-- No two methods of a repository have one name: no field can be called after the identifier. -/
theorem nodup_repositoryMethods (h : e.IsDescribed)
    (hcolumns : ∀ m ∈ e.given, m.column ∉ Descriptor.systemColumns) :
    (e.repositoryMethods.map Method.name).Nodup := by
  let lookups := e.searchableMembers.map fun m => "FindBy" ++ m.name
  have hgiven : ∀ m ∈ e.searchableMembers, m ∈ e.given := fun m hm =>
    h.userMembers ▸ List.mem_of_mem_filter hm
  have hlookups : lookups.Nodup := by
    have hnames : (e.searchableMembers.map Member.name).Nodup := by
      rw [searchableMembers, h.userMembers]
      exact h.nodup.sublist (List.filter_sublist.map _)
    have hmap : lookups = (e.searchableMembers.map Member.name).map ("FindBy" ++ ·) := by
      rw [List.map_map]
      rfl
    rw [hmap]
    exact hnames.map fun a b he => (String.append_right_inj _).1 he
  have hfixed : ∀ x ∈ lookups, startsWith x "FindBy" = true ∧ x ≠ "FindByID" := by
    intro x hx
    obtain ⟨m, hm, rfl⟩ := List.mem_map.1 hx
    refine ⟨startsWith_findBy _, fun he => hcolumns m (hgiven m hm) ?_⟩
    have hname : m.name = "ID" := (String.append_right_inj _).1 (he : _ = "FindBy" ++ "ID")
    change snake m.name ∈ _
    rw [hname]
    decide
  have hapart (others : List String)
      (hothers : ∀ x ∈ others, startsWith x "FindBy" = false ∨ x = "FindByID") :
      ∀ x ∈ lookups, ∀ y ∈ others, x ≠ y := fun x hx y hy he => by
    subst he
    rcases hothers x hy with hstart | rfl
    · simp [(hfixed x hx).1] at hstart
    · exact (hfixed _ hx).2 rfl
  have hperm (first rest last : List String) :
      (first ++ lookups ++ rest ++ last).Perm (lookups ++ (first ++ rest ++ last)) := by
    simp only [List.append_assoc]
    exact List.perm_append_comm_assoc first lookups (rest ++ last)
  rw [map_name_repositoryMethods, map_method_accessors h, (hperm _ _ _).nodup_iff, List.nodup_append]
  split
  · exact ⟨hlookups, by decide, hapart _ (by decide)⟩
  · exact ⟨hlookups, by decide, hapart _ (by decide)⟩

/-- The lookups among the methods are those of the searchable fields. -/
theorem filter_repositoryMethods (h : e.IsDescribed) :
    (e.repositoryMethods.map Method.name).filter (startsWith · "FindBy") =
      "FindByID" :: e.searchableMembers.map fun m => "FindBy" ++ m.name := by
  have hlookups : (e.searchableMembers.map fun m => "FindBy" ++ m.name).filter
      (startsWith · "FindBy") = e.searchableMembers.map fun m => "FindBy" ++ m.name := by
    refine List.filter_eq_self.2 fun x hx => ?_
    obtain ⟨m, -, rfl⟩ := List.mem_map.1 hx
    exact startsWith_findBy _
  have hfirst : ["Save", "FindByID"].filter (startsWith · "FindBy") = ["FindByID"] := by decide
  have hmiddle : ["Update", "Delete", "FindAll"].filter (startsWith · "FindBy") = [] := by decide
  have hlast : (if e.settings.transactions.truthy then ["SaveWithTx", "UpdateWithTx", "DeleteWithTx"]
      else []).filter (startsWith · "FindBy") = [] := by
    split <;> decide
  rw [map_name_repositoryMethods, map_method_accessors h, List.filter_append, List.filter_append,
    List.filter_append, hfirst, hlookups, hmiddle, hlast]
  simp

end Names

section Descriptor

variable {e : Entity}

/-- The tag of a searchable field, as the file of the entity has it, tells what its lookup does. -/
theorem exists_tag (h : e.IsDescribed) (htagged : e.IsTagged)
    (hcolumns : ∀ m ∈ e.given, m.column ∉ Descriptor.systemColumns) {m : Member}
    (hm : m ∈ e.searchableMembers) :
    ∃ tag, fieldTag? e.name m.name (textOf e.entityLines) = some tag ∧
      tagColumn? tag = some m.column ∧ hasUniqueIndex tag = m.plan.unique := by
  have huser : m ∈ e.userMembers := List.mem_of_mem_filter hm
  have hcolumn : Lacks ['"', ';'] m.column :=
    lacks_join_lowerWords (h.word_member huser) (by decide) (by decide)
  obtain ⟨hnamed, hunique⟩ :=
    tag_tagFor (mem_builtin m) hcolumn e.settings.validation.truthy
  refine ⟨m.field.tag, fieldTag?_entityLines h htagged hcolumns (h.userMembers ▸ huser), ?_, ?_⟩
  · rw [htagged m huser]
    exact hnamed
  · rw [htagged m huser]
    exact hunique

/-- The accessor of a searchable field, whose lookup the repository has. -/
theorem exists_accessor (h : e.IsDescribed) {m : Member} (hm : m ∈ e.searchableMembers) :
    ∃ a ∈ e.accessors, a.method = "FindBy" ++ m.name ∧ a.field = m.name ∧
      a.goType = m.type.goType ∧ a.isUnique = m.plan.unique ∧
      e.lookupMethod a ∈ e.repositoryMethods := by
  let a : Accessor :=
    { method := "FindBy" ++ m.name, field := m.name, goType := m.type.goType,
      cardinality := if m.plan.unique then .one else .many }
  have ha : a ∈ e.accessors := accessors_eq h ▸ List.mem_map_of_mem hm
  refine ⟨a, ha, rfl, rfl, rfl, ?_, ?_⟩
  · cases hunique : m.plan.unique <;> simp [a, Accessor.isUnique, hunique]
  · simp only [repositoryMethods, List.mem_append, List.mem_map]
    exact Or.inl (Or.inl (Or.inr ⟨a, ha, rfl⟩))

theorem lookupMethod_mem (h : e.IsDescribed) {m : Member} (hm : m ∈ e.searchableMembers) :
    ∃ a ∈ e.accessors, a.method = "FindBy" ++ m.name ∧ a.column = m.column ∧
      e.lookupMethod a ∈ e.repositoryMethods ∧
      (e.lookupMethod a).type = {
        name := "FindBy" ++ m.name, parameters := [m.type.goType],
        results := if m.plan.unique then "(*domain." ++ e.name ++ ", error)"
          else "([]domain." ++ e.name ++ ", error)" } := by
  obtain ⟨a, ha, hmethod, hfield, htype, hunique, hmem⟩ := exists_accessor h hm
  refine ⟨a, ha, hmethod, by rw [Accessor.column, hfield]; rfl, hmem, ?_⟩
  simp [Method.type, lookupMethod, Accessor.results, hmethod, htype, hunique]

/-- An entity of an accepted name and a descriptor that could be read has an implementation of its
repository with the methods of the interface, whatever its settings. If the name of the module stays
on its line, the head of the file adds none. -/
theorem repository_isImplemented {catalog : Catalog} {text : Option String} {fields : List Field}
    (hread : Descriptor.read catalog text = .ok fields) {name : String} {settings : Settings}
    (h : ofFields name fields settings = .ok e) :
    ∃ interface code file methods, Piece.repositoryInterface.Declares e interface ∧
      Piece.repositoryImplementation.Declares e
        (goHeader "repository" e.implementationImports ++ code) ∧
      Piece.entity.Declares e file ∧ e.IsImplemented interface code file methods ∧
      ('\n' ∉ settings.moduleName.text.toList → implementedMethods? e.repositoryType
        (goHeader "repository" e.implementationImports ++ code) = some methods) := by
  have hdescribed := isDescribed_of_read hread h
  have hcolumns := column_of_read hread h
  have hsettings : e.settings = settings := (ofFields_ok h).2.2.1
  have hcode : goHeader "repository" e.implementationImports ++
      textOf (Source.allLinesAt 0 e.repositorySource) = textOf e.implementationLines := by
    rw [goHeader_eq, ← textOf_append, implementationLines]
  have hnames : (e.repositoryMethods.map Method.type).map MethodType.name =
      e.repositoryMethods.map Method.name := by
    rw [List.map_map]
    rfl
  refine ⟨textOf e.interfaceLines, textOf (Source.allLinesAt 0 e.repositorySource),
    textOf e.entityLines, e.repositoryMethods.map Method.type,
    Piece.declares_lines hdescribed (p := .repositoryInterface) rfl, ?_, Piece.declares_entity e,
    ⟨interfaceMethods?_interfaceLines hdescribed, ?_, ?_, ?_, fun m hm => ?_⟩, fun hmodule => ?_⟩
  · rw [hcode]
    exact declares_implementation e
  · have hhead : ∀ l ∈ ([] : List String), '\n' ∉ l.toList ∧ ¬ "func (".toList <+: l.toList := by
      simp
    have hcode := implementedMethods?_source hdescribed hhead
    rwa [List.nil_append] at hcode
  · rw [hnames]
    exact nodup_repositoryMethods hdescribed hcolumns
  · rw [hnames]
    exact filter_repositoryMethods hdescribed
  · obtain ⟨tag, htag, hcolumn, hunique⟩ :=
      exists_tag hdescribed (isTagged_of_ofFields h) hcolumns hm
    obtain ⟨a, ha, hmethod, hasked, hmem, htype⟩ := lookupMethod_mem hdescribed hm
    refine ⟨tag, m.column, htag, hcolumn, ?_, ?_⟩
    · rw [← hmethod, ← hasked]
      exact askedColumn?_source hdescribed (nodup_repositoryMethods hdescribed hcolumns) ha
    · rw [hunique, ← htype]
      exact List.mem_map_of_mem hmem
  · have himports : ∀ i ∈ e.implementationImports, Lacks ['\n'] i := by
      simp only [implementationImports, List.forall_mem_append, List.forall_mem_cons]
      refine ⟨fun i hi c hc => ?_, ?_, by decide, by simp⟩
      · exact lacks_importsOf _ i hi c (List.mem_append_left ['\r', ' '] hc)
      · simp [domainImport, Lacks, hsettings, hmodule]
    rw [hcode]
    refine implementedMethods?_source hdescribed fun l hl => ⟨?_, fun hopens => ?_⟩
    · exact lacks_headerLines (by decide) (by decide) himports l hl '\n' (by simp)
    · obtain ⟨rest, hrest⟩ := hopens
      simpa [← hrest] using head_headerLines _ _ l hl

/-- Products with a unique number and a name, and what stands in between. -/
theorem repository_isImplemented_product : ∃ (fields : List Field) (e : Entity),
    Descriptor.read .builtin (some "sku:string,price:float64,name:string") = .ok fields ∧
      ofFields "product" fields {} = .ok e ∧
      ∃ interface code file methods, Piece.repositoryInterface.Declares e interface ∧
        Piece.repositoryImplementation.Declares e
          (goHeader "repository" e.implementationImports ++ code) ∧
        Piece.entity.Declares e file ∧ e.IsImplemented interface code file methods := by
  obtain ⟨fields, hread, hfields⟩ := exists_of_toOption_any
    (r := Descriptor.read .builtin (some "sku:string,price:float64,name:string"))
    (p := fun fields => (ofFields "product" fields {}).toOption.any fun _ => true) (by decide +kernel)
  obtain ⟨e, he, -⟩ := exists_of_toOption_any hfields
  obtain ⟨interface, code, file, methods, hinterface, hcode, hfile, himplemented, -⟩ :=
    repository_isImplemented hread he
  exact ⟨fields, e, hread, he, interface, code, file, methods, hinterface, hcode, hfile, himplemented⟩

end Descriptor

end Entity

end GoScaffold
