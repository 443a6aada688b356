import GoScaffold.Proofs.Layer.Block
import GoScaffold.Proofs.Layer.Built
import GoScaffold.Proofs.Layer.TypeLine

/-!
# Markers tell entities apart

Names of entities and fields and fixed affixes stand next to each other without separators. Still,
the marker of an entity in a shared file is found once in its own share and nowhere in what another
entity brings to the file.
-/
namespace GoScaffold

open GoScaffold.Text GoScaffold.Naming GoScaffold.Template

theorem count_first {x y value : String} {rest : List (String × String)}
    (h : x ∉ rest.map (·.1)) :
    (((y, value) :: rest).map (·.1)).count x = if y = x then 1 else 0 := by
  rw [List.map_cons, List.count_cons, List.count_eq_zero_of_not_mem h, Nat.zero_add]
  simp

theorem Entity.dto_marker (e : Entity) : "type Create" ++ e.name ++ "Input struct" =
    "type " ++ ("Create" ++ e.name ++ "Input") ++ " " ++ "struct" := by
  simp [← String.toList_inj]

theorem Entity.interface_marker (e : Entity) : "type " ++ e.name ++ "Repository interface" =
    "type " ++ (e.name ++ "Repository") ++ " " ++ "interface" := by
  simp [← String.toList_inj]

theorem Entity.lacks_interfaceImports {e : Entity}
    (hmodule : ∀ c ∈ e.settings.moduleName.text.toList, isBlank c = false) :
    ∀ i ∈ e.interfaceImports, Lacks spacing i := by
  intro i hi
  rcases List.mem_append.1 hi with hi | hi
  · rcases List.mem_append.1 hi with hi | hi
    · exact lacks_importsOf _ i hi
    · exact List.mem_singleton.1 hi ▸ lacks_domainImport hmodule
  · split at hi
    · exact List.mem_singleton.1 hi ▸ (by decide)
    · simp at hi

namespace Entity.IsDescribed

variable {e e' : Entity}

theorem occurrences_errorMessages (h : e.IsDescribed) (h' : e'.IsDescribed) :
    occurrences ("\tErr" ++ e.name ++ "NotFound ").toList (textOf e'.errorMessagesLines).toList =
      if e'.name = e.name then 1 else 0 := by
  have hmarker : "\tErr" ++ e.name ++ "NotFound " = "\t" ++ ("Err" ++ e.name ++ "NotFound") ++ " " := by
    simp [← String.toList_inj]
  have hword : IsWord ("Err" ++ e.name ++ "NotFound") := by
    simp +decide only [isWord_append, h.name.word, and_self]
  have hcomment : IsInline (e'.name ++ " errors") := by
    simp +decide only [isInline_append, h'.inline_name, and_self]
  rw [hmarker, errorMessagesLines, occurrences_blockLines hword hcomment h'.isBlock_errorMessages,
    errorMessages, List.cons_append, List.cons_append, count_first]
  · simp only [affixes_inj]
  · simp only [List.cons_append, List.nil_append, List.map_cons, List.map_append, List.map_map,
      List.map_nil, List.mem_cons, List.mem_append, List.mem_map, Function.comp_apply,
      List.not_mem_nil, or_false]
    rintro (hn | hn | ⟨m, -, hn⟩ | hn | hn)
    · exact ne_of_endings (by decide) (by decide) _ _ hn
    · exact ne_of_endings (by decide) (by decide) _ _ hn
    · exact ne_of_endings (by decide) (by decide) _ _ hn
    · exact ne_of_endings (by decide) (by decide) _ _ hn
    · exact ne_of_endings (by decide) (by decide) _ _ hn

theorem occurrences_successMessages (h : e.IsDescribed) (h' : e'.IsDescribed) :
    occurrences ("\t" ++ e.name ++ "CreatedSuccessfully ").toList
        (textOf e'.responseMessagesLines).toList = if e'.name = e.name then 1 else 0 := by
  have hmarker : "\t" ++ e.name ++ "CreatedSuccessfully " =
      "\t" ++ (e.name ++ "CreatedSuccessfully") ++ " " := by
    simp [← String.toList_inj]
  have hword : IsWord (e.name ++ "CreatedSuccessfully") := by
    simp +decide only [isWord_append, h.name.word, and_self]
  have hcomment : IsInline (e'.name ++ " success messages") := by
    simp +decide only [isInline_append, h'.inline_name, and_self]
  rw [hmarker, responseMessagesLines, occurrences_blockLines hword hcomment
    h'.isBlock_successMessages, successMessages, count_first]
  · simp only [ending_inj]
  · simp only [List.map_cons, List.map_nil, List.mem_cons, List.not_mem_nil, or_false]
    rintro (hn | hn | hn | hn)
    · exact ne_of_endings (by decide) (by decide) _ _ hn
    · exact ne_of_endings (by decide) (by decide) _ _ hn
    · exact ne_of_endings (by decide) (by decide) _ _ hn
    · exact ne_of_endings (by decide) (by decide) _ _ hn

theorem occurrences_constants (h : e.IsDescribed) (h' : e'.IsDescribed) :
    occurrences ("\t" ++ e.name ++ "TableName ").toList (textOf e'.constantsLines).toList =
      if e'.name = e.name then 1 else 0 := by
  have hmarker : "\t" ++ e.name ++ "TableName " = "\t" ++ (e.name ++ "TableName") ++ " " := by
    simp [← String.toList_inj]
  have hword : IsWord (e.name ++ "TableName") := by
    simp +decide only [isWord_append, h.name.word, and_self]
  have hcomment : IsInline (e'.name ++ " constants") := by
    simp +decide only [isInline_append, h'.inline_name, and_self]
  rw [hmarker, constantsLines, occurrences_blockLines hword hcomment h'.isBlock_constants,
    constants, List.cons_append, count_first]
  · simp only [ending_inj]
  · simp only [List.cons_append, List.nil_append, List.map_cons, List.map_map, List.mem_cons,
      List.mem_map, Function.comp_apply]
    rintro (hn | hn | hn | hn | ⟨m, -, hn⟩)
    · exact ne_of_endings (by decide) (by decide) _ _ hn
    · exact ne_of_endings (by decide) (by decide) _ _ hn
    · exact ne_of_endings (by decide) (by decide) _ _ hn
    · exact ne_of_endings (by decide) (by decide) _ _ hn
    · exact ne_of_endings (by decide) (by decide) _ _ hn

theorem isTypeName_input (h : e.IsDescribed) : IsTypeName ("Create" ++ e.name ++ "Input") := by
  have hcreate : IsTypeName "Create" := ⟨by decide, 'C', "reate".toList, by decide, by decide⟩
  exact (hcreate.append h.name.word).append (by decide)

theorem occurrences_dto (h : e.IsDescribed) (h' : e'.IsDescribed) :
    occurrences ("type Create" ++ e.name ++ "Input struct").toList (textOf e'.dtoLines).toList =
      if e'.name = e.name then 1 else 0 := by
  rw [dto_marker, h'.declaring_dto.occurrences_eq h.isTypeName_input (by decide) (by decide),
    List.count_cons, List.count_eq_zero_of_not_mem, Nat.zero_add]
  · simp only [beq_iff_eq, affixes_inj]
  · simp only [List.mem_cons, List.not_mem_nil, or_false]
    rintro (hn | hn | hn)
    · exact ne_of_endings (by decide) (by decide) _ _ hn
    · simp [← String.toList_inj] at hn
    · exact ne_of_endings (by decide) (by decide) _ _ hn

theorem occurrences_interface (h : e.IsDescribed) (h' : e'.IsDescribed) :
    occurrences ("type " ++ e.name ++ "Repository interface").toList
      (textOf e'.interfaceLines).toList = if e'.name = e.name then 1 else 0 := by
  have hx := h.name.append (t := "Repository") (by decide)
  rw [interface_marker, h'.declaring_interface.occurrences_eq hx (by decide) (by decide)]
  simp [List.count_cons]

end Entity.IsDescribed

namespace Piece

/-- The pieces with a marker that no field of another entity can spell. -/
def isDistinct : Piece → Bool
  | .dto | .repositoryInterface | .errorMessages | .responseMessages | .constants => true
  | _ => false

variable {e e' : Entity} {p : Piece} {m : String}

theorem isSome_marker (e : Entity) (hp : p.isDistinct = true) : (p.marker e).isSome = true := by
  cases p with
  | dto | repositoryInterface | errorMessages | responseMessages | constants => rfl
  | entity | errors | samples | repositoryImplementation | handler => cases hp

theorem occurrences_marker (h : e.IsDescribed) (h' : e'.IsDescribed) (hp : p.isDistinct = true)
    (hm : p.marker e = some m) :
    occurrences m.toList (textOf (p.lines e')).toList = if e'.name = e.name then 1 else 0 := by
  cases p with
  | dto => cases hm; exact h.occurrences_dto h'
  | repositoryInterface => cases hm; exact h.occurrences_interface h'
  | errorMessages => cases hm; exact h.occurrences_errorMessages h'
  | responseMessages => cases hm; exact h.occurrences_successMessages h'
  | constants => cases hm; exact h.occurrences_constants h'
  | entity | errors | samples | repositoryImplementation | handler => cases hp

theorem isQuiet_header (hmodule : ∀ c ∈ e.settings.moduleName.text.toList, isBlank c = false)
    (hp : p = .dto ∨ p = .repositoryInterface) : IsQuiet (p.header e) := by
  rcases hp with rfl | rfl
  · refine isQuiet_goHeader (by decide) fun i hi => ?_
    rcases List.mem_append.1 hi with hi | hi
    · exact lacks_importsOf _ i hi ' ' (by decide)
    · exact List.mem_singleton.1 hi ▸ lacks_domainImport hmodule ' ' (by decide)
  · exact isQuiet_goHeader (by decide) fun i hi => Entity.lacks_interfaceImports hmodule i hi ' ' (by decide)

theorem not_contains_of_isQuiet {s x kind : String} (hx : IsTypeName x) (hs : IsQuiet s) :
    contains s ("type " ++ x ++ " " ++ kind) = false := by
  rw [contains_eq_false_iff, ← occurrences_eq_zero_iff (by simp)]
  exact occurrences_of_isQuiet hx hs

theorem not_contains_of_tab {s t : String} (hs : '\t' ∉ s.toList) : contains s ("\t" ++ t) = false := by
  rw [contains_eq_false_iff]
  exact fun h => hs (h.subset (by simp))

/-- A marker stands in nothing that surrounds the shares of a file. -/
theorem surroundings_marker (h : e.IsDescribed) (hp : p.isDistinct = true)
    (hmodule : ∀ c ∈ e'.settings.moduleName.text.toList, isBlank c = false)
    (hm : p.marker e = some m) :
    contains (p.header e') m = false ∧ contains p.opener m = false ∧
      contains p.closer m = false := by
  have htype {x kind : String} (hx : IsTypeName x) (hm : m = "type " ++ x ++ " " ++ kind)
      (hpiece : p = .dto ∨ p = .repositoryInterface) :
      contains (p.header e') m = false ∧ contains p.opener m = false ∧
        contains p.closer m = false := by
    subst hm
    refine ⟨not_contains_of_isQuiet hx (isQuiet_header hmodule hpiece), ?_, ?_⟩
    · rcases hpiece with rfl | rfl <;> exact not_contains_of_isQuiet hx (by decide)
    · rcases hpiece with rfl | rfl <;> exact not_contains_of_isQuiet hx (by decide)
  have htab {t : String} (hm : m = "\t" ++ t) (hheader : '\t' ∉ (p.header e').toList)
      (hopener : '\t' ∉ p.opener.toList) (hcloser : '\t' ∉ p.closer.toList) :
      contains (p.header e') m = false ∧ contains p.opener m = false ∧
        contains p.closer m = false :=
    hm ▸ ⟨not_contains_of_tab hheader, not_contains_of_tab hopener, not_contains_of_tab hcloser⟩
  cases p with
  | dto =>
    exact htype (Entity.IsDescribed.isTypeName_input h)
      ((Option.some.inj hm).symm.trans (Entity.dto_marker e)) (Or.inl rfl)
  | repositoryInterface =>
    exact htype (h.name.append (t := "Repository") (by decide))
      ((Option.some.inj hm).symm.trans (Entity.interface_marker e)) (Or.inr rfl)
  | errorMessages =>
    have hheader : '\t' ∉ (goHeader "messages").toList := by decide
    refine htab (t := "Err" ++ e.name ++ "NotFound ") ?_ hheader (by decide) (by decide)
    exact (Option.some.inj hm).symm.trans (by simp [← String.toList_inj])
  | responseMessages =>
    have hheader : '\t' ∉ (goHeader "messages").toList := by decide
    refine htab (t := e.name ++ "CreatedSuccessfully ") ?_ hheader (by decide) (by decide)
    exact (Option.some.inj hm).symm.trans (by simp [← String.toList_inj])
  | constants =>
    have hheader : '\t' ∉ (goHeader "constants").toList := by decide
    refine htab (t := e.name ++ "TableName ") ?_ hheader (by decide) (by decide)
    exact (Option.some.inj hm).symm.trans (by simp [← String.toList_inj])
  | entity | errors | samples | repositoryImplementation | handler => cases hp

/-- Between two entities of different names, the marker of one is found once in what that entity
declares in a shared file, and nowhere in what the other brings to the file. -/
theorem build_marker {text text' : Option String} {fields fields' : List Field}
    {name name' : String} {settings settings' : Settings}
    (hread : Descriptor.read .builtin text = .ok fields)
    (he : Entity.ofFields name fields settings = .ok e)
    (hread' : Descriptor.read .builtin text' = .ok fields')
    (he' : Entity.ofFields name' fields' settings' = .ok e') (hne : e.name ≠ e'.name)
    (hmodule : ∀ c ∈ settings'.moduleName.text.toList, isBlank c = false)
    (hp : p ∈ [.dto, .repositoryInterface, .errorMessages, .responseMessages, .constants])
    {press press' : Press} (hpress : press.IsBuiltin) (hpress' : press'.IsBuiltin) (t t' : Tree) :
    ∃ a a' m, (p.build press t e).2 = .ok a ∧ (p.build press' t' e').2 = .ok a' ∧
      a.marker = some m ∧ occurrences m.toList a.content.toList = 1 ∧
      ∀ s ∈ [a'.header, a'.opener, a'.content, a'.closer], contains s m = false := by
  have h := Entity.isDescribed_of_read hread he
  have h' := Entity.isDescribed_of_read hread' he'
  have hdistinct : p.isDistinct = true := by
    revert p
    decide
  obtain ⟨m, hm⟩ := Option.isSome_iff_exists.1 (isSome_marker e hdistinct)
  obtain ⟨_, hbuild, -⟩ := declares_lines h (isSome_marker e hdistinct) press t hpress
  obtain ⟨_, hbuild', -⟩ := declares_lines h' (isSome_marker e' hdistinct) press' t' hpress'
  have hmodule' : ∀ c ∈ e'.settings.moduleName.text.toList, isBlank c = false := by
    rwa [(Entity.ofFields_ok he').2.2.1]
  obtain ⟨hheader, hopener, hcloser⟩ := surroundings_marker h hdistinct hmodule' hm
  have hcontent : contains (textOf (p.lines e')) m = false := by
    rw [contains_eq_false_iff, ← occurrences_eq_zero_iff (marker_ne_nil hm),
      occurrences_marker h h' hdistinct hm, if_neg hne.symm]
  refine ⟨_, _, m, congrArg (·.2) hbuild, congrArg (·.2) hbuild', hm, ?_, ?_⟩
  · exact (occurrences_marker h h hdistinct hm).trans (if_pos rfl)
  · simp only [List.forall_mem_cons, List.not_mem_nil, false_implies, implies_true, and_true]
    exact ⟨hheader, hopener, hcontent, hcloser⟩

/-- A product and an item of a product, whose names begin alike. -/
theorem build_marker_product : ∃ e e' : Entity, e.name = "Product" ∧ e'.name = "ProductItem" ∧
    ∃ a a' m, (dto.build (.create none) {} e).2 = .ok a ∧
      (dto.build (.create none) {} e').2 = .ok a' ∧ a.marker = some m ∧
      occurrences m.toList a.content.toList = 1 ∧
      ∀ s ∈ [a'.header, a'.opener, a'.content, a'.closer], contains s m = false := by
  have hread : ∃ fields, Descriptor.read .builtin (some "item_input:string") = .ok fields ∧
      ((Entity.ofFields "product" fields {}).toOption.any (·.name == "Product") &&
        (Entity.ofFields "product_item" fields {}).toOption.any (·.name == "ProductItem")) = true :=
    exists_of_toOption_any (by decide +kernel)
  obtain ⟨fields, hread, hboth⟩ := hread
  rw [Bool.and_eq_true] at hboth
  obtain ⟨e, he, hname⟩ := exists_of_toOption_any hboth.1
  obtain ⟨e', he', hname'⟩ := exists_of_toOption_any hboth.2
  rw [beq_iff_eq] at hname hname'
  have hne : e.name ≠ e'.name := by
    rw [hname, hname']
    decide
  have hmodule : defaultModule.toList.all (fun c => !isBlank c) = true := by decide
  refine ⟨e, e', hname, hname', build_marker hread he hread he' hne (fun c hc => ?_) (by decide)
    Press.isBuiltin_create Press.isBuiltin_create {} {}⟩
  simpa using List.all_eq_true.1 hmodule c hc

end Piece

end GoScaffold
