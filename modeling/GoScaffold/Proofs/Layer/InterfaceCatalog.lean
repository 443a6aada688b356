import GoScaffold.Proofs.Entity.Described
import GoScaffold.Proofs.Layer.Marker
import GoScaffold.Proofs.Layer.Share

/-!
# The catalog of repository interfaces

All entities have their repository interfaces in one file. An interface is found by its name, so it
stays as it was when its entity first came, and the file lists the methods of that time.
-/
namespace GoScaffold

open GoScaffold.Text GoScaffold.Naming GoScaffold.Template

def interfacesPath : String := "internal/repository/interfaces.go"

def interfacesFile : SharedFile where
  path := interfacesPath
  package := "repository"
  opener := ""
  closer := ""

theorem interfacesFile_wellFormed : interfacesFile.WellFormed where
  package := ⟨by decide, List.all_eq_true.1 (by decide)⟩
  opener := Or.inl rfl
  opener_imports := by unfold NoImportLine; decide
  closer := Or.inl rfl

namespace Entity

def interfaceName (e : Entity) : String := e.name ++ "Repository"

def interfaceShare (e : Entity) : Artifact := Piece.repositoryInterface.share e

def methodLines (e : Entity) : List String := [
  "\tSave(" ++ e.variableName ++ " *domain." ++ e.name ++ ") error",
  "\tFindByID(id uint) (*domain." ++ e.name ++ ", error)"] ++
  (e.accessors.map fun a =>
    "\t" ++ a.method ++ "(" ++ goIdentifier a.field ++ " " ++ a.goType ++ ") " ++
      a.results e.name) ++ [
  "\tUpdate(" ++ e.variableName ++ " *domain." ++ e.name ++ ") error",
  "\tDelete(id uint) error",
  "\tFindAll() ([]domain." ++ e.name ++ ", error)"] ++
  e.transactionLines

theorem interfaceLines_eq (e : Entity) : e.interfaceLines =
    "" :: typeLine e.interfaceName "interface" :: (e.methodLines ++ ["\x7d"]) := by
  simp [interfaceLines, methodLines, interfaceName]

section Methods

variable {e : Entity}

theorem exists_of_mem_accessors {a : Accessor} (ha : a ∈ e.accessors) :
    ∃ m ∈ e.given, a.method = "FindBy" ++ m.name ∧ a.field = m.name ∧ a.goType = m.type.goType := by
  obtain ⟨m, hm, hsome⟩ := List.mem_filterMap.1 ha
  rw [Member.accessor?] at hsome
  split at hsome
  · cases hsome
    exact ⟨m, hm, rfl, rfl, rfl⟩
  · cases hsome

theorem isWord_method (h : e.IsDescribed) {a : Accessor} (ha : a ∈ e.accessors) :
    IsWord a.method := by
  obtain ⟨m, hm, hmethod, -⟩ := exists_of_mem_accessors ha
  rw [hmethod, isWord_append]
  exact ⟨by decide, (h.fieldName m hm).word⟩

theorem tab_methodLines (e : Entity) : ∀ l ∈ e.methodLines, ['\t'] <+: l.toList := by
  have htransaction : ∀ l ∈ e.transactionLines, ['\t'] <+: l.toList := by
    rw [transactionLines]
    split
    · simp
    · simp
  simp only [methodLines, List.forall_mem_append, List.forall_mem_cons, List.forall_mem_map,
    List.not_mem_nil, false_implies, implies_true, and_true]
  exact ⟨⟨⟨by simp, by simp⟩, by simp⟩, htransaction⟩

theorem lacks_type (m : Member) : Lacks lineEnds m.type.goType ∧ Lacks ['(', ' '] m.type.goType := by
  have hall : ∀ t ∈ FieldType.builtin, Lacks lineEnds t.goType ∧ Lacks ['(', ' '] t.goType := by decide
  exact hall m.type (mem_builtin m)

theorem lacks_goIdentifier {s : String} (h : IsTypeName s) : Lacks lineEnds (goIdentifier s) :=
  IsWord.lacks (goIdentifier_of_isTypeName h).1 (by decide)

theorem lacks_results (h : e.IsDescribed) (a : Accessor) : Lacks lineEnds (a.results e.name) := by
  have hname : Lacks lineEnds e.name := h.name.word.lacks (by decide)
  rw [Accessor.results]
  split <;> simp +decide only [lacks_append, hname, and_self]

theorem lacks_interfaceLines (h : e.IsDescribed) : ∀ l ∈ e.interfaceLines, Lacks lineEnds l := by
  have hname : Lacks lineEnds e.name := h.name.word.lacks (by decide)
  have hvariable : Lacks lineEnds e.variableName := lacks_goIdentifier h.name
  have haccessors : ∀ a ∈ e.accessors, Lacks lineEnds ("\t" ++ a.method ++ "(" ++
      goIdentifier a.field ++ " " ++ a.goType ++ ") " ++ a.results e.name) := by
    intro a ha
    obtain ⟨m, hm, -, hfield, htype⟩ := exists_of_mem_accessors ha
    have hmethod : Lacks lineEnds a.method := (isWord_method h ha).lacks (by decide)
    have hparameter : Lacks lineEnds (goIdentifier a.field) :=
      hfield ▸ lacks_goIdentifier (h.fieldName m hm)
    have hgoType : Lacks lineEnds a.goType := htype ▸ (lacks_type m).1
    simp +decide only [lacks_append, hmethod, hparameter, hgoType, lacks_results h a, and_self]
  have htransaction : ∀ l ∈ e.transactionLines, Lacks lineEnds l := by
    rw [transactionLines]
    split
    · simp +decide only [List.forall_mem_cons, lacks_append, hname, hvariable, and_self]
    · simp
  rw [interfaceLines_eq]
  simp only [methodLines, List.forall_mem_append, List.forall_mem_cons, List.forall_mem_map,
    List.not_mem_nil, false_implies, implies_true, and_true]
  refine ⟨by decide, ?_, ⟨⟨⟨?_, haccessors⟩, ?_⟩, htransaction⟩, by decide⟩
  · simp +decide only [typeLine, interfaceName, lacks_append, hname, and_self]
  · simp +decide only [lacks_append, hname, hvariable, and_self]
  · simp +decide only [lacks_append, hname, hvariable, and_self]

/-- A line of an interface lists the method whose name stands up to the parenthesis. -/
theorem listed_of_toList {l x : String} (rest : List Char) (hx : '(' ∉ x.toList)
    (hl : l.toList = '\t' :: (x.toList ++ '(' :: rest)) : listed? l = some x := by
  have hline : l = "\t" ++ (x ++ (String.singleton '(' ++ .ofList rest)) := by
    rw [← String.toList_inj, hl]
    simp
  rw [listed?, hline, behindStart?_append, Option.map_some, upTo_append hx]

theorem filterMap_of_forall₂ {α β : Type} {f : α → Option β} {xs : List α} {ys : List β}
    (h : List.Forall₂ (fun x y => f x = some y) xs ys) : xs.filterMap f = ys := by
  induction h with
  | nil => rfl
  | cons hx _ ih => rw [List.filterMap_cons_some hx, ih]

theorem map_name_repositoryMethods (e : Entity) : e.repositoryMethods.map Method.name =
    ["Save", "FindByID"] ++ e.accessors.map Accessor.method ++ ["Update", "Delete", "FindAll"] ++
      if e.settings.transactions.truthy then ["SaveWithTx", "UpdateWithTx", "DeleteWithTx"]
      else [] := by
  rw [repositoryMethods, List.map_append, List.map_append, List.map_append, List.map_map]
  refine congrArg₂ _ rfl ?_
  split <;> rfl

theorem listed_methodLines (h : e.IsDescribed) :
    e.methodLines.filterMap listed? = e.repositoryMethods.map Method.name := by
  have hfixed (x : String) (hx : '(' ∉ x.toList) (rest : String) :
      listed? ("\t" ++ x ++ "(" ++ rest) = some x :=
    listed_of_toList rest.toList hx (by simp)
  have haccessors : (e.accessors.map fun a =>
      "\t" ++ a.method ++ "(" ++ goIdentifier a.field ++ " " ++ a.goType ++ ") " ++
        a.results e.name).filterMap listed? = e.accessors.map Accessor.method := by
    refine filterMap_of_forall₂ (List.forall₂_map_left_iff.2 (List.forall₂_map_right_iff.2 ?_))
    refine List.forall₂_same.2 fun a ha => ?_
    simp only [String.append_assoc] at hfixed ⊢
    exact hfixed _ ((isWord_method h ha).not_mem (by decide)) _
  have htransaction : e.transactionLines.filterMap listed? =
      if e.settings.transactions.truthy then ["SaveWithTx", "UpdateWithTx", "DeleteWithTx"]
      else [] := by
    rw [transactionLines]
    split
    · refine filterMap_of_forall₂ (.cons ?_ (.cons ?_ (.cons ?_ .nil)))
      all_goals exact listed_of_toList _ (by decide) (by simp; rfl)
    · rfl
  have hfirst : [
      "\tSave(" ++ e.variableName ++ " *domain." ++ e.name ++ ") error",
      "\tFindByID(id uint) (*domain." ++ e.name ++ ", error)"].filterMap listed? =
      ["Save", "FindByID"] := by
    refine filterMap_of_forall₂ (.cons ?_ (.cons ?_ .nil))
    all_goals exact listed_of_toList _ (by decide) (by simp; rfl)
  have hlast : [
      "\tUpdate(" ++ e.variableName ++ " *domain." ++ e.name ++ ") error",
      "\tDelete(id uint) error",
      "\tFindAll() ([]domain." ++ e.name ++ ", error)"].filterMap listed? =
      ["Update", "Delete", "FindAll"] := by
    refine filterMap_of_forall₂ (.cons ?_ (.cons ?_ (.cons ?_ .nil)))
    all_goals exact listed_of_toList _ (by decide) (by simp; rfl)
  rw [methodLines, List.filterMap_append, List.filterMap_append, List.filterMap_append, hfirst,
    haccessors, hlast, htransaction, map_name_repositoryMethods]

end Methods

end Entity

section Catalog

variable {e b : Entity} {parts : List Entity} {head : List String}

theorem interfaceLines_start (e : Entity) : ∀ l ∈ e.interfaceLines,
    l = "" ∨ l = Entity.typeLine e.interfaceName "interface" ∨ ['\t'] <+: l.toList ∨ l = "\x7d" := by
  rw [Entity.interfaceLines_eq]
  simp only [List.forall_mem_cons, List.forall_mem_append]
  exact ⟨by simp, by simp, fun l hl => Or.inr (Or.inr (Or.inl (e.tab_methodLines l hl))), by simp⟩

theorem newline_not_mem_interfaceLines (h : e.IsDescribed) :
    ∀ l ∈ e.interfaceLines, '\n' ∉ l.toList := fun l hl =>
  Entity.lacks_interfaceLines h l hl '\n' (by decide)

theorem isDeclarative_interfaceShare (h : e.IsDescribed) : e.interfaceShare.IsDeclarative := by
  refine isDeclarative_textOf (rfl : _ = textOf e.interfaceLines) (by simp [Entity.interfaceLines_eq]) ?_
  refine fun l hl => ⟨newline_not_mem_interfaceLines h l hl, fun hword => ?_⟩
  rcases interfaceLines_start e l hl with rfl | rfl | ⟨rest, hrest⟩ | rfl
  · exact absurd hword (by decide)
  · simp [Entity.typeLine, importWord] at hword
  · simp [← hrest, importWord] at hword
  · exact absurd hword (by decide)

/-- The lines that open the interfaces of entities with different names differ. -/
theorem typeLine_inj {x y kind : String} :
    Entity.typeLine x kind = Entity.typeLine y kind ↔ x = y := by
  simp [Entity.typeLine, ← String.toList_inj]

theorem typeLine_start (x kind : String) :
    (Entity.typeLine x kind).toList = "type ".toList ++ (x ++ " " ++ kind ++ " \x7b").toList := by
  simp [Entity.typeLine]

theorem newline_not_mem_header (hhead : ∀ i ∈ head, '\n' ∉ i.toList) :
    ∀ l ∈ headerLines "repository" head, '\n' ∉ l.toList := fun l hl =>
  have hlacks : ∀ i ∈ head, Lacks ['\n'] i := fun i hi => by simpa [Lacks] using hhead i hi
  lacks_headerLines (by decide) (by decide) hlacks l hl '\n' (by simp)

/-- The lines above the interface of an entity whose file had those of others before. -/
def interfaceLinesAbove (head : List String) (above : List Entity) : List String :=
  headerLines "repository" head ++ (above.flatMap Entity.interfaceLines ++ [""]).tail

variable {above : List Entity}

theorem mem_interfaceLinesAbove {l : String} (hl : l ∈ interfaceLinesAbove head above) :
    l ∈ headerLines "repository" head ∨ l = "" ∨ ∃ c ∈ above, l ∈ c.interfaceLines := by
  refine (List.mem_append.1 hl).imp_right fun hl => ?_
  simpa [or_comm] using List.mem_of_mem_tail hl

theorem textUnder_interfaceShares (head : List String) (above : List Entity) (b : Entity)
    (below : List Entity) :
    interfacesFile.textUnder head ((above ++ b :: below).map Entity.interfaceShare) =
      textOf (interfaceLinesAbove head above ++ Entity.typeLine b.interfaceName "interface" ::
        (b.methodLines ++ "\x7d" :: below.flatMap Entity.interfaceLines)) := by
  refine (Piece.textUnder_append (p := .repositoryInterface) (fun c _ => rfl)
    (rfl : _ = textOf []) (rfl : _ = textOf []) head).trans (congrArg textOf ?_)
  change headerLines "repository" head ++ [] ++ (above.flatMap Entity.interfaceLines ++ [""]).tail ++
    (b.interfaceLines.tail ++ (below.flatMap Entity.interfaceLines ++ [])) = _
  rw [Entity.interfaceLines_eq]
  simp [interfaceLinesAbove]

theorem newline_not_mem_interfaceLinesAbove (habove : ∀ c ∈ above, c.IsDescribed)
    (hhead : ∀ i ∈ head, '\n' ∉ i.toList) :
    ∀ l ∈ interfaceLinesAbove head above, '\n' ∉ l.toList := fun l hl => by
  rcases mem_interfaceLinesAbove hl with hl | rfl | ⟨c, hc, hl⟩
  · exact newline_not_mem_header hhead l hl
  · simp
  · exact newline_not_mem_interfaceLines (habove c hc) l hl

/-- No line above the interface of an entity opens one of its name. -/
theorem typeLine_not_mem_interfaceLinesAbove (hname : b.name ∉ above.map Entity.name) :
    Entity.typeLine b.interfaceName "interface" ∉ interfaceLinesAbove head above := fun hl => by
  have hstart := typeLine_start b.interfaceName "interface"
  rcases mem_interfaceLinesAbove hl with hl | he | ⟨c, hc, hl⟩
  · simpa [hstart] using head_headerLines _ _ _ hl
  · simp [Entity.typeLine] at he
  · rcases interfaceLines_start c _ hl with he | he | ⟨t, ht⟩ | he
    · simp [Entity.typeLine] at he
    · have hsame : c.name = b.name := ending_inj.1 (typeLine_inj.1 he).symm
      exact hname (hsame ▸ List.mem_map_of_mem hc)
    · simp [hstart] at ht
    · have hchars := congrArg String.toList he
      simp [hstart] at hchars

/-- The file lists the methods of an entity as they were when it first came. -/
theorem listedMethods_textUnder (hparts : ∀ b ∈ parts, b.IsDescribed)
    (hnames : (parts.map Entity.name).Nodup) (hhead : ∀ i ∈ head, '\n' ∉ i.toList)
    (hb : b ∈ parts) :
    listedMethods b.interfaceName
        (interfacesFile.textUnder head (parts.map Entity.interfaceShare)) =
      b.repositoryMethods.map Method.name := by
  obtain ⟨above, below, rfl⟩ := List.append_of_mem hb
  have hname : b.name ∉ above.map Entity.name := fun hmem => by
    rw [List.map_append, List.map_cons] at hnames
    exact (List.nodup_append.1 hnames).2.2 _ hmem _ (by simp) rfl
  have hnewline : ∀ l ∈ interfaceLinesAbove head above ++
      Entity.typeLine b.interfaceName "interface" ::
        (b.methodLines ++ "\x7d" :: below.flatMap Entity.interfaceLines), '\n' ∉ l.toList := by
    have hown := newline_not_mem_interfaceLines (hparts b hb)
    simp only [Entity.interfaceLines_eq, List.forall_mem_cons, List.forall_mem_append] at hown
    simp only [List.forall_mem_append, List.forall_mem_cons, List.forall_mem_flatMap]
    exact ⟨newline_not_mem_interfaceLinesAbove (fun c hc => hparts c (by simp [hc])) hhead,
      hown.2.1, hown.2.2.1, by decide,
      fun c hc => newline_not_mem_interfaceLines (hparts c (by simp [hc]))⟩
  have hbody : "\x7d" ∉ b.methodLines := fun hmem =>
    absurd (b.tab_methodLines _ hmem) (by decide)
  have hopens : Entity.typeLine b.interfaceName "interface" =
      "type " ++ b.interfaceName ++ " interface \x7b" := by
    simp [Entity.typeLine, ← String.toList_inj]
  rw [textUnder_interfaceShares,
    listedMethods_textOf hopens hnewline (typeLine_not_mem_interfaceLinesAbove hname) hbody,
    Entity.listed_methodLines (hparts b hb)]

/-- The text of the file once it has the interfaces of some entities, if there are any. Its head may
name any imports that leave the lines of the head alone. -/
def HasInterfaces (parts : List Entity) (existing : Option String) : Prop :=
  if parts = [] then existing = none
  else ∃ head, (∀ i ∈ head, Lacks spacing i) ∧
    existing = some (interfacesFile.textUnder head (parts.map Entity.interfaceShare))

theorem isDeclarative_shares (hparts : ∀ b ∈ parts, b.IsDescribed) :
    ∀ a ∈ parts.map Entity.interfaceShare, a.IsDeclarative :=
  List.forall_mem_map.2 fun b hb => isDeclarative_interfaceShare (hparts b hb)

theorem headerImports_interfaceShare
    (hmodule : ∀ c ∈ e.settings.moduleName.text.toList, isBlank c = false) :
    ∀ i ∈ headerImports e.interfaceShare, Lacks spacing i := by
  have hno : NoImportLine ("" : String).toList := by simp [NoImportLine, lines]
  have h := lacks_existingImports interfacesFile_wellFormed.package
    (Entity.lacks_interfaceImports hmodule) hno
  rwa [String.append_empty] at h

/-- The interface of an entity is present once an entity of its name has come. -/
theorem isPresent_interfaces (hparts : ∀ b ∈ parts, b.IsDescribed) (h : e.IsDescribed)
    (hhead : ∀ i ∈ head, Lacks spacing i) :
    isPresent (interfacesFile.textUnder head (parts.map Entity.interfaceShare)) e.interfaceShare =
      true ↔ e.name ∈ parts.map Entity.name := by
  let marker := "type " ++ e.name ++ "Repository interface"
  have hne : marker.toList ≠ [] := by simp [marker]
  have hline : '\n' ∉ marker.toList := by simp [marker, h.name.word.not_mem (c := '\n') (by decide)]
  have hquiet : IsQuiet (goHeader "repository" head) :=
    isQuiet_goHeader (by decide) fun i hi => hhead i hi ' ' (by decide)
  have hheader : ¬ marker.toList <:+: (goHeader "repository" head).toList := by
    rw [← contains_eq_false_iff]
    simp only [marker]
    rw [Entity.interface_marker]
    exact Piece.not_contains_of_isQuiet (h.name.append (t := "Repository") (by decide)) hquiet
  have hshare (b : Entity) (hb : b ∈ parts) :
      marker.toList <:+: b.interfaceShare.content.toList ↔ b.name = e.name := by
    have hcount := Piece.occurrences_marker (p := .repositoryInterface) h (hparts b hb) rfl rfl
    rw [← not_iff_not, ← occurrences_eq_zero_iff hne]
    change occurrences marker.toList (textOf (Piece.lines b .repositoryInterface)).toList = 0 ↔ _
    rw [hcount]
    simp
  rw [SharedFile.isPresent_iff, contains_iff]
  change marker ≠ "" ∧ marker.toList <:+: _ ↔ _
  rw [SharedFile.infix_textUnder_iff interfacesFile_wellFormed
    (fun i hi => hhead i hi '\n' (by decide)) (isDeclarative_shares hparts) hne hline hheader
    (by simpa [interfacesFile] using hne) (by simpa [interfacesFile] using hne)]
  simp only [List.mem_map, exists_exists_and_eq_and]
  refine ⟨fun ⟨_, b, hb, hin⟩ => ⟨b, hb, (hshare b hb).1 hin⟩, fun ⟨b, hb, hname⟩ => ⟨?_, b, hb, (hshare b hb).2 hname⟩⟩
  simpa using hne

/-- One more entity adds its interface, unless one of its name has come before. -/
theorem HasInterfaces.merge {existing : Option String} (hhas : HasInterfaces parts existing)
    (hparts : ∀ b ∈ parts, b.IsDescribed) (h : e.IsDescribed)
    (hmodule : ∀ c ∈ e.settings.moduleName.text.toList, isBlank c = false) :
    HasInterfaces (withFirst parts e) (textAfter existing e.interfaceShare) := by
  rw [HasInterfaces, if_neg (withFirst_ne_nil parts e)]
  rw [HasInterfaces] at hhas
  split at hhas
  · next hempty =>
    subst hempty hhas
    refine ⟨e.interfaceImports, Entity.lacks_interfaceImports hmodule, ?_⟩
    change some (goHeader "repository" e.interfaceImports ++ "" ++ e.interfaceShare.firstContent ++ "") =
      some (goHeader "repository" e.interfaceImports ++ "" ++ (e.interfaceShare.firstContent ++ "") ++ "")
    simp only [String.append_empty]
  · next hne =>
    obtain ⟨head, hhead, rfl⟩ := hhas
    have hpresent := isPresent_interfaces hparts h hhead
    by_cases hmem : e.name ∈ parts.map Entity.name
    · refine ⟨head, hhead, ?_⟩
      rw [textAfter, merge_of_isPresent rfl (hpresent.2 hmem), withFirst, if_pos hmem]
      rfl
    · have habsent : isPresent (interfacesFile.textUnder head (parts.map Entity.interfaceShare))
          e.interfaceShare = false := by
        rw [← Bool.not_eq_true, hpresent]
        exact hmem
      let added := (headerImports e.interfaceShare).filter (· ∉ existingImports
        (goHeader interfacesFile.package head ++
          (interfacesFile.opener ++ SharedFile.declarations (parts.map Entity.interfaceShare))))
      have hmerge := SharedFile.merge_textUnder interfacesFile_wellFormed
        (fun i hi => hhead i hi '\n' (by decide)) (isDeclarative_shares hparts) (by simpa using hne)
        rfl rfl habsent (rfl : _ = added)
      refine ⟨head ++ added, List.forall_mem_append.2 ⟨hhead, fun i hi => ?_⟩, ?_⟩
      · exact headerImports_interfaceShare hmodule i (List.mem_of_mem_filter hi)
      · rw [textAfter, hmerge, withFirst, if_neg hmem, List.map_append, List.map_singleton]
        rfl

end Catalog

end GoScaffold
