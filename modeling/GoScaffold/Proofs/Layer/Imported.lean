import GoScaffold.Proofs.Layer.EntityReference
import GoScaffold.Proofs.Layer.SampleReference
import GoScaffold.Proofs.Layer.Share
import GoScaffold.Proofs.Layer.SharedReference
import GoScaffold.Proofs.Layer.TemplateReference
import GoScaffold.Proofs.Naming.Respelled

/-!
# Imports of generated files

The head of each file is put together apart from what it stands above, from the types of the fields,
the business rules and the settings. Still the file, as it is when it is new, imports exactly what it
refers to.
-/
namespace GoScaffold

open GoScaffold.Text GoScaffold.Naming GoScaffold.Template

theorem packageName_append {ending : String} (h : '/' ∉ ending.toList) (s : String) :
    packageName (s ++ ("/" ++ ending)) = ending := by
  obtain ⟨first, before, hpieces⟩ := exists_piecesAt_separated h s.toList
  have hsplit : splitAt '/' (s ++ ("/" ++ ending)) =
      .ofList first :: (before.map .ofList ++ [ending]) := by
    simpa [splitAt] using congrArg (List.map String.ofList) hpieces
  rw [packageName, hsplit, ← List.cons_append, List.getLastD_concat]

theorem map_packageName_standard {imports : List String} (h : ∀ i ∈ imports, i ∈ ["time", "strings"]) :
    imports.map packageName = imports := by
  have hall : ∀ i ∈ ["time", "strings"], packageName i = i := by decide
  exact (List.map_congr_left fun i hi => hall i (h i hi)).trans (List.map_id _)

namespace Entity

variable {e : Entity}

def packages (e : Entity) : List String :=
  ["time", "strings", "errors", e.domainImport, e.usecaseImport, databaseImport,
    "github.com/gorilla/mux", "encoding/json", "net/http", "strconv"]

theorem packageName_domainImport (e : Entity) : packageName e.domainImport = "domain" := by
  have hpath : e.domainImport = e.settings.moduleName.text ++ "/internal" ++ ("/" ++ "domain") := by
    rw [domainImport, String.append_assoc]
    rfl
  rw [hpath, packageName_append (by decide)]

theorem packageName_usecaseImport (e : Entity) : packageName e.usecaseImport = "usecase" := by
  have hpath : e.usecaseImport = e.settings.moduleName.text ++ "/internal" ++ ("/" ++ "usecase") := by
    rw [usecaseImport, String.append_assoc]
    rfl
  rw [hpath, packageName_append (by decide)]

/-- A package of the module is imported by a literal just as the module is. -/
theorem isLiteral_append {path below : String} (hquote : '"' ∉ path.toList)
    (hline : '\n' ∉ path.toList) (hbelow : IsLiteral below) (hne : below ≠ "") :
    IsLiteral (path ++ below) where
  no_quote := by simp [hquote, hbelow.no_quote]
  no_newline := by simp [hline, hbelow.no_newline]
  unescaped := by
    rw [String.toList_append, List.getLast?_append_of_ne_nil _ (by simpa using hne)]
    exact hbelow.unescaped

theorem arePackages (hquote : '"' ∉ e.settings.moduleName.text.toList)
    (hline : '\n' ∉ e.settings.moduleName.text.toList) : ArePackages e.packages where
  literal := by
    have hstandard : ∀ path ∈ ["time", "strings", "errors", databaseImport, "github.com/gorilla/mux",
        "encoding/json", "net/http", "strconv", "/internal/domain", "/internal/usecase"],
        '"' ∉ path.toList ∧ '\n' ∉ path.toList ∧ path.toList.getLast? ≠ some '\\' := by decide
    have hliteral : ∀ path ∈ ["time", "strings", "errors", databaseImport, "github.com/gorilla/mux",
        "encoding/json", "net/http", "strconv", "/internal/domain", "/internal/usecase"],
        IsLiteral path := fun path hpath =>
      ⟨(hstandard path hpath).1, (hstandard path hpath).2.1, (hstandard path hpath).2.2⟩
    simp only [List.forall_mem_cons, List.not_mem_nil, false_implies, implies_true, and_true] at hliteral
    obtain ⟨htime, hstrings, herrors, hgorm, hmux, hjson, hhttp, hstrconv, hdomain, husecase⟩ := hliteral
    have hdomain : IsLiteral e.domainImport := isLiteral_append hquote hline hdomain (by decide)
    have husecase : IsLiteral e.usecaseImport := isLiteral_append hquote hline husecase (by decide)
    simp [packages, htime, hstrings, herrors, hgorm, hmux, hjson, hhttp, hstrconv, hdomain, husecase]
  names := by
    simp only [packages, List.map_cons, packageName_domainImport, packageName_usecaseImport]
    decide

theorem eq_time_of_mem_imports {m : Member} {i : String} (hi : i ∈ m.type.imports) : i = "time" := by
  have hall : ∀ t ∈ FieldType.builtin, ∀ i ∈ t.imports, i = "time" := by decide
  exact hall m.type (mem_builtin m) i hi

theorem mem_importsOf {members : List Member} {i : String} :
    i ∈ importsOf members ↔ i ∈ members.flatMap fun m => m.type.imports := mem_sortedOnce

theorem eq_time_of_mem_importsOf {members : List Member} {i : String} (hi : i ∈ importsOf members) :
    i = "time" := by
  obtain ⟨m, -, hi⟩ := List.mem_flatMap.1 (mem_importsOf.1 hi)
  exact eq_time_of_mem_imports hi

theorem standard_entityImports : ∀ i ∈ e.entityImports, i ∈ ["time", "strings"] := by
  have hrules : ∀ r ∈ BusinessRule.all, ∀ i ∈ r.package, i = "strings" := by decide
  intro i hi
  rw [entityImports, mem_sortedOnce, List.mem_append] at hi
  rcases hi with hi | hi
  · obtain ⟨m, -, hi⟩ := List.mem_flatMap.1 hi
    simp [eq_time_of_mem_imports hi]
  · obtain ⟨r, hr, hi⟩ := List.mem_filterMap.1 hi
    simp [hrules r (mem_businessRules hr) i hi]

/-- The names of the repository's type and of its constructor, which hold the name of the database, are
read as code, and refer to no package but what the implementation imports. -/
structure HasCodeNames (e : Entity) : Prop where
  typeName : EndsInCode e.repositoryType
  constructorName : EndsInCode e.repositoryConstructor
  references : e.databaseReferences ⊆ e.implementationImports.map packageName

/-- A database whose name is made of words brings no reference. -/
theorem hasCodeNames_of_isPlainName (h : e.IsDescribed)
    (hdatabase : IsPlainName e.settings.database.text) : e.HasCodeNames := by
  have hword {s : String} (hs : IsWord s) : EndsInCode s ∧ referencesIn s = [] := by
    obtain ⟨hafter, hfound⟩ := Mode.after_word hs 0 []
    refine ⟨⟨0, _, hafter⟩, List.eq_nil_iff_forall_not_mem.2 fun name hmem => ?_⟩
    have hmem := (mem_referencesIn.1 hmem).2
    rw [Mode.start, hfound] at hmem
    cases hmem
  have htype : IsWord e.repositoryType :=
    isWord_append.2 ⟨isWord_append.2 ⟨isWord_goIdentifier hdatabase, h.name.word⟩, by decide⟩
  have hconstructor : IsWord e.repositoryConstructor := by
    refine isWord_append.2 ⟨isWord_append.2 ⟨isWord_append.2 ⟨by decide, ?_⟩, h.name.word⟩, by decide⟩
    exact (isWord_pascal hdatabase).1
  refine ⟨(hword htype).1, (hword hconstructor).1, ?_⟩
  rw [databaseReferences, (hword htype).2, (hword hconstructor).2]
  exact List.nil_subset _

theorem find?_of_nodup {members : List Member} (hnodup : (members.map Member.name).Nodup) {m : Member}
    (hm : m ∈ members) : members.find? (·.name == m.name) = some m := by
  induction members with
  | nil => cases hm
  | cons m' members ih =>
    rw [List.map_cons, List.nodup_cons] at hnodup
    rcases List.mem_cons.1 hm with rfl | hm
    · exact List.find?_cons_of_pos (by simp)
    · have hne : m'.name ≠ m.name := fun he => hnodup.1 (he ▸ List.mem_map_of_mem hm)
      rw [List.find?_cons_of_neg (by simpa using hne), ih hnodup.2 hm]

/-- A searchable field is the first of its name: the identifier is called otherwise. -/
theorem lookupImports_eq (h : e.IsDescribed)
    (hcolumns : ∀ m ∈ e.given, m.column ∉ Descriptor.systemColumns) :
    e.lookupImports = importsOf e.searchableMembers := by
  have hfind : ∀ m ∈ e.searchableMembers, e.members.find? (·.name == m.name) = some m := by
    intro m hm
    have hm : m ∈ e.given := h.userMembers ▸ List.mem_of_mem_filter hm
    have hidentifier : Member.identifier.name ≠ m.name := fun he => by
      refine hcolumns m hm ?_
      change snake m.name ∈ _
      rw [← he]
      decide
    rw [members, List.cons_append, List.cons_append, List.find?_cons_of_neg (by simpa using hidentifier),
      List.find?_append, List.find?_append, find?_of_nodup h.nodup hm]
    rfl
  rw [lookupImports, accessors_eq h, List.filterMap_map]
  refine congrArg importsOf ?_
  refine (List.filterMap_congr hfind).trans ?_
  exact List.filterMap_some

theorem imports_withTypes (members : List Member) {others names : List String}
    (hsub : others ⊆ e.packages) (hothers : others.map packageName = names)
    (hnodup : ("time" :: names).Nodup) :
    importsOf members ++ others ⊆ e.packages ∧
      ((importsOf members ++ others).map packageName).Nodup ∧
      ∀ name, name ∈ (members.flatMap fun m => m.type.imports) ++ names ↔
        name ∈ (importsOf members ++ others).map packageName := by
  have htime : ∀ i ∈ importsOf members, i = "time" := fun i hi => eq_time_of_mem_importsOf hi
  have hmap : (importsOf members ++ others).map packageName = importsOf members ++ names := by
    rw [List.map_append, hothers, map_packageName_standard fun i hi => by simp [htime i hi]]
  rw [List.nodup_cons] at hnodup
  refine ⟨List.append_subset.2 ⟨fun i hi => ?_, hsub⟩, ?_, fun name => ?_⟩
  · simp [htime i hi, packages]
  · rw [hmap, List.nodup_append]
    refine ⟨nodup_sortedOnce _, hnodup.2, fun i hi j hj he => hnodup.1 ?_⟩
    exact htime i hi ▸ he ▸ hj
  · rw [hmap, List.mem_append, List.mem_append, mem_importsOf]

end Entity

theorem isPackage_generated {package : String}
    (h : package ∈ ["domain", "usecase", "repository", "messages", "constants", "http"]) :
    IsPackageName package ∧ Outlined package [.gap .word] := by
  have hall : ∀ package ∈ ["domain", "usecase", "repository", "messages", "constants", "http"],
      package ≠ "" ∧ package.toList.all isWordChar = true ∧ IsWord package ∧
        package.toList.head?.any Char.isAlpha = true := by decide
  obtain ⟨hne, hchars, hword, hhead⟩ := hall package h
  refine ⟨⟨hne, List.all_eq_true.1 hchars⟩, .word hword ?_⟩
  cases hs : package.toList with
  | nil => simp [hs] at hhead
  | cons c cs => exact ⟨c, cs, rfl, by simpa [hs] using hhead⟩

theorem Reads.tail {ls names : List String} {m : Mode} (h : Reads .start ("" :: ls) names m) :
    Reads .start ls names m := by
  have htext : (textOf ("" :: ls)).toList = '\n' :: (textOf ls).toList := by simp [textOf, concat]
  refine ⟨⟨?_, fun name hname => ?_⟩, fun l hl => h.plain l (List.mem_cons_of_mem _ hl)⟩
  · rw [← h.after, htext]
    rfl
  · rw [← h.names name hname, htext]
    rfl

namespace Piece

section Files

variable {e : Entity} (hpackages : ArePackages e.packages)

include hpackages

/-- The file with one share: a head, what opens the block, the lines of the share and what closes the
block. -/
theorem importsUsed_share {p : Piece} (hmarker : (p.marker e).isSome = true) {package : String}
    (hpackage : package ∈ ["domain", "usecase", "repository", "messages", "constants", "http"])
    {imports opening closing names : List String} (hheader : p.header e = goHeader package imports)
    (hopener : p.opener = textOf opening) (hcloser : p.closer = textOf closing)
    (hopening : Reads .start opening [] .start) (hclosing : Reads .start closing [] .start)
    (hlines : Reads .start (p.lines e) names .start) (hsub : imports ⊆ e.packages)
    (hnodup : (imports.map packageName).Nodup)
    (hnames : ∀ name, name ∈ names ↔ name ∈ imports.map packageName) :
    ImportsUsed e.packages (p.share e).freshFile := by
  obtain ⟨l, ls, hls, -⟩ := exists_lines hmarker
  have htail : Reads .start (p.lines e).tail names .start := by
    rw [hls] at hlines ⊢
    exact hlines.tail
  have hfile : (p.share e).freshFile =
      textOf (headerLines package imports ++ (opening ++ (p.lines e).tail ++ closing)) := by
    have hmergeable : (p.share e).mergeable = true := hmarker
    rw [Artifact.freshFile, if_pos hmergeable, firstContent_share hmarker]
    change p.header e ++ p.opener ++ _ ++ p.closer = _
    rw [hheader, hopener, hcloser, goHeader_eq]
    simp only [textOf_append, String.append_assoc]
  rw [hfile]
  obtain ⟨hname, houtlined⟩ := isPackage_generated hpackage
  exact importsUsed_of_reads hpackages hsub ((hopening.append htail).append hclosing) hname houtlined
    hnodup (by simpa using hnames)

/-- The files that the entity shares with others, while it is the first. -/
theorem importsUsed_catalog (h : e.IsDescribed)
    (hcolumns : ∀ m ∈ e.given, m.column ∉ Descriptor.systemColumns) {p : Piece}
    (hmarker : (p.marker e).isSome = true) : ImportsUsed e.packages (p.share e).freshFile := by
  have hvar : Reads .start ["var ("] [] .start := reads_of_outlines (by decide)
  have hconst : Reads .start ["const ("] [] .start := reads_of_outlines (by decide)
  have hclosing : Reads .start [")"] [] .start := reads_of_outlines (by decide)
  have herrors : packageName "errors" = "errors" := by decide
  have hgorm : packageName databaseImport = "gorm" := by decide
  cases p with
  | errors =>
    exact importsUsed_share hpackages hmarker (by simp) (rfl : _ = goHeader "domain" ["errors"])
      (rfl : _ = textOf ["var ("]) (rfl : _ = textOf [")"]) hvar hclosing (e.reads_errorsLines h)
      (by simp [Entity.packages]) (by decide) (by simp [herrors])
  | errorMessages =>
    exact importsUsed_share hpackages hmarker (by simp) (rfl : _ = goHeader "messages" [])
      (rfl : _ = textOf ["const ("]) (rfl : _ = textOf [")"]) hconst hclosing
      (e.reads_errorMessagesLines h) (by simp) (by simp) (by simp)
  | responseMessages =>
    exact importsUsed_share hpackages hmarker (by simp) (rfl : _ = goHeader "messages" [])
      (rfl : _ = textOf ["const ("]) (rfl : _ = textOf [")"]) hconst hclosing
      (e.reads_responseMessagesLines h) (by simp) (by simp) (by simp)
  | constants =>
    exact importsUsed_share hpackages hmarker (by simp) (rfl : _ = goHeader "constants" [])
      (rfl : _ = textOf ["const ("]) (rfl : _ = textOf [")"]) hconst hclosing
      (e.reads_constantsLines h) (by simp) (by simp) (by simp)
  | dto =>
    have hothers : [e.domainImport].map packageName = ["domain"] := by
      simp [Entity.packageName_domainImport]
    obtain ⟨hsub, hnodup, hnames⟩ := Entity.imports_withTypes (e := e) e.userMembers
      (by simp [Entity.packages]) hothers (by decide)
    exact importsUsed_share hpackages hmarker (by simp)
      (rfl : _ = goHeader "usecase" (Entity.importsOf e.userMembers ++ [e.domainImport]))
      (rfl : _ = textOf []) (rfl : _ = textOf []) (.nil _) (.nil _)
      ((e.reads_dtoLines h).congr (by simp [or_comm])) hsub hnodup hnames
  | repositoryInterface =>
    have hothers : (e.domainImport :: if e.settings.transactions.truthy then [databaseImport] else []).map
        packageName = "domain" :: if e.settings.transactions.truthy then ["gorm"] else [] := by
      split <;> simp [Entity.packageName_domainImport, hgorm]
    obtain ⟨hsub, hnodup, hnames⟩ := Entity.imports_withTypes (e := e) e.searchableMembers
      (by split <;> simp [Entity.packages]) hothers (by split <;> decide)
    have hheader : repositoryInterface.header e = goHeader "repository"
        (Entity.importsOf e.searchableMembers ++
          e.domainImport :: if e.settings.transactions.truthy then [databaseImport] else []) := by
      rw [header, Entity.interfaceImports, Entity.lookupImports_eq h hcolumns, List.append_assoc]
      rfl
    exact importsUsed_share hpackages hmarker (by simp) hheader
      (rfl : _ = textOf []) (rfl : _ = textOf []) (.nil _) (.nil _) (e.reads_interfaceLines h) hsub hnodup
      fun name => List.perm_middle.mem_iff.symm.trans (hnames name)
  | entity | samples | repositoryImplementation | handler => simp [marker] at hmarker

theorem importsUsed_entity (h : e.IsDescribed) (htagged : e.IsTagged) :
    ImportsUsed e.packages (textOf e.entityLines) := by
  obtain ⟨body, hlines, hreads⟩ := Entity.reads_entityLines h htagged
  obtain ⟨hname, hpackage⟩ := isPackage_generated (List.mem_cons_self : "domain" ∈ _)
  have hstandard : ∀ i ∈ e.entityImports, i ∈ ["time", "strings"] := Entity.standard_entityImports
  have hmap : e.entityImports.map packageName = e.entityImports := map_packageName_standard hstandard
  have hsub : e.entityImports ⊆ e.packages := fun i hi =>
    List.mem_append_left ["errors", e.domainImport, e.usecaseImport, databaseImport,
      "github.com/gorilla/mux", "encoding/json", "net/http", "strconv"] (hstandard i hi)
  rw [hlines]
  refine importsUsed_of_reads hpackages hsub hreads hname hpackage ?_ fun name => by rw [hmap]
  rw [hmap]
  exact nodup_sortedOnce _

theorem importsUsed_samples (h : e.IsDescribed) : ImportsUsed e.packages
    (goHeader "domain" (Entity.importsOf e.userMembers) ++ Source.build e.samplesSource) := by
  obtain ⟨hname, hpackage⟩ := isPackage_generated (List.mem_cons_self : "domain" ∈ _)
  obtain ⟨hsub, hnodup, hnames⟩ := Entity.imports_withTypes (e := e) e.userMembers
    (List.nil_subset _) rfl (by decide)
  rw [goHeader_eq, Source.build_eq, ← textOf_append]
  rw [List.append_nil] at hsub hnodup
  exact importsUsed_of_reads hpackages hsub (Entity.reads_samplesSource h) hname hpackage hnodup
    (by simpa using hnames)

theorem importsUsed_implementation (h : e.IsDescribed)
    (hcolumns : ∀ m ∈ e.given, m.column ∉ Descriptor.systemColumns) (hdatabase : e.HasCodeNames) :
    ImportsUsed e.packages
      (goHeader "repository" e.implementationImports ++ Source.build e.repositorySource) := by
  obtain ⟨hname, hpackage⟩ := isPackage_generated (by simp : "repository" ∈ _)
  have hothers : [e.domainImport, databaseImport].map packageName = ["domain", "gorm"] := by
    have hgorm : packageName databaseImport = "gorm" := by decide
    simp [Entity.packageName_domainImport, hgorm]
  obtain ⟨hsub, hnodup, hnames⟩ := Entity.imports_withTypes (e := e) e.searchableMembers
    (by simp [Entity.packages]) hothers (by decide)
  have himports : e.implementationImports =
      Entity.importsOf e.searchableMembers ++ [e.domainImport, databaseImport] := by
    rw [Entity.implementationImports, Entity.lookupImports_eq h hcolumns]
  have hbrought := hdatabase.references
  rw [himports] at hbrought
  rw [goHeader_eq, Source.build_eq, ← textOf_append, himports]
  refine importsUsed_of_reads hpackages hsub
    (Entity.reads_repositorySource h hdatabase.typeName hdatabase.constructorName) hname hpackage hnodup
    fun name => ?_
  rw [List.mem_append, hnames]
  exact or_iff_left_of_imp fun hmem => hbrought hmem

theorem importsUsed_handler (h : e.IsDescribed)
    (hmodule : (Value.ofJson e.settings.moduleName).text = .ok e.settings.moduleName.text) :
    ∃ text, handler.Declares e text ∧ ImportsUsed e.packages text := by
  obtain ⟨ls, hdeclares, hreads⟩ := Entity.exists_handlerLines h hmodule
  obtain ⟨hname, hpackage⟩ := isPackage_generated (by simp : "http" ∈ _)
  have hmap : (Entity.standardImports ++ e.handlerImports).map packageName = handlerReferences := by
    simp only [Entity.standardImports, Entity.handlerImports, List.cons_append, List.nil_append,
      List.map_cons, List.map_nil, Entity.packageName_domainImport, Entity.packageName_usecaseImport]
    decide
  refine ⟨_, hdeclares, importsUsed_of_sectioned hpackages hname hpackage ?_ ?_ hreads fun name => ?_⟩
  · simp [Entity.standardImports, Entity.handlerImports, Entity.packages]
  · rw [hmap]
    decide
  · rw [hmap]

end Files

/-- Of products with a price, the new file of the repository imports other packages than it refers
to. -/
def ImportsDiffer (settings : Settings) : Prop :=
  ∃ (fields : List Field) (e : Entity) (content : String),
    Descriptor.read .builtin (some "price:float64") = .ok fields ∧
      Entity.ofFields "product" fields settings = .ok e ∧ repositoryImplementation.Declares e content ∧
      ¬ ImportsUsed e.packages (repositoryImplementation.artifact e content).freshFile

/-- The entity with a price is built, and has no lookups. -/
def isPriced (settings : Settings) : Bool :=
  (Descriptor.read .builtin (some "price:float64")).toOption.any fun fields =>
    (Entity.ofFields "product" fields settings).toOption.any fun e =>
      e.name == "Product" && e.accessors.isEmpty

theorem importsDiffer_of_forall {settings : Settings} (hpriced : isPriced settings = true)
    (h : ∀ e : Entity, e.IsDescribed → e.settings = settings → e.name = "Product" → e.accessors = [] →
      ¬ ImportsUsed e.packages (textOf (headerLines "repository" [e.domainImport, databaseImport] ++
        Source.allLinesAt 0 e.repositorySource))) : ImportsDiffer settings := by
  obtain ⟨fields, hread, hfields⟩ := exists_of_toOption_any hpriced
  obtain ⟨e, he, hbuilt⟩ := exists_of_toOption_any hfields
  rw [Bool.and_eq_true, beq_iff_eq, List.isEmpty_iff] at hbuilt
  obtain ⟨hname, haccessors⟩ := hbuilt
  have himports : e.implementationImports = [e.domainImport, databaseImport] := by
    simp [Entity.implementationImports, Entity.lookupImports, haccessors, Entity.importsOf, sortedOnce]
  have hdiffer := h e (Entity.isDescribed_of_read hread he) (Entity.ofFields_ok he).2.2.1 hname haccessors
  rw [textOf_append, ← goHeader_eq, ← Source.build_eq, ← himports] at hdiffer
  exact ⟨fields, e, _, hread, he, declares_source rfl, hdiffer⟩

/-- A module name that leaves its literal and comes back. -/
theorem importsDiffer_module {path : String} (hpriced : isPriced { moduleName := .str path } = true)
    (hbroken : '"' ∈ path.toList ∨ '\n' ∈ path.toList)
    (hhead : Scans .start (headerLines "repository" [path ++ "/internal/domain", databaseImport]) []
      .start) : ImportsDiffer { moduleName := .str path } := by
  refine importsDiffer_of_forall hpriced fun e h hsettings _ _ => ?_
  have hdatabase : e.settings.database.text = "postgres" := by
    rw [hsettings]
    rfl
  have hnames : e.HasCodeNames := Entity.hasCodeNames_of_isPlainName h (by rw [hdatabase]; decide)
  have hreads := Entity.reads_repositorySource h hnames.typeName hnames.constructorName
  have hpath : e.domainImport = path ++ "/internal/domain" := by
    rw [Entity.domainImport, hsettings]
    rfl
  rw [← hpath] at hhead
  refine not_importsUsed_of_scans (hhead.append hreads.toScans) e.domainImport
    (by simp [Entity.packages]) (by rw [Entity.packageName_domainImport]; decide) fun hiff => ?_
  rw [Entity.packageName_domainImport] at hiff
  have himport := isImportPath_of_mem_existingImports (hiff.2 (by simp))
  rw [hpath] at himport
  rcases hbroken with hmem | hmem
  · exact himport.no_quote (by simp [hmem])
  · exact himport.no_newline (by simp [hmem])

/-- A database that is called by the name of a package and one of its own. -/
theorem importsDiffer_qualified : ImportsDiffer { database := .str "time.x" } := by
  obtain ⟨hrepository, hpackage⟩ := isPackage_generated (by simp : "repository" ∈ _)
  refine importsDiffer_of_forall (by decide +kernel) fun e h hsettings hname _ => ?_
  have hpackages : ArePackages e.packages := by
    refine Entity.arePackages ?_ ?_ <;> rw [hsettings] <;> decide
  have htype : e.repositoryType = "time.xProductRepository" := by
    rw [Entity.repositoryType, hsettings, hname]
    decide
  have hconstructor : e.repositoryConstructor = "NewTime.xProductRepository" := by
    rw [Entity.repositoryConstructor, hsettings, hname]
    decide
  have hreads := Entity.reads_repositorySource h (htype ▸ ⟨1, _, rfl⟩) (hconstructor ▸ ⟨1, _, rfl⟩)
  have htime : "time" ∈ e.databaseReferences := by
    rw [Entity.databaseReferences, htype]
    exact List.mem_append_left _ (by decide +kernel)
  have hpackageName : packageName "time" = "time" := by decide
  have hdomain : "time" ≠ e.domainImport := fun he => by
    have hname := e.packageName_domainImport
    rw [← he, hpackageName] at hname
    exact absurd hname (by decide)
  refine not_importsUsed_of_reads hpackages (by simp [Entity.packages]) hreads hrepository hpackage
    "time" (by simp [Entity.packages]) fun hiff => ?_
  rw [hpackageName] at hiff
  rcases List.mem_pair.1 (hiff.2 (List.mem_append_right _ htime)) with he | he
  · exact hdomain he
  · exact absurd he (by decide)

/-- A database whose name opens a comment. -/
theorem importsDiffer_comment : ImportsDiffer { database := .str "x/*y" } := by
  obtain ⟨hrepository, hpackage⟩ := isPackage_generated (by simp : "repository" ∈ _)
  refine importsDiffer_of_forall (by decide +kernel) fun e h hsettings _ haccessors => ?_
  have hpackages : ArePackages e.packages := by
    refine Entity.arePackages ?_ ?_ <;> rw [hsettings] <;> decide
  have hmethods : e.repositoryMethods = e.fixedMethods := by
    simp [Entity.repositoryMethods, Entity.fixedMethods, haccessors, hsettings, Json.truthy]
  have hreads := Entity.reads_repositorySource_comment h (by rw [hsettings]; rfl) hmethods
  exact not_importsUsed_of_reads hpackages (by simp [Entity.packages]) hreads hrepository hpackage
    e.domainImport (by simp [Entity.packages]) (by simp)

end Piece

end GoScaffold
