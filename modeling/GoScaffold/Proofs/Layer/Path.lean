import GoScaffold.Layer.Piece
import GoScaffold.Proofs.Entity.Described
import GoScaffold.Proofs.Text.Occurrence
import GoScaffold.Proofs.Text.Pieces
import GoScaffold.Proofs.Workspace.Neighbour

/-!
# Where pieces go

Every piece has a folder and the name of a file in it. Pieces of one entity go to different files,
unless the entity's own file is named like the file of domain errors.
-/
namespace GoScaffold.Piece

open GoScaffold.Text GoScaffold.Naming

def folder : Piece → List String
  | .entity | .errors | .samples => ["internal", "domain"]
  | .dto => ["internal", "usecase"]
  | .repositoryInterface | .repositoryImplementation => ["internal", "repository"]
  | .handler => ["internal", "handler", "http"]
  | .errorMessages | .responseMessages => ["internal", "messages"]
  | .constants => ["internal", "constants"]

def baseName (e : Entity) : Piece → String
  | .entity => e.fileBase
  | .errors => "errors"
  | .samples => e.fileBase ++ "_seeds"
  | .dto => "dto"
  | .repositoryInterface => "interfaces"
  | .repositoryImplementation => e.settings.database.text ++ "_" ++ e.fileBase ++ "_repository"
  | .handler => e.fileBase ++ "_handler"
  | .errorMessages => "errors"
  | .responseMessages => "responses"
  | .constants => "constants"

def sourceFile (e : Entity) (p : Piece) : String := p.baseName e ++ ".go"

/-- The folders, each with the slash behind it. -/
def slashed (folders : List String) : String := concat (folders.map (· ++ "/"))

theorem slashed_domain : slashed ["internal", "domain"] = "internal/domain/" := by decide

theorem slashed_repository : slashed ["internal", "repository"] = "internal/repository/" := by
  decide

theorem slashed_handler : slashed ["internal", "handler", "http"] = "internal/handler/http/" := by
  decide

theorem path_eq (e : Entity) (p : Piece) : p.path e = slashed p.folder ++ p.sourceFile e := by
  have hended (folders base ending : String) :
      folders ++ base ++ (ending ++ ".go") = folders ++ (base ++ ending ++ ".go") := by
    simp only [String.append_assoc]
  cases p with
  | entity => exact slashed_domain ▸ String.append_assoc
  | samples => exact slashed_domain ▸ hended _ e.fileBase "_seeds"
  | handler => exact slashed_handler ▸ hended _ e.fileBase "_handler"
  | repositoryImplementation =>
    refine slashed_repository ▸ Eq.trans ?_
      (hended _ (e.settings.database.text ++ "_" ++ e.fileBase) "_repository")
    change _ ++ _ ++ _ ++ _ ++ _ = _
    simp only [String.append_assoc]
    rfl
  | errors | dto | repositoryInterface | errorMessages | responseMessages | constants => rfl

def folders : List (List String) := [
  ["internal", "domain"], ["internal", "usecase"], ["internal", "repository"],
  ["internal", "handler", "http"], ["internal", "messages"], ["internal", "constants"]]

theorem folder_mem (p : Piece) : p.folder ∈ folders := by cases p <;> decide

/-- Segments of folders are short names that end with a small letter, and none of them ends like a
source file. -/
theorem folder_segments : ∀ f ∈ folders, ∀ s ∈ f, s ≠ ".." ∧ s.utf8ByteSize ≤ Tree.longestName ∧
    ¬ ".go".toList <:+ s.toList ∧ s.toList.getLast?.any Char.isLower = true := by decide

theorem temporaryName_not_mem_folder (t : Tree) (name : String) (p : Piece) :
    t.temporaryName name ∉ p.folder := by
  intro hmem
  have hlower := (folder_segments _ p.folder_mem _ hmem).2.2.2
  exact Tree.append_ne_temporaryName hlower t "" name String.empty_append

/-- The path of a piece tells its folder and its name, whatever the entity. -/
theorem path_inj {e e' : Entity} {p q : Piece} (h : p.path e = q.path e') :
    p.folder = q.folder ∧ p.baseName e = q.baseName e' := by
  have hapart : ∀ f ∈ folders, ∀ g ∈ folders,
      (slashed f).toList <+: (slashed g).toList → f = g := by decide
  rw [path_eq, path_eq] at h
  have hchars : (slashed p.folder).toList ++ (p.sourceFile e).toList =
      (slashed q.folder).toList ++ (q.sourceFile e').toList := by
    simpa using congrArg String.toList h
  have hfolder : p.folder = q.folder := by
    rcases List.prefix_or_prefix_of_prefix (List.prefix_append _ _)
      (hchars ▸ List.prefix_append _ _) with hp | hp
    · exact (hapart _ q.folder_mem _ p.folder_mem hp).symm
    · exact hapart _ p.folder_mem _ q.folder_mem hp
  rw [hfolder] at hchars
  exact ⟨hfolder, ending_inj.1 (String.toList_inj.1 (List.append_cancel_left hchars))⟩

/-- Different pieces of two entities that go to one file are an entity and the domain errors, or an
entity and the samples of the other. -/
theorem cases_of_path_eq {e e' : Entity} {p q : Piece} (hne : p ≠ q) (h : p.path e = q.path e') :
    p = .entity ∧ q = .errors ∧ e.fileBase = "errors" ∨
      p = .errors ∧ q = .entity ∧ e'.fileBase = "errors" ∨
      p = .entity ∧ q = .samples ∧ e.fileBase = e'.fileBase ++ "_seeds" ∨
      p = .samples ∧ q = .entity ∧ e'.fileBase = e.fileBase ++ "_seeds" := by
  obtain ⟨hfolder, hbase⟩ := path_inj h
  have hseeds (s : String) : s ++ "_seeds" ≠ "" ++ "errors" :=
    ne_of_endings (by decide) (by decide) _ _
  have hrepository (s : String) : s ++ "_repository" ≠ "" ++ "interfaces" :=
    ne_of_endings (by decide) (by decide) _ _
  cases p <;> cases q <;> first
    | exact absurd rfl hne
    | exact absurd hfolder (by decide)
    | skip
  case entity.errors => exact Or.inl ⟨rfl, rfl, hbase⟩
  case errors.entity => exact Or.inr (Or.inl ⟨rfl, rfl, hbase.symm⟩)
  case entity.samples => exact Or.inr (Or.inr (Or.inl ⟨rfl, rfl, hbase⟩))
  case samples.entity => exact Or.inr (Or.inr (Or.inr ⟨rfl, rfl, hbase.symm⟩))
  case errors.samples => exact absurd hbase.symm (hseeds _)
  case samples.errors => exact absurd hbase (hseeds _)
  case repositoryInterface.repositoryImplementation => exact absurd hbase.symm (hrepository _)
  case repositoryImplementation.repositoryInterface => exact absurd hbase (hrepository _)
  case errorMessages.responseMessages => simp [baseName] at hbase
  case responseMessages.errorMessages => simp [baseName] at hbase

/-- Two pieces of one entity that go to one file are the entity and the errors. -/
theorem fileBase_of_path_eq {e : Entity} {p q : Piece} (hne : p ≠ q) (h : p.path e = q.path e) :
    e.fileBase = "errors" ∧ (p = .entity ∧ q = .errors ∨ p = .errors ∧ q = .entity) := by
  have hlonger (s : String) : s ≠ s ++ "_seeds" := fun he => by
    simpa using congrArg String.length he
  obtain ⟨hp, hq, hbase⟩ | ⟨hp, hq, hbase⟩ | ⟨-, -, hbase⟩ | ⟨-, -, hbase⟩ := cases_of_path_eq hne h
  · exact ⟨hbase, Or.inl ⟨hp, hq⟩⟩
  · exact ⟨hbase, Or.inr ⟨hp, hq⟩⟩
  · exact absurd hbase (hlonger _)
  · exact absurd hbase (hlonger _)

/-- One piece of two entities goes to one file if that is shared, or they are spelled alike. -/
theorem fileBase_of_same_piece {e e' : Entity} {p : Piece} (hsettings : e.settings = e'.settings) (h : p.path e = p.path e') :
    (p.marker e).isSome = true ∨ e.fileBase = e'.fileBase := by
  obtain ⟨-, hbase⟩ := path_inj h
  cases p with
  | errors | dto | repositoryInterface | errorMessages | responseMessages | constants => exact Or.inl rfl
  | entity => exact Or.inr hbase
  | samples | handler => exact Or.inr (ending_inj.1 hbase)
  | repositoryImplementation =>
    simp only [baseName, hsettings] at hbase
    exact Or.inr (affixes_inj.1 hbase)

theorem path_injective {e : Entity} (h : e.fileBase ≠ "errors") {p q : Piece}
    (hpath : p.path e = q.path e) : p = q := by
  by_contra hne
  exact h (fileBase_of_path_eq hne hpath).1

/-- The entity apart, pieces go to different files whatever their names are. -/
theorem path_injective_of_ne {e : Entity} {p q : Piece} (hp : p ≠ .entity) (hq : q ≠ .entity)
    (hpath : p.path e = q.path e) : p = q := by
  by_contra hne
  obtain ⟨-, ⟨he, -⟩ | ⟨-, he⟩⟩ := fileBase_of_path_eq hne hpath
  · exact hp he
  · exact hq he

theorem nodup_paths {e : Entity} (h : e.fileBase ≠ "errors") :
    ((Layer.all.flatMap (Layer.pieces e)).map (path e)).Nodup := by
  refine List.Nodup.map (fun p q hpath => path_injective h hpath) ?_
  simp only [Layer.all, Layer.pieces, List.flatMap_cons, List.flatMap_nil]
  split <;> decide

theorem isSegment_source (name : String) : Path.isSegment (name ++ ".go") = true := by
  have hdot : name ++ ".go" ≠ "" ++ "." := ne_of_endings (by decide) (by decide) _ _
  rw [String.empty_append] at hdot
  simp [Path.isSegment, hdot]

theorem splitAt_slashed {folders : List String} (h : ∀ f ∈ folders, '/' ∉ f.toList) {name : String}
    (hname : '/' ∉ name.toList) : splitAt '/' (slashed folders ++ name) = folders ++ [name] := by
  induction folders with
  | nil => simp [splitAt, slashed, concat, piecesAt_of_not_mem hname]
  | cons f folders ih =>
    have hf : '/' ∉ f.toList := h f (by simp)
    have ih := ih fun g hg => h g (by simp [hg])
    have hchars : (slashed (f :: folders) ++ name).toList =
        f.toList ++ '/' :: (slashed folders ++ name).toList := by
      simp [slashed, concat]
    rw [splitAt] at ih ⊢
    rw [hchars, piecesAt_append hf, List.map_cons, ih, String.ofList_toList, List.cons_append]

theorem ofString_path {e : Entity} {p : Piece} (h : '/' ∉ (p.baseName e).toList) :
    Path.ofString (p.path e) = { segments := p.folder ++ [p.sourceFile e] } := by
  have hfolders : ∀ f ∈ folders, (∀ s ∈ f, '/' ∉ s.toList) ∧ f.filter Path.isSegment = f ∧
      (slashed f).toList.head? = some 'i' := by decide
  obtain ⟨hslash, hkept, hstart⟩ := hfolders _ p.folder_mem
  have hname : '/' ∉ (p.sourceFile e).toList := by simp [sourceFile, h]
  have hsegments : (p.folder ++ [p.sourceFile e]).filter Path.isSegment =
      p.folder ++ [p.sourceFile e] := by
    rw [List.filter_append, hkept, sourceFile, List.filter_singleton, isSegment_source]
    rfl
  have habsolute : Path.anchorOf (slashed p.folder ++ p.sourceFile e).toList = "" := by
    obtain ⟨rest, hrest⟩ := List.head?_eq_some_iff.1 hstart
    rw [String.toList_append, hrest]
    rfl
  rw [path_eq, Path.ofString, splitAt_slashed hslash hname, hsegments, habsolute]

/-- Below any root the file of a piece is named like a source file. -/
theorem exists_name_path (root : Path) (e : Entity) (p : Piece) :
    ∃ stem, (root / p.path e : Path).name = stem ++ ".go" := by
  have hending : '/' ∉ ".go".toList := by decide
  obtain ⟨before, last, hsplit⟩ := exists_splitAt_append hending (slashed p.folder ++ p.baseName e)
  refine ⟨last, ?_⟩
  have hsegments : (Path.ofString (p.path e)).segments =
      before.filter Path.isSegment ++ [last ++ ".go"] := by
    rw [path_eq, sourceFile, ← String.append_assoc]
    simp only [Path.ofString, hsplit, List.filter_append, List.filter_singleton, isSegment_source]
    rfl
  change (root.append (Path.ofString (p.path e))).name = _
  rw [Path.append]
  split <;> simp [Path.name, hsegments, ← List.append_assoc]

end GoScaffold.Piece
