import GoScaffold.Proofs.Layer.Catalog
import GoScaffold.Proofs.Layer.Marker
import GoScaffold.Proofs.SharedFile.Run

/-!
# The catalogs of constants

The messages and the constants of all entities are in three files of constants. No entity can spell
the name by which the share of another is found, so every new entity adds its share.
-/
namespace GoScaffold

open GoScaffold.Text GoScaffold.Naming GoScaffold.Template

namespace Piece

def isConstant : Piece → Bool
  | .errorMessages | .responseMessages | .constants => true
  | _ => false

def constantFile (p : Piece) : SharedFile where
  path :=
    match p with
    | .errorMessages => "internal/messages/errors.go"
    | .responseMessages => "internal/messages/responses.go"
    | _ => "internal/constants/constants.go"
  package := if p = .constants then "constants" else "messages"
  opener := "const (\n"
  closer := ")\n"

def noImports (_ : Artifact) : List String := []

/-- The file with the shares of some entities, or none if there are none. -/
def constantFile? (p : Piece) (parts : List Entity) : Option String :=
  p.constantFile.file? noImports (parts.map p.share)

variable {p : Piece} {e : Entity} {parts : List Entity}

theorem cases_of_isConstant (hp : p.isConstant = true) :
    p = .errorMessages ∨ p = .responseMessages ∨ p = .constants := by
  cases p <;> first | exact absurd hp (by decide) | simp

theorem isCatalog_of_isConstant (hp : p.isConstant = true) : p.isCatalog = true := by
  rcases cases_of_isConstant hp with rfl | rfl | rfl <;> rfl

theorem isDistinct_of_isConstant (hp : p.isConstant = true) : p.isDistinct = true := by
  rcases cases_of_isConstant hp with rfl | rfl | rfl <;> rfl

theorem constantFile_wellFormed (p : Piece) : p.constantFile.WellFormed where
  package := by
    change IsPackageName (if p = .constants then "constants" else "messages")
    split
    · exact ⟨by decide, List.all_eq_true.1 (by decide)⟩
    · exact ⟨by decide, List.all_eq_true.1 (by decide)⟩
  opener := by
    change WholeLines "const (\n".toList
    exact Or.inr ⟨"const (".toList, by decide⟩
  opener_imports := by
    change NoImportLine "const (\n".toList
    unfold NoImportLine
    decide
  closer := Or.inr ⟨")", rfl, isCloserLine_parenthesis⟩

theorem isShare_constant (h : e.IsDescribed) (hp : p.isConstant = true) :
    p.constantFile.IsShare (noImports (p.share e)) (p.share e) where
  path := by rcases cases_of_isConstant hp with rfl | rfl | rfl <;> rfl
  mergeable := isSome_marker_of_isCatalog (isCatalog_of_isConstant hp) e
  header := by rcases cases_of_isConstant hp with rfl | rfl | rfl <;> rfl
  opener := by rcases cases_of_isConstant hp with rfl | rfl | rfl <;> rfl
  closer := by rcases cases_of_isConstant hp with rfl | rfl | rfl <;> rfl
  importPaths := by simp [noImports]
  nodup := List.nodup_nil
  content := (isDeclarative_share h (isCatalog_of_isConstant hp)).content
  content_imports := (isDeclarative_share h (isCatalog_of_isConstant hp)).content_imports

theorem exists_markerText (hp : p.isConstant = true) (e : Entity) :
    ∃ t, (p.share e).markerText = "\t" ++ t := by
  rcases cases_of_isConstant hp with rfl | rfl | rfl
  · exact ⟨"Err" ++ (e.name ++ "NotFound "), String.toList_inj.1 (by
      simp [share, artifact, marker, Artifact.markerText])⟩
  · exact ⟨e.name ++ "CreatedSuccessfully ", String.toList_inj.1 (by
      simp [share, artifact, marker, Artifact.markerText])⟩
  · exact ⟨e.name ++ "TableName ", String.toList_inj.1 (by
      simp [share, artifact, marker, Artifact.markerText])⟩

/-- The marker of an entity is found in its own share only. -/
theorem contains_markerText_iff {e' : Entity} (h : e.IsDescribed) (h' : e'.IsDescribed)
    (hp : p.isConstant = true) :
    contains (p.share e').content (p.share e).markerText = true ↔ e'.name = e.name := by
  obtain ⟨m, hm⟩ := Option.isSome_iff_exists.1 (isSome_marker e (isDistinct_of_isConstant hp))
  have htext : (p.share e).markerText = m := by simp [share, artifact, Artifact.markerText, hm]
  have hcount := occurrences_marker h h' (isDistinct_of_isConstant hp) hm
  rw [htext, contains_iff, ← not_iff_not, ← occurrences_eq_zero_iff (marker_ne_nil hm)]
  change occurrences m.toList (textOf (p.lines e')).toList = 0 ↔ _
  rw [hcount]
  simp

theorem isMarked_constant (h : e.IsDescribed) (hparts : ∀ b ∈ parts, b.IsDescribed)
    (hp : p.isConstant = true) :
    p.constantFile.IsMarked (parts.map p.share) (p.share e) := by
  obtain ⟨m, hm⟩ := Option.isSome_iff_exists.1 (isSome_marker e (isDistinct_of_isConstant hp))
  have htext : (p.share e).markerText = m := by simp [share, artifact, Artifact.markerText, hm]
  obtain ⟨t, ht⟩ := exists_markerText hp e
  refine ⟨fun hempty => ?_, ?_, (contains_markerText_iff h h hp).2 rfl, ?_, ?_, ?_⟩
  · exact marker_ne_nil hm (by rw [← htext, hempty]; rfl)
  · exact htext ▸ newline_not_mem_marker h hm
  · rw [ht, List.forall_mem_map]
    intro b hb
    refine not_contains_of_tab ?_
    have hheader : ∀ package ∈ ["messages", "constants"], '\t' ∉ (goHeader package []).toList := by
      decide
    rw [(isShare_constant (hparts b hb) hp).header]
    rcases cases_of_isConstant hp with rfl | rfl | rfl <;> exact hheader _ (by decide)
  · exact ht ▸ not_contains_of_tab (s := "const (\n") (by decide)
  · exact ht ▸ not_contains_of_tab (s := ")\n") (by decide)

theorem shares_of_isConstant (hparts : ∀ b ∈ parts, b.IsDescribed) (hp : p.isConstant = true) :
    ∀ a ∈ parts.map p.share, p.constantFile.IsShare (noImports a) a :=
  List.forall_mem_map.2 fun b hb => isShare_constant (hparts b hb) hp

/-- A new entity adds its share. -/
theorem textAfter_constantFile (hparts : ∀ b ∈ parts, b.IsDescribed) (h : e.IsDescribed)
    (hp : p.isConstant = true) (hnew : e.name ∉ parts.map Entity.name) :
    textAfter (p.constantFile? parts) (p.share e) = p.constantFile? (parts ++ [e]) := by
  have hshare := isShare_constant h hp
  by_cases hempty : parts = []
  · subst hempty
    have hmerge := SharedFile.merge_none hshare
    simp [textAfter, constantFile?, SharedFile.file?, hmerge]
  · have hne : parts.map p.share ≠ [] := by simpa using hempty
    have hfile : p.constantFile? parts = some (p.constantFile.text noImports (parts.map p.share)) :=
      if_neg hne
    have habsent : ¬ ∃ b ∈ parts.map p.share, contains b.content (p.share e).markerText = true := by
      simp only [List.mem_map, exists_exists_and_eq_and, not_exists, not_and]
      exact fun b hb hfound => hnew
        ((contains_markerText_iff h (hparts b hb) hp).1 hfound ▸ List.mem_map_of_mem hb)
    rw [textAfter, hfile, SharedFile.merge_text p.constantFile_wellFormed
      (shares_of_isConstant hparts hp) hne hshare (isMarked_constant h hparts hp), if_neg habsent]
    simp [constantFile?, SharedFile.file?]

theorem declaredNames_constantFile (hparts : ∀ b ∈ parts, b.IsDescribed) (hp : p.isConstant = true)
    {text : String} (htext : p.constantFile? parts = some text) :
    declaredNames text = parts.flatMap fun b => (p.declarations b).map (·.1) := by
  have hne : parts ≠ [] := by
    rintro rfl
    cases htext
  have himports : SharedFile.allImports noImports (parts.map p.share) = [] := by
    have hnone : (parts.map p.share).flatMap noImports = [] :=
      List.flatMap_eq_nil_iff.2 fun _ _ => rfl
    rw [SharedFile.allImports, hnone]
    rfl
  obtain rfl := Option.some.inj ((if_neg (by simpa using hne)).symm.trans htext)
  rw [SharedFile.text_eq, himports]
  have hopener : p.constantFile.opener = textOf ["const ("] := rfl
  refine declaredNames_textUnder (isCatalog_of_isConstant hp) hparts hne hopener (by decide) rfl ?_
    (by simp) ⟨?_, by decide⟩ (by simp)
  · rcases cases_of_isConstant hp with rfl | rfl | rfl <;> decide
  · rcases cases_of_isConstant hp with rfl | rfl | rfl <;> decide

end Piece

end GoScaffold
