import GoScaffold.Proofs.GoSource.Declared
import GoScaffold.Proofs.GoSource.Reference
import GoScaffold.Proofs.Layer.Built
import GoScaffold.Proofs.SharedFile.Growth

/-!
# Shares of entities

The share of an entity in a file with others, and the lines of a file of shares.
-/
namespace GoScaffold

open GoScaffold.Text GoScaffold.Naming GoScaffold.Template

/-- What consists of lines of which none is an import is a declaration. -/
theorem isDeclarative_textOf {a : Artifact} {ls : List String} (hcontent : a.content = textOf ls)
    (hne : ls ≠ []) (hls : ∀ l ∈ ls, '\n' ∉ l.toList ∧ ¬ importWord <+: l.toList) :
    a.IsDeclarative where
  content := by
    have hw : WholeLines a.content.toList := by
      rw [hcontent, Entity.toList_textOf]
      exact wholeLines_flatten (List.forall_mem_map.2 fun l _ => wholeLines_newline l.toList)
    refine List.isSuffixOf_iff_suffix.2 (hw.resolve_left ?_)
    obtain ⟨l, ls, rfl⟩ := List.exists_cons_of_ne_nil hne
    simp [hcontent, Entity.toList_textOf]
  content_imports := hcontent ▸ noImportLine_textOf hls

namespace Piece

def share (p : Piece) (e : Entity) : Artifact := p.artifact e (textOf (p.lines e))

section Shares

variable {p : Piece} {e : Entity} {parts : List Entity}

theorem exists_lines (h : (p.marker e).isSome = true) :
    ∃ l ls, p.lines e = "" :: l :: ls ∧ ∃ c cs, l.toList = c :: cs ∧ c ≠ '\n' := by
  cases p with
  | errors | errorMessages | responseMessages | constants =>
    exact ⟨_, _, rfl, '\t', _, by simp; rfl, by decide⟩
  | dto | repositoryInterface => exact ⟨_, _, rfl, 't', _, by simp [Entity.typeLine]; rfl, by decide⟩
  | entity | samples | repositoryImplementation | handler => simp [marker] at h

theorem firstContent_share (h : (p.marker e).isSome = true) :
    (p.share e).firstContent = textOf (p.lines e).tail := by
  obtain ⟨l, ls, hlines, c, cs, hl, hc⟩ := exists_lines h
  have hcontent : (p.share e).content = textOf ("" :: l :: ls) := congrArg textOf hlines
  rw [Artifact.firstContent, hcontent, hlines, List.tail_cons, ← String.toList_inj,
    String.toList_ofList]
  simp [Entity.toList_textOf, hl, hc]

/-- The shares of some entities are their lines, without the first blank one. -/
theorem declarations_shares (h : ∀ b ∈ parts, (p.marker b).isSome = true) :
    SharedFile.declarations (parts.map p.share) = textOf (parts.flatMap p.lines).tail := by
  cases parts with
  | nil => rfl
  | cons b parts =>
    obtain ⟨l, ls, hlines, -⟩ := exists_lines (h b (by simp))
    have hrest : concat (((parts.map p.share).map (·.content))) = textOf (parts.flatMap p.lines) := by
      clear h hlines
      induction parts with
      | nil => rfl
      | cons b parts ih =>
        rw [List.map_cons, List.map_cons, concat, ih, List.flatMap_cons, textOf_append]
        rfl
    rw [List.map_cons, SharedFile.declarations, firstContent_share (h b (by simp)), hrest,
      List.flatMap_cons, List.tail_append_of_ne_nil (by simp [hlines]), textOf_append]

theorem textUnder_shares (h : ∀ b ∈ parts, (p.marker b).isSome = true) {f : SharedFile}
    {opening closing : List String} (hopener : f.opener = textOf opening)
    (hcloser : f.closer = textOf closing) (head : List String) :
    f.textUnder head (parts.map p.share) = textOf
      (headerLines f.package head ++ opening ++ (parts.flatMap p.lines).tail ++ closing) := by
  rw [SharedFile.textUnder, goHeader_eq, hopener, hcloser, declarations_shares h]
  simp only [textOf_append]

/-- The same lines, those of one share by themselves. -/
theorem textUnder_append {above below : List Entity}
    (h : ∀ b ∈ above ++ e :: below, (p.marker b).isSome = true) {f : SharedFile}
    {opening closing : List String} (hopener : f.opener = textOf opening)
    (hcloser : f.closer = textOf closing) (head : List String) :
    f.textUnder head ((above ++ e :: below).map p.share) = textOf
      (headerLines f.package head ++ opening ++ (above.flatMap p.lines ++ [""]).tail ++
        ((p.lines e).tail ++ (below.flatMap p.lines ++ closing))) := by
  obtain ⟨l, ls, hlines, -⟩ := exists_lines (h e (by simp))
  have htail : ((above ++ e :: below).flatMap p.lines).tail =
      (above.flatMap p.lines ++ [""]).tail ++ ((p.lines e).tail ++ below.flatMap p.lines) := by
    rw [← List.tail_append_of_ne_nil (by simp), List.flatMap_append, List.flatMap_cons, hlines]
    simp
  rw [textUnder_shares h hopener hcloser, htail]
  simp only [List.append_assoc]

end Shares

end Piece

end GoScaffold
