import GoScaffold.Proofs.Layer.ConstantCatalog
import GoScaffold.Proofs.SharedFile.Kept
import GoScaffold.Proofs.Template.History

/-!
# Blocks of constants that are merged into again

The closer comes right behind what a template says. If there is more than blanks on the last line of
that, the closer is no line of its own, and the next share finds a file of unexpected shape.
-/
namespace GoScaffold

open GoScaffold.Text GoScaffold.Template

/-- There are only blanks behind the last newline. -/
def EndsBlank (text : String) : Prop :=
  ∀ c ∈ (cutAtLastNewline text.toList).2, isBlank c = true

instance (text : String) : Decidable (EndsBlank text) :=
  List.decidableBAll (fun c => isBlank c = true) (cutAtLastNewline text.toList).2

section Behind

variable {above : String} (h : WholeLines above.toList)

include h

theorem endsBlank_behind (text : String) : EndsBlank (above ++ text) ↔ EndsBlank text := by
  rw [EndsBlank, EndsBlank, String.toList_append, cutAtLastNewline_behind h]

theorem wholeLines_behind (text : String) :
    WholeLines (above ++ text).toList ↔ WholeLines text.toList := by
  rw [String.toList_append]
  exact ⟨WholeLines.of_append, h.append⟩

end Behind

/-- Without its closer a text is what stood in front of it only if that consists of whole lines. -/
theorem withoutCloser_eq_some_iff {text line : String} (hline : IsCloserLine line.toList) :
    withoutCloser? (text ++ (line ++ "\n")) (line ++ "\n") = some text ↔ WholeLines text.toList := by
  refine ⟨fun h => ?_, fun h => withoutCloser_append h hline⟩
  obtain ⟨rest, hrest, hclosing⟩ := isClosing_of_withoutCloser h
  exact hclosing.kept_whole

theorem hasPackageClause_append {above : String} (h : WholeLines above.toList)
    (hclause : hasPackageClause above = true) (text : String) :
    hasPackageClause (above ++ text) = true := by
  rw [hasPackageClause] at hclause ⊢
  rw [String.toList_append, lines_append h, List.any_append, hclause, Bool.true_or]

/-- The package clause of a file stands above the line that closes it. -/
theorem IsClosing.hasPackageClause {closer kept rest : String} (h : IsClosing closer kept rest)
    (hcloser : 'p' ∉ closer.toList) (hclause : hasPackageClause (kept ++ rest) = true) :
    GoScaffold.hasPackageClause kept = true := by
  rw [GoScaffold.hasPackageClause] at hclause ⊢
  rw [String.toList_append, lines_append h.kept_whole, List.any_append, Bool.or_eq_true] at hclause
  refine hclause.resolve_right fun hrest => ?_
  rcases h.mem_rest (letter_mem_of_startsPackage hrest) with hblank | hmem
  · exact absurd hblank (by decide)
  · exact hcloser hmem

/-- A share of a block of constants under a package clause. -/
structure Artifact.IsConstants (a : Artifact) : Prop where
  mergeable : a.mergeable = true
  header : ∃ package, IsPackageName package ∧ a.header = goHeader package
  opener_eq : a.opener = "const (\n"
  closer_eq : a.closer = ")\n"

namespace Artifact.IsConstants

variable {a : Artifact} (h : a.IsConstants)

include h

theorem closer_not_blank : isBlankText a.closer = false := by
  rw [h.closer_eq]
  decide

/-- What a merge puts into a file ends with what the share declares and the closer. Above that stand
whole lines with a package clause, which a store gives back as they are. -/
theorem exists_merge_eq {s : Store} {existing : Option String}
    (hkeeps : ∀ content ∈ existing, s.Keeps content)
    (haction : (merge existing a).2.action = .created ∨ (merge existing a).2.action = .appended) :
    ∃ above part, (merge existing a).1 = some (above ++ part ++ a.closer) ∧
      WholeLines above.toList ∧ hasPackageClause above = true ∧ s.Keeps above ∧
      (part = a.content ∨ part = a.firstContent) := by
  obtain ⟨package, hpackage, hheader⟩ := h.header
  have hwhole : WholeLines (goHeader package).toList := wholeLines_goHeader hpackage (by simp)
  cases existing with
  | none =>
    have habove : WholeLines (a.header ++ a.opener).toList := by
      rw [hheader, h.opener_eq, String.toList_append]
      exact hwhole.append (Or.inr (by decide))
    have hno : '\r' ∉ (a.header ++ a.opener).toList := by
      have hname : '\r' ∉ package.toList := fun hc => absurd (hpackage.word _ hc) (by decide)
      simp [hheader, h.opener_eq, goHeader, hname]
    refine ⟨a.header ++ a.opener, a.firstContent, ?_, habove, ?_, s.keeps_of_no_return hno, Or.inr rfl⟩
    · rw [merge, Artifact.freshFile, if_pos h.mergeable]
    · rw [hheader]
      exact hasPackageClause_goHeader hpackage (by simp) _
  | some content =>
    obtain ⟨-, habsent, hfits⟩ := action_eq_appended_iff.1 (haction.resolve_left action_ne_created)
    obtain ⟨hclause, prior, rest, rfl, hclosing, -⟩ :=
      (fits_iff (ne_empty_of_not_blank h.closer_not_blank)).1 hfits
    have hprior : hasPackageClause prior = true :=
      hclosing.hasPackageClause (by rw [h.closer_eq]; decide) hclause
    have hne : prior ≠ "" := fun he => by
      rw [he] at hprior
      cases hprior
    have himports : ensureImports prior (headerImports a) = (prior, []) := by
      refine ensureImports_of_imported fun i hi => ?_
      have hnone : existingImports (goHeader package [] ++ "") = [] :=
        existingImports_goHeader hpackage (by simp) (by simp [NoImportLine, lines])
      rw [String.append_empty] at hnone
      rw [headerImports, hheader, hnone] at hi
      cases hi
    refine ⟨prior, a.content, ?_, hclosing.kept_whole, hprior, ?_, Or.inl rfl⟩
    · rw [merge_of_fits h.mergeable habsent hfits, kept_of_isClosing hclosing h.closer_not_blank,
        SharedFile.endWithNewline_of_wholeLines hclosing.kept_whole hne, himports]
    · exact (hkeeps _ rfl).mono fun hmem => by simp [hmem]

/-- In front of the closer, a file fits a share if the text that comes behind whole lines ends with
blanks. -/
theorem fits_iff_endsBlank {above : String} (habove : WholeLines above.toList)
    (hclause : hasPackageClause above = true) (text : String) :
    fits (above ++ text ++ a.closer) a = true ↔ EndsBlank text := by
  have hlast : cutAtLastNewline (above ++ text).toList =
      (above.toList ++ (cutAtLastNewline text.toList).1, (cutAtLastNewline text.toList).2) := by
    rw [String.toList_append, cutAtLastNewline_behind habove]
  have hcut := withoutCloser_behind hlast isCloserLine_parenthesis
  have hfull : hasPackageClause (above ++ text ++ a.closer) = true := by
    rw [String.append_assoc]
    exact hasPackageClause_append habove hclause _
  have hcloser : a.closer = ")" ++ "\n" := h.closer_eq
  rw [hcloser] at hfull ⊢
  simp only [fits, hfull, hcloser, hcut, Bool.true_and]
  unfold EndsBlank
  split
  · next hall => simpa using hall
  · next hsome => simpa using hsome

end Artifact.IsConstants

/-- The newlines in front of a share stand in front of the rest of it as it is read. -/
theorem reading_firstContent (s : Store) (a : Artifact) :
    ∃ lead : String, WholeLines lead.toList ∧ s.reading a.content = lead ++ s.reading a.firstContent := by
  have hlead := SharedFile.leading_newlines a
  set lead := a.content.toList.takeWhile (· == '\n') with hdef
  have hcontent : a.content = .ofList lead ++ a.firstContent := by
    rw [← String.toList_inj, String.toList_append, String.toList_ofList]
    exact SharedFile.toList_content a
  have hkeeps : s.Keeps (.ofList lead) := s.keeps_of_no_return fun hmem => by
    rw [String.toList_ofList] at hmem
    exact absurd (hlead _ hmem) (by decide)
  refine ⟨.ofList lead, ?_, ?_⟩
  · rw [String.toList_ofList]
    exact SharedFile.wholeLines_replicate hlead
  · rw [hcontent, Store.reading_append hkeeps]

namespace Piece

variable {e : Entity} {p : Piece} {a : Artifact}

theorem isConstants_of_build (hp : p ∈ Layer.messages.pieces e) {press press' : Press} {t : Tree}
    (h : p.build press t e = (press', .ok a)) : a.IsConstants := by
  have hartifact : ∃ text, a = p.artifact e text := by
    rw [build] at h
    split at h
    · next text _ => exact ⟨text, (Except.ok.inj (Prod.mk.inj h).2).symm⟩
    · next name scope _ =>
      cases hrender : (press.render t name scope).2 with
      | error f => simp [hrender, Except.map] at h
      | ok text =>
        simp only [hrender, Except.map, Prod.mk.injEq, Except.ok.injEq] at h
        exact ⟨text, h.2.symm⟩
  obtain ⟨text, rfl⟩ := hartifact
  have hpackage := (constantFile_wellFormed p).package
  simp only [Layer.pieces, List.mem_cons, List.not_mem_nil, or_false] at hp
  rcases hp with rfl | rfl | rfl <;> exact ⟨rfl, ⟨_, hpackage, rfl⟩, rfl, rfl⟩

/-- A file of constants that a share has been put into takes the next one into its block just where
the last line of what the share declares, as it is read, has nothing but blanks. It is what stood in
front of the closer, and the closer, just where the share declares whole lines. -/
theorem merge_reopens_iff (hp : p ∈ Layer.messages.pieces e) {press press' : Press} {t : Tree}
    (hbuild : p.build press t e = (press', .ok a)) {s : Store} {w w' : Workspace} {o : MergeOutcome}
    (hmerge : s.merge w a = (w', .ok o)) (haction : o.action = .created ∨ o.action = .appended) :
    ∃ body, s.read w' a.path = .ok (some (body ++ a.closer)) ∧
      (fits (body ++ a.closer) a = true ↔ EndsBlank (s.reading a.content)) ∧
      (withoutCloser? (body ++ a.closer) a.closer = some body ↔
        WholeLines (s.reading a.content).toList) ∧
      ∀ (e' : Entity) (press press' : Press) (t : Tree) (b : Artifact),
        p.build press t e' = (press', .ok b) → isPresent (body ++ a.closer) b = false →
        (merge (some (body ++ a.closer)) b).2.action =
          if EndsBlank (s.reading a.content) then .appended else .fallback := by
  have ha := isConstants_of_build hp hbuild
  obtain ⟨existing, hread, rfl, hwrite⟩ := Store.merge_ok hmerge
  obtain ⟨above, part, hnext, hwhole, hclause, hkeeps, hpart⟩ := ha.exists_merge_eq
    (fun content hc => Store.keeps_of_read (by rw [hread, Option.mem_def.1 hc])) haction
  have hwritten : s.write w a.path (above ++ part ++ a.closer) = (w', none) := by
    rcases hwrite with ⟨hnone, -⟩ | ⟨text, htext, hwritten⟩
    · rw [hnext] at hnone
      cases hnone
    · rw [hnext] at htext
      exact Option.some.inj htext ▸ hwritten
  have hreading : s.reading (above ++ part ++ a.closer) = above ++ s.reading part ++ a.closer := by
    rw [ha.closer_eq, show ")\n" = ")" ++ "\n" from rfl, s.reading_line (by decide) (by decide),
      Store.reading_append hkeeps]
  -- what the share declares and what a new file has of it end alike
  obtain ⟨lead, hlead, hpart⟩ : ∃ lead : String, WholeLines lead.toList ∧
      s.reading a.content = lead ++ s.reading part := by
    rcases hpart with rfl | rfl
    · exact ⟨"", wholeLines_nil, String.empty_append.symm⟩
    · exact reading_firstContent s a
  have hends : EndsBlank (s.reading a.content) ↔ EndsBlank (s.reading part) := by
    rw [hpart, endsBlank_behind hlead]
  have hfits {b : Artifact} (hb : b.IsConstants) :
      fits (above ++ s.reading part ++ a.closer) b = true ↔ EndsBlank (s.reading a.content) := by
    rw [ha.closer_eq, ← hb.closer_eq, hends]
    exact hb.fits_iff_endsBlank hwhole hclause _
  refine ⟨above ++ s.reading part, ?_, hfits ha, ?_, fun e' press₂ press₂' t₂ b hb habsent => ?_⟩
  · rw [Store.read_reading_of_write hwritten, hreading]
  · rw [ha.closer_eq, show ")\n" = ")" ++ "\n" from rfl, withoutCloser_eq_some_iff isCloserLine_parenthesis,
      wholeLines_behind hwhole, hpart, wholeLines_behind hlead]
  · have hmember : p ∈ Layer.messages.pieces e' := hp
    have hconstants := isConstants_of_build hmember hb
    rw [action_of_absent hconstants.mergeable habsent]
    simp only [hfits hconstants]

def unendedPath : Path := { segments := ["tpl", "messages", "errors.go.tmpl"] }

def unendedTemplate : String := "\tErr" ++ shown "entity" ++ "NotFound = 1"

def unendedTree : Tree where
  entries := [(["tpl"], .directory), (["tpl", "messages"], .directory),
    (unendedPath.segments, .file unendedTemplate.toUTF8 1)]
  clock := 1

theorem renderNow_unended (e : Entity) :
    (Press.create (some "tpl")).shelf.renderNow unendedTree "messages/errors" e.scope =
      .ok ("\tErr" ++ e.name ++ "NotFound = 1") := by
  have hdirectory : (Press.create (some "tpl")).shelf.directory = some { segments := ["tpl"] } := by
    decide +kernel
  have hpresent : unendedTree.isDirectory { segments := ["tpl"] } = .ok true := by
    have hfind : unendedTree.find { segments := ["tpl"] } = .ok .directory := rfl
    simp [Tree.isDirectory, Tree.probe, Press.hasZero_templates, hfind, Except.map]
  have hlocate : unendedTree.locate { segments := ["tpl"] } = .ok ["tpl"] := rfl
  have hfiles : unendedTree.filesBelow ["tpl"] = [["messages", "errors.go.tmpl"]] :=
    List.mergeSort_singleton _
  have hname : logicalName? (join "/" ["messages", "errors.go.tmpl"]) = some "messages/errors" := by
    decide +kernel
  have hsite : (Press.create (some "tpl")).shelf.site? unendedTree "messages/errors" =
      .ok (some (.file unendedPath)) := by
    simp [Shelf.site?, hdirectory, hpresent, Except.map, Shelf.firstFile?, hlocate, hfiles, hname,
      unendedPath]
  have htext : (Site.file unendedPath).textIn unendedTree = .ok unendedTemplate := by
    have hbytes : unendedTree.readBytes unendedPath = .ok unendedTemplate.toUTF8 := rfl
    simp only [Site.textIn, Tree.readText, hbytes]
    rw [show decodeUtf8 unendedTemplate.toUTF8 = .ok unendedTemplate from
      Tree.decodeUtf8_toByteArray unendedTemplate]
    exact congrArg Except.ok (by decide +kernel)
  have hnodes : compile (some "messages/errors") unendedTemplate =
      .ok (.ofList [.text "\tErr", printed "entity", .text "NotFound = 1"]) :=
    eq_ok_of_toOption (by decide +kernel)
  rw [Shelf.renderNow, hsite]
  simp only [Site.render, htext, hnodes, Entity.textFor_eq e.scope_self, Nodes.ofList, render_text,
    Entity.render_printed, render_nil, Entity.scope_entity, bind_ok, map_ok, text_str, behind]
  rw [String.append_empty, ← String.append_assoc]
  rfl

theorem build_unended (e : Entity) :
    ∃ press, errorMessages.build (Press.create (some "tpl")) unendedTree e =
      (press, .ok (errorMessages.artifact e ("\tErr" ++ e.name ++ "NotFound = 1"))) := by
  have hcurrent : (Press.create (some "tpl")).current? unendedTree "messages/errors" = none := rfl
  have hrender := Press.render_of_current_none hcurrent e.scope
  rw [renderNow_unended] at hrender
  refine ⟨_, Prod.ext rfl ?_⟩
  change ((Press.create (some "tpl")).render unendedTree "messages/errors" e.scope).2.map
    (errorMessages.artifact e) = _
  rw [hrender]
  rfl

/-- The second entity finds the block of the first one closed on a line with a constant. -/
theorem merge_reopens_iff_unended :
    let product : Entity := { name := "Product", given := [] }
    let order : Entity := { name := "Order", given := [] }
    let a := errorMessages.artifact product "\tErrProductNotFound = 1"
    let b := errorMessages.artifact order "\tErrOrderNotFound = 1"
    (Store.memory.merge {} a).2 = .ok { path := a.path, action := .created } ∧
      ∃ next, Store.memory.read (Store.memory.merge {} a).1 a.path = .ok (some next) ∧
        fits next a = false ∧ (merge (some next) b).2.action = .fallback := by
  intro product order a b
  obtain ⟨press, hbuild⟩ := build_unended product
  obtain ⟨press', hbuild'⟩ := build_unended order
  have hpiece : errorMessages ∈ Layer.messages.pieces product := by simp [Layer.pieces]
  have hmerge : Store.memory.merge {} a = ((Store.memory.merge {} a).1,
      .ok { path := a.path, action := .created }) := rfl
  obtain ⟨body, hread, hfits, -, hnext⟩ :=
    merge_reopens_iff (a := a) hpiece hbuild hmerge (Or.inl rfl)
  have hends : ¬ EndsBlank (Store.memory.reading a.content) := by decide
  have hfile : body ++ a.closer = a.freshFile := by
    have hfresh : Store.memory.read (Store.memory.merge {} a).1 a.path = .ok (some a.freshFile) := rfl
    exact Option.some.inj (Except.ok.inj (hread.symm.trans hfresh))
  have habsent : isPresent (body ++ a.closer) b = false := by
    rw [hfile]
    decide +kernel
  refine ⟨rfl, _, hread, Bool.eq_false_iff.2 fun h => hends (hfits.1 h), ?_⟩
  rw [hnext order _ press' unendedTree b hbuild' habsent, if_neg hends]

end Piece

end GoScaffold
