import GoScaffold.Proofs.Workspace.Merged

/-!
# Runs of merges into one file

However often and in whatever order the shares of a family are merged into a file that was not
there, the file holds each of them once, in the order in which they first came. On disk a file is
read with every line end as a newline, so that returns which a later merge reads are lost.
-/
namespace GoScaffold

open GoScaffold.Text

/-- Merges artifacts one after another, and what came of each. -/
def Store.mergeAll (s : Store) (w : Workspace) :
    List Artifact → Workspace × List (Except StoreFault MergeOutcome)
  | [] => (w, [])
  | a :: run =>
    let (w, outcome) := s.merge w a
    let (w, outcomes) := s.mergeAll w run
    (w, outcome :: outcomes)

namespace SharedFile

/-- Shares of one file that their markers tell apart. -/
structure IsFamily (f : SharedFile) (imports : Artifact → List String) (family : List Artifact) :
    Prop where
  share : ∀ a ∈ family, f.IsShare (imports a) a
  marked : ∀ a ∈ family, f.IsMarked family a
  apart : ∀ a ∈ family, ∀ b ∈ family, a ≠ b → contains b.content a.markerText = false

/-- The text of the file, or none while no share has come. -/
def file? (f : SharedFile) (imports : Artifact → List String) (parts : List Artifact) :
    Option String :=
  if parts = [] then none else some (f.text imports parts)

/-- The shares that are there after one more merge. -/
def withShare (parts : List Artifact) (a : Artifact) : List Artifact :=
  if a ∈ parts then parts else parts ++ [a]

section Step

variable {f : SharedFile} {imports : Artifact → List String} {family parts : List Artifact}

theorem IsMarked.mono {a : Artifact} (h : f.IsMarked family a) (hp : ∀ b ∈ parts, b ∈ family) :
    f.IsMarked parts a :=
  { h with header := fun b hb => h.header b (hp b hb) }

/-- A share of the family is taken as present if it is there. -/
theorem IsFamily.marker_iff (h : f.IsFamily imports family) (hp : ∀ b ∈ parts, b ∈ family)
    {a : Artifact} (ha : a ∈ family) :
    (∃ b ∈ parts, contains b.content a.markerText = true) ↔ a ∈ parts := by
  refine ⟨fun ⟨b, hb, hc⟩ => ?_, fun hmem => ⟨a, hmem, (h.marked a ha).inside⟩⟩
  by_cases hab : a = b
  · exact hab ▸ hb
  · rw [h.apart a ha b (hp b hb) hab] at hc
    cases hc

theorem merge_file (hf : f.WellFormed) (h : f.IsFamily imports family)
    (hp : ∀ b ∈ parts, b ∈ family) {a : Artifact} (ha : a ∈ family) :
    (merge (f.file? imports parts) a).1.or (f.file? imports parts) =
      f.file? imports (withShare parts a) := by
  by_cases hne : parts = []
  · subst hne
    simp [file?, withShare, merge_none (h.share a ha)]
  · have hfile : f.file? imports parts = some (f.text imports parts) := if_neg hne
    rw [hfile, merge_text hf (fun b hb => h.share b (hp b hb)) hne (h.share a ha)
      ((h.marked a ha).mono hp)]
    by_cases hmem : a ∈ parts
    · rw [if_pos ((h.marker_iff hp ha).2 hmem)]
      simp [withShare, hmem, hfile]
    · rw [if_neg fun hm => hmem ((h.marker_iff hp ha).1 hm)]
      simp [withShare, hmem, file?]

theorem withShare_subset (hp : ∀ b ∈ parts, b ∈ family) {a : Artifact} (ha : a ∈ family) :
    ∀ b ∈ withShare parts a, b ∈ family := fun b hb => by
  unfold withShare at hb
  split at hb
  · exact hp b hb
  · rcases List.mem_append.1 hb with hb | hb
    · exact hp b hb
    · exact List.mem_singleton.1 hb ▸ ha

theorem foldl_withShare (run : List Artifact) : run.foldl withShare [] = run.eraseDups := by
  induction run using List.reverseRecOn with
  | nil => rfl
  | append_singleton run a ih =>
    rw [List.foldl_append, ih, eraseDups_concat, List.foldl_cons, List.foldl_nil, withShare]
    simp only [List.mem_eraseDups]

theorem mem_declarations_append {c : Char} (h : c ∈ (declarations parts).toList) (a : Artifact) :
    c ∈ (declarations (parts ++ [a])).toList := by
  rw [declarations_append (by rintro rfl; simp [declarations] at h), String.toList_append]
  exact List.mem_append_left _ h

theorem mem_goHeader_append {c : Char} {package : String} {is : List String}
    (h : c ∈ (goHeader package is).toList) (more : List String) :
    c ∈ (goHeader package (is ++ more)).toList := by
  simp only [toList_goHeader, List.mem_flatten] at h ⊢
  obtain ⟨l, hl, hc⟩ := h
  refine ⟨l, ?_, hc⟩
  by_cases his : is = []
  · have hfront : l ∈ [packageLine package, ['\n']] := by simpa [headLines, his] using hl
    rcases List.mem_cons.1 hfront with rfl | hl
    · simp [headLines]
    · rw [List.mem_singleton.1 hl]
      simp [headLines]
  · simp only [headLines, his, List.append_eq_nil_iff, false_and, if_false, List.map_append] at hl ⊢
    simp only [List.mem_cons, List.mem_append] at hl ⊢
    tauto

theorem mem_text_withShare {c : Char} {a : Artifact} (ha : (imports a).Nodup)
    (h : c ∈ (f.text imports parts).toList) :
    c ∈ (f.text imports (withShare parts a)).toList := by
  unfold withShare
  split
  · exact h
  · simp only [text, String.toList_append, List.mem_append] at h ⊢
    rcases h with ((h | h) | h) | h
    · rw [allImports_append ha]
      exact .inl (.inl (.inl (mem_goHeader_append h _)))
    · exact .inl (.inl (.inr h))
    · exact .inl (.inr (mem_declarations_append h a))
    · exact .inr h

end Step

section Run

variable {f : SharedFile} {imports : Artifact → List String} {family : List Artifact}

/-- Nothing in the file as the shares leave it would be read as something else. -/
def IsReadBack (f : SharedFile) (imports : Artifact → List String) (s : Store)
    (parts : List Artifact) : Prop :=
  ∀ text ∈ f.file? imports parts, s.Keeps text

theorem IsReadBack.of_withShare {s : Store} {parts : List Artifact} {a : Artifact}
    (ha : (imports a).Nodup) (h : f.IsReadBack imports s (withShare parts a)) :
    f.IsReadBack imports s parts := by
  intro text htext
  by_cases hne : parts = []
  · simp [file?, hne] at htext
  · obtain rfl : f.text imports parts = text := by simpa [file?, hne] using htext
    have hmore : withShare parts a ≠ [] := by
      unfold withShare
      split <;> simp [hne]
    exact (h _ (if_neg hmore)).mono (mem_text_withShare ha)

theorem IsReadBack.of_foldl {s : Store} {run parts : List Artifact}
    (hrun : ∀ a ∈ run, (imports a).Nodup) (h : f.IsReadBack imports s (run.foldl withShare parts)) :
    f.IsReadBack imports s parts := by
  induction run generalizing parts with
  | nil => exact h
  | cons a run ih =>
    exact (ih (fun b hb => hrun b (by simp [hb])) h).of_withShare (hrun a (by simp))

/-- What one more merge leaves in a file of shares that is read as it stands. -/
theorem hasExactText_merge (hf : f.WellFormed) (h : f.IsFamily imports family) {s : Store}
    {w w' : Workspace} {parts : List Artifact} (hp : ∀ b ∈ parts, b ∈ family) {a : Artifact}
    (ha : a ∈ family) (hread : s.read w f.path = .ok (f.file? imports parts))
    (hexact : s.HasExactText w f.path (f.file? imports parts)) {o : MergeOutcome}
    (hm : s.merge w a = (w', .ok o)) :
    s.HasExactText w' f.path (f.file? imports (withShare parts a)) := by
  have hpath : a.path = f.path := (h.share a ha).path
  rw [← merge_file hf h hp ha, ← hpath]
  exact Store.HasExactText.merge (hpath ▸ hexact) (hpath ▸ hread) hm

/-- A merge of a share goes through wherever a write does. -/
theorem exists_merge_outcome {s : Store} {w : Workspace} {a : Artifact} {run : List Artifact}
    {existing : Option String} (hread : s.read w a.path = .ok existing)
    (hdone : s.IsDisk → ∀ o ∈ (s.mergeAll w (a :: run)).2, ∃ done, o = .ok done) :
    ∃ done, (s.merge w a).2 = .ok done := by
  by_cases hs : s.IsDisk
  · exact hdone hs _ (by simp [Store.mergeAll])
  · exact ⟨_, Store.merge_of_not_isDisk hs hread⟩

/-- The shares that a run of merges leaves in a file of shares, and that the run goes through. -/
theorem hasExactText_mergeAll_from (hf : f.WellFormed) (h : f.IsFamily imports family) {s : Store}
    {run : List Artifact} (hrun : ∀ a ∈ run, a ∈ family) {w : Workspace} {parts : List Artifact}
    (hp : ∀ b ∈ parts, b ∈ family) (hread : s.read w f.path = .ok (f.file? imports parts))
    (hexact : s.HasExactText w f.path (f.file? imports parts))
    (hdone : s.IsDisk → ∀ o ∈ (s.mergeAll w run).2, ∃ done, o = .ok done)
    (hback : run ≠ [] → f.IsReadBack imports s (run.dropLast.foldl withShare parts)) :
    s.HasExactText (s.mergeAll w run).1 f.path (f.file? imports (run.foldl withShare parts)) ∧
      ∀ o ∈ (s.mergeAll w run).2, ∃ done, o = .ok done := by
  induction run generalizing w parts with
  | nil => exact ⟨hexact, by simp [Store.mergeAll]⟩
  | cons a run ih =>
    have ha := hrun a (by simp)
    have hpath : a.path = f.path := (h.share a ha).path
    obtain ⟨done, hdone₁⟩ := exists_merge_outcome (hpath ▸ hread) hdone
    have hm : s.merge w a = ((s.merge w a).1, .ok done) := Prod.ext rfl hdone₁
    have hexact₁ := hasExactText_merge hf h hp ha hread hexact hm
    suffices hrest : s.HasExactText (s.mergeAll (s.merge w a).1 run).1 f.path
        (f.file? imports (run.foldl withShare (withShare parts a))) ∧
          ∀ o ∈ (s.mergeAll (s.merge w a).1 run).2, ∃ done, o = .ok done by
      refine ⟨hrest.1, fun o ho => ?_⟩
      rcases List.mem_cons.1 ho with rfl | ho
      · exact ⟨done, hdone₁⟩
      · exact hrest.2 o ho
    -- behind the last merge the file need not be read any more
    by_cases hlast : run = []
    · subst hlast
      exact ⟨hexact₁, by simp [Store.mergeAll]⟩
    · have hdrop : (a :: run).dropLast = a :: run.dropLast := List.dropLast_cons_of_ne_nil hlast
      have hback₁ := hback (by simp)
      rw [hdrop, List.foldl_cons] at hback₁
      have hkeep : ∀ text ∈ (merge (f.file? imports parts) a).1, s.Keeps text := by
        intro text htext
        have hnodup : ∀ b ∈ run.dropLast, (imports b).Nodup := fun b hb =>
          (h.share b (hrun b (by simp [List.mem_of_mem_dropLast hb]))).nodup
        refine hback₁.of_foldl hnodup text ?_
        rw [← merge_file hf h hp ha, Option.mem_def.1 htext]
        rfl
      have hread₁ := (Store.read_merge (hpath ▸ hread) hm hkeep).1
      rw [hpath, merge_file hf h hp ha] at hread₁
      exact ih (fun b hb => hrun b (by simp [hb])) (withShare_subset hp ha) hread₁ hexact₁
        (fun hs o ho => hdone hs o (by simp [Store.mergeAll, ho])) fun _ => hback₁

/-- Merging the shares of a family in any order, any number of times, into a file that was not
there: the head with all their imports, the opener, each share once in the order in which they first
came, the closer, all to the character. On disk this is so as long as every write goes through and no
merge but the first reads a carriage return. -/
theorem hasExactText_mergeAll (hf : f.WellFormed) (h : f.IsFamily imports family) (s : Store)
    (w : Workspace) (hnone : s.read w f.path = .ok none) {run : List Artifact}
    (hrun : ∀ a ∈ run, a ∈ family)
    (hdone : s.IsDisk → ∀ o ∈ (s.mergeAll w run).2, ∃ done, o = .ok done)
    (hback : s.IsDisk → run.dropLast ≠ [] →
      '\r' ∉ (f.text imports run.dropLast.eraseDups).toList) :
    s.HasExactText (s.mergeAll w run).1 f.path (f.file? imports run.eraseDups) ∧
      ∀ o ∈ (s.mergeAll w run).2, ∃ done, o = .ok done := by
  have hkeeps : f.IsReadBack imports s (run.dropLast.foldl withShare []) := by
    rw [foldl_withShare]
    intro text htext
    unfold file? at htext
    split at htext
    · cases htext
    · next hne =>
      cases htext
      cases s with
      | memory => trivial
      | overlay root => trivial
      | disk root => exact hback trivial fun hnil => hne (by rw [hnil]; rfl)
  have hempty : ∀ b ∈ ([] : List Artifact), b ∈ family := by simp
  have hrun := hasExactText_mergeAll_from hf h hrun hempty (by simpa [file?] using hnone)
    (by simpa [file?, Store.HasExactText] using hnone) hdone fun _ => hkeeps
  rwa [foldl_withShare] at hrun

end Run

/-- A file of constants, of which some need an import. -/
def constantsFile : SharedFile :=
  { path := "limits.go", package := "limits", opener := "const (\n", closer := ")\n" }

def constantShare (name : String) (imports : List String) : Artifact :=
  { path := "limits.go", content := "\n\t" ++ name ++ " = 10\n", mergeable := true,
    marker := some ("\t" ++ name ++ " "), header := goHeader "limits" imports,
    opener := "const (\n", closer := ")\n" }

def constantImports (a : Artifact) : List String :=
  if a.markerText = "\tOrder " then ["time", "math"] else ["math"]

theorem constantsFile_wellFormed : constantsFile.WellFormed where
  package := ⟨by decide, List.all_eq_true.1 (by decide)⟩
  opener := Or.inr ⟨"const (".toList, by decide⟩
  opener_imports := by unfold NoImportLine; decide
  closer := Or.inr ⟨")", rfl, isCloserLine_parenthesis⟩

theorem constantsFile_family : constantsFile.IsFamily constantImports
    [constantShare "Order" ["time", "math"], constantShare "OrderItem" ["math"]] where
  share := by
    simp only [List.forall_mem_cons, List.not_mem_nil, false_implies, implies_true, and_true]
    refine ⟨⟨rfl, rfl, by decide, rfl, rfl, ?_, by decide, by decide, ?_⟩,
      ⟨rfl, rfl, by decide, rfl, rfl, ?_, by decide, by decide, ?_⟩⟩
    · intro i hi
      exact ⟨by revert i; decide, by revert i; decide, by revert i; decide⟩
    · unfold NoImportLine; decide
    · intro i hi
      exact ⟨by revert i; decide, by revert i; decide, by revert i; decide⟩
    · unfold NoImportLine; decide
  marked := by
    simp only [List.forall_mem_cons, List.not_mem_nil, false_implies, implies_true, and_true]
    exact ⟨⟨by decide, by decide, by decide, by decide, by decide, by decide⟩,
      ⟨by decide, by decide, by decide, by decide, by decide, by decide⟩⟩
  apart := by decide

theorem hasExactText_mergeAll_constants :
    Store.memory.HasExactText (Store.memory.mergeAll {}
        [constantShare "OrderItem" ["math"], constantShare "Order" ["time", "math"],
          constantShare "OrderItem" ["math"]]).1 "limits.go"
      (some ("package limits\n\nimport (\n\t\"math\"\n\t\"time\"\n)\n\nconst (\n" ++
        "\tOrderItem = 10\n\n\tOrder = 10\n)\n")) := by
  have hrun : ∀ a ∈ [constantShare "OrderItem" ["math"], constantShare "Order" ["time", "math"],
      constantShare "OrderItem" ["math"]],
      a ∈ [constantShare "Order" ["time", "math"], constantShare "OrderItem" ["math"]] := by decide
  have h := (hasExactText_mergeAll constantsFile_wellFormed constantsFile_family .memory {} rfl hrun
    False.elim False.elim).1
  exact h.trans (congrArg some (by decide))

/-- A constant on a line that ends with a return and a newline. -/
def returnShare (name : String) : Artifact :=
  { path := "limits.go", content := "\t" ++ name ++ " = 1\r\n", mergeable := true,
    marker := some name, header := goHeader "limits" [], opener := "const (\n", closer := ")\n" }

def limitsTree (content : String) (writes : Nat) : Tree :=
  { entries := [(["limits.go"], .file content.toUTF8 writes)], clock := writes }

theorem writeText_limits {t written moved : Tree} {content : String}
    (hmade : t.makeDirectories "" [] = (t, none))
    (hbytes : t.writeBytes { segments := [t.temporaryName "limits.go"] } content.toUTF8 = .ok written)
    (hmove : written.moveFile { segments := [t.temporaryName "limits.go"] } { segments := ["limits.go"] } =
      .ok moved) : t.writeText (Path.here / "limits.go") content = (moved, none) := by
  have hpath : (Path.here / "limits.go" : Path) = { segments := ["limits.go"] } := by decide +kernel
  have htemporary : t.temporary { segments := ["limits.go"] } =
      { segments := [t.temporaryName "limits.go"] } := by rfl
  have hzero : Path.hasZero { segments := ["limits.go"] } = false := by
    rw [Tree.hasZero_eq]
    decide +kernel
  rw [hpath]
  exact Tree.writeText_of_steps (by decide) rfl hzero hmade (by rwa [htemporary])
    (by rwa [htemporary])

theorem readText?_limitsTree (content : String) (writes : Nat) :
    (limitsTree content writes).readText? (Path.here / "limits.go") =
      .ok (some (withNewlines content)) := by
  have hpath : (Path.here / "limits.go" : Path) = { segments := ["limits.go"] } := by decide +kernel
  have hzero : Path.hasZero { segments := ["limits.go"] } = false := by
    rw [Tree.hasZero_eq]
    decide +kernel
  rw [hpath]
  exact Tree.readText?_of_file hzero rfl (Tree.decodeUtf8_toByteArray content)

theorem returns_family : constantsFile.IsFamily (fun _ => [])
    [returnShare "Small", returnShare "Large"] where
  share := by
    simp only [List.forall_mem_cons, List.not_mem_nil, false_implies, implies_true, and_true]
    refine ⟨⟨rfl, rfl, rfl, rfl, rfl, by simp, by decide, by decide, ?_⟩,
      ⟨rfl, rfl, rfl, rfl, rfl, by simp, by decide, by decide, ?_⟩⟩ <;>
    · unfold NoImportLine; decide
  marked := by
    simp only [List.forall_mem_cons, List.not_mem_nil, false_implies, implies_true, and_true]
    exact ⟨⟨by decide, by decide, by decide, by decide, by decide, by decide⟩,
      ⟨by decide, by decide, by decide, by decide, by decide, by decide⟩⟩
  apart := by decide

theorem merge_returnShare_small : (Store.disk .here).merge {} (returnShare "Small") =
    ({ tree := limitsTree "package limits\n\nconst (\n\tSmall = 1\r\n)\n" 1 },
      .ok { path := "limits.go", action := .created }) := by
  have hpath : (Path.here / "limits.go" : Path) = { segments := ["limits.go"] } := by decide +kernel
  have hread : (Tree.readText? {} (Path.here / "limits.go")) = .ok none := by
    rw [hpath]
    exact Tree.readText?_of_absent rfl
  exact Store.merge_new_disk (w := {}) hread (writeText_limits rfl rfl rfl)

/-- What stands there is read with its return as a newline, and so written back. -/
theorem merge_returnShare_large : (Store.disk .here).merge
    { tree := limitsTree "package limits\n\nconst (\n\tSmall = 1\r\n)\n" 1 } (returnShare "Large") =
      ({ tree := limitsTree "package limits\n\nconst (\n\tSmall = 1\n\tLarge = 1\r\n)\n" 2 },
        .ok { path := "limits.go", action := .appended }) := by
  have hmerge : GoScaffold.merge
      (some (withNewlines "package limits\n\nconst (\n\tSmall = 1\r\n)\n")) (returnShare "Large") =
        (some "package limits\n\nconst (\n\tSmall = 1\n\tLarge = 1\r\n)\n",
          { path := "limits.go", action := .appended }) := by
    decide +kernel
  exact Store.merge_disk (a := returnShare "Large") (readText?_limitsTree _ 1) hmerge
    (writeText_limits rfl rfl rfl)

/-- The return of the first share is lost when the second share comes. -/
theorem not_hasExactText_mergeAll_returns :
    let run := [returnShare "Small", returnShare "Large"]
    constantsFile.WellFormed ∧ constantsFile.IsFamily (fun _ => []) run ∧
      (Store.disk .here).read {} "limits.go" = .ok none ∧
      (∀ o ∈ ((Store.disk .here).mergeAll {} run).2, ∃ done, o = .ok done) ∧
      (Store.disk .here).HasExactText ((Store.disk .here).mergeAll {} run).1 "limits.go"
        (some "package limits\n\nconst (\n\tSmall = 1\n\tLarge = 1\r\n)\n") ∧
      constantsFile.file? (fun _ => []) run.eraseDups =
        some "package limits\n\nconst (\n\tSmall = 1\r\n\tLarge = 1\r\n)\n" := by
  intro run
  have hrun : (Store.disk .here).mergeAll {} run =
      ({ tree := limitsTree "package limits\n\nconst (\n\tSmall = 1\n\tLarge = 1\r\n)\n" 2 },
        [.ok { path := "limits.go", action := .created },
          .ok { path := "limits.go", action := .appended }]) := by
    simp only [run, Store.mergeAll, merge_returnShare_small, merge_returnShare_large]
  have hpath : (Path.here / "limits.go" : Path) = { segments := ["limits.go"] } := by decide +kernel
  have hnone : (Store.disk .here).read {} "limits.go" = .ok none := by
    have hread : (Tree.readText? {} (Path.here / "limits.go")) = .ok none := by
      rw [hpath]
      exact Tree.readText?_of_absent rfl
    simp only [Store.read, Store.readDisk, hread]
  rw [hrun]
  exact ⟨constantsFile_wellFormed, returns_family, hnone, by simp, ⟨2, hpath ▸ rfl⟩, by decide⟩

end SharedFile

end GoScaffold
