import GoScaffold.Proofs.Layer.Path
import GoScaffold.Proofs.SharedFile.Growth
import GoScaffold.Proofs.Workspace.Merged
import GoScaffold.Proofs.Workspace.Rooted

/-!
# Drafts that stand for files

Drafts over a directory stand for its files: where both are read as the same, merging a piece into
the drafts says what merging it into its file says and leaves the text that is then on disk, and
what the pieces after it read is still the same.
-/
namespace GoScaffold

open GoScaffold.Text GoScaffold.Naming GoScaffold.Template

namespace Piece

variable {e : Entity} {p q : Piece}

theorem path_below (root : Path) (h : '/' ∉ (p.baseName e).toList) :
    (root / p.path e : Path) = Tree.below root (p.folder ++ [p.sourceFile e]) := by
  change root.append (Path.ofString (p.path e)) = _
  rw [ofString_path h]
  rfl

theorem suffix_sourceFile (e : Entity) (p : Piece) : ".go".toList <:+ (p.sourceFile e).toList := by
  rw [sourceFile, String.toList_append]
  exact List.suffix_append _ _

theorem isPlainWay_file (h : (p.sourceFile e).utf8ByteSize ≤ Tree.longestName) :
    Tree.IsPlainWay (p.folder ++ [p.sourceFile e]) := by
  have hdots : p.sourceFile e ≠ ".." := fun he =>
    absurd (he ▸ suffix_sourceFile e p) (by decide)
  refine List.forall_mem_append.2 ⟨fun s hs => ?_, by simpa using ⟨hdots, h⟩⟩
  have hfolder := folder_segments _ p.folder_mem s hs
  exact ⟨hfolder.1, hfolder.2.1⟩

theorem prefix_file_iff {folder : List String} {name : String} (hname : name ∉ q.folder) :
    folder ++ [name] <+: q.folder ++ [q.sourceFile e] ↔
      folder = q.folder ∧ name = q.sourceFile e := by
  rw [List.prefix_concat_iff, List.append_singleton_inj, or_iff_left]
  exact fun hprefix => hname (List.IsPrefix.subset hprefix (by simp))

theorem sourceFile_not_mem_folder (e : Entity) (p q : Piece) : p.sourceFile e ∉ q.folder :=
  fun hmem => (folder_segments _ q.folder_mem _ hmem).2.2.1 (suffix_sourceFile e p)

/-- Writing the file of a piece leaves what is found under the path of another piece. -/
theorem find_other {t moved : Tree} {root : Path} {l : Location} {text : String}
    (hrooted : t.IsRooted) (hroot : t.LeadsTo root l) (hp : '/' ∉ (p.baseName e).toList)
    (hq : '/' ∉ (q.baseName e).toList) (hshort : (q.sourceFile e).utf8ByteSize ≤ Tree.longestName)
    (hne : p.path e ≠ q.path e) (hwrite : t.writeText (root / p.path e) text = (moved, none)) :
    moved.find (root / q.path e) = t.find (root / q.path e) := by
  rw [path_below root hp] at hwrite
  rw [path_below root hq]
  have hdots : ".." ∉ p.folder := fun hmem => (folder_segments _ p.folder_mem _ hmem).1 rfl
  refine Tree.find_below hrooted hroot hdots hwrite (isPlainWay_file hshort) ?_ ?_ ?_
  · rw [prefix_file_iff (sourceFile_not_mem_folder e p q)]
    rintro ⟨hfolder, hfile⟩
    exact hne (by rw [path_eq, path_eq, hfolder, hfile])
  · rw [prefix_file_iff (temporaryName_not_mem_folder t _ q)]
    rintro ⟨-, hfile⟩
    exact Tree.append_ne_temporaryName (by decide) t _ _ hfile.symm
  · exact fun hprefix =>
      sourceFile_not_mem_folder e q p (List.IsPrefix.subset hprefix (by simp))

/-- The name of the piece's file leads into no folder and is short enough for one. -/
structure IsNamed (e : Entity) (p : Piece) : Prop where
  slash : '/' ∉ (p.baseName e).toList
  short : (p.sourceFile e).utf8ByteSize ≤ Tree.longestName

end Piece

/-- The drafts stand for what is on disk: what the pieces still to come read is the same, and every
draft is the text of its file. -/
structure Mirrors (root : Path) (e : Entity) (pieces : List Piece) (onDisk drafted : Workspace) :
    Prop where
  rooted : onDisk.tree.IsRooted
  leads : ∃ l, onDisk.tree.LeadsTo root l
  reads : ∀ p ∈ pieces, (Store.disk root).read onDisk (p.path e) =
    (Store.overlay root).read drafted (p.path e)
  drafts : ∀ path text, OrderedMap.get? path drafted.drafts = some text →
    (∃ p : Piece, p.path e = path ∧ p.IsNamed e) ∧
      ∃ stamp, onDisk.tree.find (root / path) = .ok (.file text.toUTF8 stamp)

def changedPaths (outcomes : List MergeOutcome) : List String :=
  (outcomes.filter (·.changed)).map (·.path)

/-- What a step over drafts says and does is what the step on disk says and does. -/
structure Foretells {α : Type} (root : Path) (e : Entity) (pieces : List Piece)
    (outcomes : α → List MergeOutcome) (drafted : Workspace)
    (dry real : Workspace × Except StoreFault α) : Prop where
  result : dry.2 = real.2
  mirrors : Mirrors root e pieces real.1 dry.1
  tree : dry.1.tree = drafted.tree
  kept : ∀ path, OrderedMap.contains path drafted.drafts = true →
    OrderedMap.contains path dry.1.drafts = true
  changed : ∀ a, real.2 = .ok a → ∀ path ∈ changedPaths (outcomes a),
    OrderedMap.contains path dry.1.drafts = true

namespace Store

/-- The text of a file of one artifact is what the artifact declares. -/
theorem eq_content_of_merge {existing : Option String} {a : Artifact} {text : String}
    (ha : a.mergeable = false) (h : (GoScaffold.merge existing a).1 = some text) :
    text = a.content := by
  have hafter := textAfter_of_not_mergeable ha existing
  rw [textAfter, h] at hafter
  exact Option.some.inj hafter

theorem readDisk_congr {root : Path} {t t' : Tree} {path : String}
    (h : t'.find (root / path) = t.find (root / path)) :
    readDisk root t' path = readDisk root t path := by
  rw [readDisk, readDisk, Tree.readText?_congr h]

end Store

section Step

variable {root : Path} {e : Entity} {p : Piece} {rest : List Piece} {onDisk drafted : Workspace}
  {text written : String} {moved : Tree}

theorem Mirrors.write (h : Mirrors root e (p :: rest) onDisk drafted) (hp : p.IsNamed e)
    (hrest : ∀ q ∈ rest, q.IsNamed e)
    (hreturn : ∀ q ∈ rest, p.path e = q.path e → '\r' ∉ text.toList)
    (hwrite : onDisk.tree.writeText (root / p.path e) text = (moved, none)) :
    Mirrors root e rest { onDisk with tree := moved }
      { drafted with drafts := OrderedMap.insert (p.path e) text drafted.drafts } := by
  obtain ⟨l, hl⟩ := h.leads
  have hfound {q : Piece} (hq : q.IsNamed e) (hne : p.path e ≠ q.path e) :
      moved.find (root / q.path e) = onDisk.tree.find (root / q.path e) :=
    Piece.find_other h.rooted hl hp.slash hq.slash hq.short hne hwrite
  have hbelow := hwrite
  rw [Piece.path_below root hp.slash] at hbelow
  have hdots : ".." ∉ p.folder := fun hmem =>
    (Piece.folder_segments _ p.folder_mem _ hmem).1 rfl
  obtain ⟨hleads, hrooted⟩ := hl.writeText hdots hbelow
  refine ⟨hrooted h.rooted, ⟨l, hleads⟩, fun q hq => ?_, fun path s hs => ?_⟩
  · by_cases hne : p.path e = q.path e
    · -- only an entity's own file is written and then read by another piece
      have hread : moved.readText? (root / q.path e) = .ok (some text) := by
        rw [← hne, Tree.readText_writeText hwrite,
          withNewlines_of_no_return (hreturn q hq hne)]
      simp [Store.read, Store.readDisk, hread, OrderedMap.get?_insert, hne]
    · have hsame := h.reads q (List.mem_cons_of_mem _ hq)
      simp only [Store.read, OrderedMap.get?_insert, if_neg hne] at hsame ⊢
      rw [Store.readDisk_congr (hfound (hrest q hq) hne), hsame]
  · rw [OrderedMap.get?_insert] at hs
    split at hs
    · next hpath =>
      obtain rfl := Option.some.inj hs
      subst hpath
      exact ⟨⟨p, rfl, hp⟩, (Tree.find_writeText hwrite).2⟩
    · next hpath =>
      obtain ⟨⟨q, hq, hnamed⟩, stamp, hfile⟩ := h.drafts path s hs
      refine ⟨⟨q, hq, hnamed⟩, stamp, ?_⟩
      rw [← hq] at hpath hfile ⊢
      rw [hfound hnamed hpath, hfile]

theorem Mirrors.sublist {pieces : List Piece} (h : Mirrors root e pieces onDisk drafted)
    (hrest : ∀ q ∈ rest, q ∈ pieces) : Mirrors root e rest onDisk drafted :=
  ⟨h.rooted, h.leads, fun q hq => h.reads q (hrest q hq), h.drafts⟩

/-- Nothing is done where nothing changes. -/
theorem Mirrors.foretells {α : Type} {outcomes : α → List MergeOutcome} {pieces : List Piece}
    (h : Mirrors root e pieces onDisk drafted) {r : Except StoreFault α}
    (hr : ∀ a, r = .ok a → changedPaths (outcomes a) = []) :
    Foretells root e pieces outcomes drafted (drafted, r) (onDisk, r) where
  result := rfl
  mirrors := h
  tree := rfl
  kept _ := id
  changed a ha path hpath := by simp [hr a ha] at hpath

/-- Writing the text of a merge into drafts foretells writing it into the file. -/
theorem Mirrors.merge_written {existing : Option String} {outcome : MergeOutcome}
    (h : Mirrors root e (p :: rest) onDisk drafted) (hp : p.IsNamed e)
    (hrest : ∀ q ∈ rest, q.IsNamed e)
    (hreturn : ∀ q ∈ rest, p.path e = q.path e → p.marker e = none ∧ '\r' ∉ text.toList)
    (hm : GoScaffold.merge existing (p.artifact e text) = (some written, outcome))
    (hwrite : onDisk.tree.writeText (root / p.path e) written = (moved, none)) :
    Foretells root e rest (fun o => [o]) drafted
      ({ drafted with drafts := OrderedMap.insert (p.path e) written drafted.drafts }, .ok outcome)
      ({ onDisk with tree := moved }, .ok outcome) where
  result := rfl
  mirrors := h.write hp hrest (fun q hq he => by
    obtain ⟨hmarker, hlacks⟩ := hreturn q hq he
    have hwritten : written = text :=
      Store.eq_content_of_merge (by simp [Piece.artifact, hmarker]) (congrArg Prod.fst hm)
    exact hwritten ▸ hlacks) hwrite
  tree := rfl
  kept path hkept := by
    simp only [OrderedMap.contains, OrderedMap.get?_insert] at hkept ⊢
    split
    · rfl
    · exact hkept
  changed o ho path hpath := by
    obtain rfl := Except.ok.inj ho
    have hchanged := Store.changed_merge existing (p.artifact e text)
    rw [hm] at hchanged
    have hplace : outcome.path = p.path e :=
      (congrArg (·.2.path) hm).symm.trans (path_merge existing _)
    obtain rfl : path = outcome.path := by
      simpa [changedPaths, show outcome.changed = true from hchanged] using hpath
    simp [OrderedMap.contains, OrderedMap.get?_insert, hplace]

/-- Merging a piece into drafts foretells merging it into its file, if that can be written. -/
theorem Mirrors.merge (h : Mirrors root e (p :: rest) onDisk drafted) (hp : p.IsNamed e)
    (hrest : ∀ q ∈ rest, q.IsNamed e)
    (hreturn : ∀ q ∈ rest, p.path e = q.path e → p.marker e = none ∧ '\r' ∉ text.toList)
    (hwrite : ∀ f, ((Store.disk root).merge onDisk (p.artifact e text)).2 ≠ .error (.unwritable f)) :
    Foretells root e rest (fun o => [o]) drafted ((Store.overlay root).merge drafted (p.artifact e text))
      ((Store.disk root).merge onDisk (p.artifact e text)) := by
  have hlater : Mirrors root e rest onDisk drafted :=
    h.sublist fun q hq => List.mem_cons_of_mem _ hq
  have hread : (Store.disk root).read onDisk (p.artifact e text).path =
    (Store.overlay root).read drafted (p.artifact e text).path := h.reads p (List.mem_cons_self ..)
  cases hr : (Store.disk root).read onDisk (p.artifact e text).path with
  | error f =>
    rw [Store.merge_of_unreadable hr, Store.merge_of_unreadable (hread ▸ hr)]
    exact hlater.foretells (by simp)
  | ok existing =>
    cases hm : GoScaffold.merge existing (p.artifact e text) with
    | mk next outcome =>
      cases next with
      | none =>
        have hchanged := Store.changed_merge existing (p.artifact e text)
        rw [hm] at hchanged
        rw [Store.merge_of_same hr hm, Store.merge_of_same (hread ▸ hr) hm]
        refine hlater.foretells fun o ho => ?_
        obtain rfl := Except.ok.inj ho
        simp [changedPaths, show outcome.changed = false from hchanged]
      | some written =>
        rw [Store.merge_of_next hr hm] at hwrite ⊢
        rw [Store.merge_of_next (hread ▸ hr) hm]
        cases hw : onDisk.tree.writeText (root / p.path e) written with
        | mk moved fault =>
          have hdisk : (Store.disk root).write onDisk (p.artifact e text).path written =
              ({ onDisk with tree := moved }, fault.map .unwritable) := by
            rw [Store.write, show (p.artifact e text).path = p.path e from rfl, hw]
          rw [hdisk] at hwrite ⊢
          cases fault with
          | some f => exact absurd rfl (hwrite f)
          | none => exact h.merge_written hp hrest hreturn hm hw

end Step

end GoScaffold
