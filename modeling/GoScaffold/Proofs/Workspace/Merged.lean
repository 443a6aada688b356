import GoScaffold.Proofs.SharedFile.Growth
import GoScaffold.Proofs.Workspace.Neighbour

/-!
# What a merge leaves in a store

A merge that goes through leaves in its own file the text that it comes to, in every kind of store,
and the files beside it as they were.
-/
namespace GoScaffold

theorem exists_textAfter (existing : Option String) (a : Artifact) :
    ∃ text, textAfter existing a = some text := by
  cases existing with
  | none => exact ⟨a.freshFile, rfl⟩
  | some content =>
    rw [textAfter]
    cases (merge (some content) a).1 with
    | none => exact ⟨content, rfl⟩
    | some text => exact ⟨text, rfl⟩

theorem path_merge (existing : Option String) (a : Artifact) :
    (merge existing a).2.path = a.path := by
  cases existing with
  | none => rfl
  | some content =>
    rw [merge]
    split_ifs <;> rfl

namespace Store

section One

variable {s : Store} {w : Workspace} {a : Artifact} {root : Path}

theorem changed_merge (existing : Option String) (a : Artifact) :
    (GoScaffold.merge existing a).2.changed = (GoScaffold.merge existing a).1.isSome := by
  cases existing with
  | none => rfl
  | some content =>
    rw [GoScaffold.merge]
    split_ifs <;> rfl

theorem merge_of_unreadable {f : StoreFault}
    (hr : s.read w a.path = .error f) : s.merge w a = (w, .error f) := by
  rw [merge, hr]

theorem merge_of_same {existing : Option String}
    {outcome : MergeOutcome} (hr : s.read w a.path = .ok existing)
    (hm : GoScaffold.merge existing a = (none, outcome)) : s.merge w a = (w, .ok outcome) := by
  simp only [merge, hr, hm]

theorem merge_of_next {existing : Option String}
    {text : String} {outcome : MergeOutcome} (hr : s.read w a.path = .ok existing)
    (hm : GoScaffold.merge existing a = (some text, outcome)) :
    s.merge w a = ((s.write w a.path text).1,
      match (s.write w a.path text).2 with
      | none => .ok outcome
      | some f => .error f) := by
  simp only [merge, hr, hm]
  cases s.write w a.path text with
  | mk w fault => cases fault <;> rfl

theorem merge_disk {existing : Option String} {next : String} {outcome : MergeOutcome}
    {moved : Tree} {fault : Option WriteFault} (hr : w.tree.readText? (root / a.path) = .ok existing)
    (hm : GoScaffold.merge existing a = (some next, outcome))
    (hw : w.tree.writeText (root / a.path) next = (moved, fault)) :
    (disk root).merge w a = ({ w with tree := moved },
      match fault with
      | none => .ok outcome
      | some f => .error (.unwritable f)) := by
  have hread : (disk root).read w a.path = .ok existing := by
    simp only [read, readDisk, hr]
  rw [merge_of_next hread hm]
  cases fault <;> simp only [write, hw, Option.map_none, Option.map_some]

theorem merge_new_disk {moved : Tree} (hr : w.tree.readText? (root / a.path) = .ok none)
    (hw : w.tree.writeText (root / a.path) a.freshFile = (moved, none)) :
    (disk root).merge w a =
      ({ w with tree := moved }, .ok { path := a.path, action := .created }) :=
  merge_disk hr rfl hw

theorem merge_new_overlay (root : Path) (hd : OrderedMap.get? a.path w.drafts = none)
    (hr : w.tree.readText? (root / a.path) = .ok none) :
    (overlay root).merge w a =
      ({ w with drafts := OrderedMap.insert a.path a.freshFile w.drafts },
        .ok { path := a.path, action := .created }) := by
  have hread : (overlay root).read w a.path = .ok none := by
    simp only [read, hd, readDisk, hr]
  rw [merge_of_next hread rfl]
  rfl

end One

/-- A text stands at the path, or no text at all. On disk the place of no text is free, whether or
not its directories are there. -/
def HasText (s : Store) (w : Workspace) (path : String) : Option String → Prop
  | some text => s.read w path = .ok (some text)
  | none =>
    match s with
    | .disk root => ∃ l, w.tree.LeadsTo (root / path) l ∧ w.tree.entry? l = none
    | _ => s.read w path = .ok none

/-- Two paths of different files in one directory. -/
structure AreBeside (path other : String) : Prop where
  ne : path ≠ other
  beside : ∀ root : Path, (root / path).IsBeside (root / other)

/-- A text stands at the path to the character, or no text at all. -/
def HasExactText (s : Store) (w : Workspace) (path : String) : Option String → Prop
  | some text =>
    match s with
    | .disk root => ∃ stamp, w.tree.find (root / path) = .ok (.file text.toUTF8 stamp)
    | _ => OrderedMap.get? path w.drafts = some text
  | none => s.read w path = .ok none

section Merge

variable {s : Store} {w w' : Workspace} {path : String} {text existing : Option String}
  {a : Artifact} {outcome : MergeOutcome}

theorem HasText.read_eq (h : s.HasText w path text) (hr : s.read w path = .ok existing) :
    existing = text := by
  cases text with
  | some text => exact Except.ok.inj (hr.symm.trans h)
  | none =>
    cases s with
    | memory => exact Except.ok.inj (hr.symm.trans h)
    | overlay root => exact Except.ok.inj (hr.symm.trans h)
    | disk root =>
      obtain ⟨l, hl, hnone⟩ := h
      cases existing with
      | none => rfl
      | some text =>
        refine absurd ?_ (hl.readText?_ne hnone text)
        simp only [read, readDisk] at hr
        split at hr
        · next hread => rw [hread, Except.ok.inj hr]
        · cases hr
        · cases hr

theorem merge_ok (h : s.merge w a = (w', .ok outcome)) :
    ∃ existing, s.read w a.path = .ok existing ∧ outcome = (GoScaffold.merge existing a).2 ∧
      ((GoScaffold.merge existing a).1 = none ∧ w' = w ∨
        ∃ text, (GoScaffold.merge existing a).1 = some text ∧
          s.write w a.path text = (w', none)) := by
  unfold merge at h
  split at h
  · cases h
  · next existing hr =>
    refine ⟨existing, hr, ?_⟩
    cases hm : GoScaffold.merge existing a with
    | mk next done =>
      rw [hm] at h
      cases next with
      | none =>
        cases h
        exact ⟨rfl, Or.inl ⟨rfl, rfl⟩⟩
      | some text =>
        simp only at h
        split at h
        · next hw =>
          cases h
          exact ⟨rfl, Or.inr ⟨text, rfl, hw⟩⟩
        · cases h

theorem path_of_merge (h : s.merge w a = (w', .ok outcome)) : outcome.path = a.path := by
  obtain ⟨existing, -, rfl, -⟩ := merge_ok h
  exact path_merge existing a

theorem hasExactText_of_write {written : String} (h : s.write w path written = (w', none)) :
    s.HasExactText w' path (some written) := by
  cases s with
  | memory =>
    cases h
    simp [HasExactText, OrderedMap.get?_insert]
  | overlay root =>
    cases h
    simp [HasExactText, OrderedMap.get?_insert]
  | disk root =>
    simp only [write, Prod.mk.injEq, Option.map_eq_none_iff] at h
    obtain ⟨rfl, hnone⟩ := h
    exact (Tree.find_writeText (Prod.ext rfl hnone)).2

/-- A merge that goes through leaves the text that it comes to, to the character. -/
theorem HasExactText.merge (h : s.HasExactText w a.path existing)
    (hr : s.read w a.path = .ok existing) (hm : s.merge w a = (w', .ok outcome)) :
    s.HasExactText w' a.path ((GoScaffold.merge existing a).1.or existing) := by
  obtain ⟨existing', hr', -, ⟨hnone, rfl⟩ | ⟨text, hsome, hw⟩⟩ := merge_ok hm
  · rw [hr] at hr'
    obtain rfl := Except.ok.inj hr'
    rwa [hnone, Option.none_or]
  · rw [hr] at hr'
    obtain rfl := Except.ok.inj hr'
    rw [hsome, Option.some_or]
    exact hasExactText_of_write hw

theorem HasText.write_beside (h : s.HasText w path text) {other written : String}
    (hw : s.write w other written = (w', none)) (hb : AreBeside path other) :
    s.HasText w' path text := by
  have hdrafts : OrderedMap.get? path (OrderedMap.insert other written w.drafts) =
      OrderedMap.get? path w.drafts := by
    rw [OrderedMap.get?_insert, if_neg hb.ne.symm]
  cases s with
  | memory =>
    cases hw
    cases text <;> exact (congrArg Except.ok hdrafts).trans h
  | overlay root =>
    cases hw
    have hread : (overlay root).read { w with drafts := OrderedMap.insert other written w.drafts }
        path = (overlay root).read w path := by
      simp only [read, hdrafts]
    cases text <;> exact hread.trans h
  | disk root =>
    simp only [write, Prod.mk.injEq, Option.map_eq_none_iff] at hw
    obtain ⟨rfl, hnone⟩ := hw
    have hwrite : w.tree.writeText (root / other) written = (_, none) := Prod.ext rfl hnone
    cases text with
    | none =>
      obtain ⟨l, hl, hfree⟩ := h
      exact ⟨l, Tree.leadsTo_beside hwrite (hb.beside root) hl hfree⟩
    | some text =>
      have hread : w.tree.readText? (root / path) = .ok (some text) := by
        unfold HasText read readDisk at h
        dsimp only at h
        split at h
        · next hr => rw [hr, Except.ok.inj h]
        · cases h
        · cases h
      simp only [HasText, read, readDisk, Tree.readText?_beside hwrite (hb.beside root) hread]

/-- A merge that goes through leaves the text that it comes to. -/
theorem HasText.merge (h : s.HasText w a.path text) (hm : s.merge w a = (w', .ok outcome))
    (hk : ∀ next ∈ textAfter text a, s.Keeps next) :
    s.HasText w' a.path (textAfter text a) ∧ outcome = (GoScaffold.merge text a).2 := by
  obtain ⟨existing, hr, -, -⟩ := merge_ok hm
  obtain rfl := h.read_eq hr
  have hnext := read_merge hr hm fun next hn => hk next (by
    rw [textAfter, Option.mem_def.1 hn]
    rfl)
  obtain ⟨next, hsome⟩ := exists_textAfter existing a
  rw [← textAfter, hsome] at hnext
  rw [hsome]
  exact hnext

/-- A merge that goes through leaves the files beside its own as they were. -/
theorem HasText.merge_beside (h : s.HasText w path text) (hm : s.merge w a = (w', .ok outcome))
    (hb : AreBeside path a.path) : s.HasText w' path text := by
  obtain ⟨existing, -, -, ⟨-, rfl⟩ | ⟨next, -, hw⟩⟩ := merge_ok hm
  · exact h
  · exact h.write_beside hw hb

end Merge

end Store

end GoScaffold
