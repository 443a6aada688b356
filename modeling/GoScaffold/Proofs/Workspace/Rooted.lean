import GoScaffold.Proofs.Workspace.Neighbour

/-!
# What a write leaves alone

In a file tree every entry stands in a directory, and writes keep that. So a write that goes through
changes nothing about what is found under the path of another file: where a directory on the way to
that file was missing, the file was missing too, and still is.
-/
namespace GoScaffold.Tree

open GoScaffold.Text

section Rooted

variable {t t' moved : Tree} {l : Location} {p : Path} {text : String}

theorem isFixed_of_below {s : String} (h : isFixed (l ++ [s]) = true) : isFixed l = true := by
  simp only [isFixed, List.all_append, Bool.or_eq_true, Bool.and_eq_true, beq_iff_eq] at h ⊢
  rcases h with (⟨hdots, -⟩ | hroot) | hroot
  · exact Or.inl (Or.inl hdots)
  all_goals
    obtain rfl : l = [] := List.append_inj_left' hroot rfl
    exact Or.inl (Or.inl rfl)

/-- A tree is rooted if all entries of its list stand in directories. -/
theorem isRooted_of_entries
    (h : ∀ listed ∈ t.entries, t.entry? listed.1.dropLast = some .directory) : t.IsRooted := by
  intro l s hne
  by_cases hfixed : isFixed (l ++ [s]) = true
  · rw [ entry?, if_pos (isFixed_of_below hfixed)]
  · rw [ entry?, if_neg hfixed] at hne
    obtain ⟨e, he⟩ := Option.ne_none_iff_exists'.1 hne
    have hmem := h _ (OrderedMap.mem_of_get? he)
    rwa [List.dropLast_concat] at hmem

theorem IsRooted.entry_below (h : t.IsRooted) (hnone : t.entry? l = none) (rest : List String) :
    t.entry? (l ++ rest) = none := by
  induction rest using List.reverseRecOn with
  | nil => rwa [List.append_nil]
  | append_singleton rest s ih =>
    by_contra hne
    rw [← List.append_assoc] at hne
    rw [h _ _ hne] at ih
    cases ih

/-- Above an entry there are directories. -/
theorem IsRooted.directory_above (h : t.IsRooted) {rest : List String} (hne : rest ≠ [])
    (he : t.entry? (l ++ rest) ≠ none) : t.entry? l = some .directory := by
  induction rest using List.reverseRecOn with
  | nil => exact absurd rfl hne
  | append_singleton rest s ih =>
    rw [← List.append_assoc] at he
    have hdirectory := h _ _ he
    by_cases hrest : rest = []
    · rwa [hrest, List.append_nil] at hdirectory
    · exact ih hrest (by simp [hdirectory])

end Rooted

/-- What is found under the segments that are followed from a location. -/
def findFrom (t : Tree) (l : Location) (segments : List String) : Except Refusal Entry :=
  (t.walk l segments).bind fun k =>
    match t.entry? k with
    | some e => .ok e
    | none => .error .absent

theorem find_eq (t : Tree) (p : Path) : t.find p =
    if longestPath < p.text.utf8ByteSize then .error .nameTooLong
    else t.findFrom (start p) p.segments := by
  unfold find locate findFrom
  split
  · rfl
  · cases t.walk (start p) p.segments with
    | error r => rfl
    | ok l => cases he : t.entry? l <;> simp [bind, Except.bind, he]

theorem findFrom_append (t : Tree) (l : Location) (as bs : List String) :
    t.findFrom l (as ++ bs) = (t.walk l as).bind fun k => t.findFrom k bs := by
  unfold findFrom
  rw [walk_append]
  cases t.walk l as <;> rfl

/-- Names that a directory takes, none of them leading up. -/
def IsPlainWay (segments : List String) : Prop :=
  ∀ s ∈ segments, s ≠ ".." ∧ s.utf8ByteSize ≤ longestName

theorem walk_cons_of_directory {t : Tree} {l : Location} {s : String}
    (hl : t.entry? l = some .directory) (hs : s ≠ ".." ∧ s.utf8ByteSize ≤ longestName)
    (segments : List String) : t.walk l (s :: segments) = t.walk (l ++ [s]) segments := by
  simp only [walk, hl, if_neg hs.1, if_neg (Nat.not_lt.2 hs.2)]

theorem isPlainWay_of_walk {t : Tree} {l x : Location} {segments : List String}
    (hdots : ".." ∉ segments) (h : t.walk l segments = .ok x) : IsPlainWay segments := by
  induction segments generalizing l with
  | nil => simp [IsPlainWay]
  | cons s segments ih =>
    simp only [List.mem_cons, not_or] at hdots
    simp only [walk, if_neg (Ne.symm hdots.1)] at h
    split at h
    · cases h
    · cases h
    · split at h
      · cases h
      · next hshort =>
        exact List.forall_mem_cons.2 ⟨⟨Ne.symm hdots.1, Nat.not_lt.1 hshort⟩, ih hdots.2 h⟩

section Found

variable {t t' : Tree} {l : Location} {segments : List String}

/-- Along directories and missing entries to a missing one, nothing is found. -/
theorem findFrom_absent (hway : IsPlainWay segments)
    (hpath : ∀ k, k <+: segments → t.entry? (l ++ k) = none ∨ t.entry? (l ++ k) = some .directory)
    (hend : t.entry? (l ++ segments) = none) : t.findFrom l segments = .error .absent := by
  induction segments generalizing l with
  | nil =>
    rw [List.append_nil] at hend
    simp [findFrom, walk, Except.bind, hend]
  | cons s segments ih =>
    obtain ⟨hs, hway⟩ := List.forall_mem_cons.1 hway
    have hfirst := hpath [] List.nil_prefix
    rw [List.append_nil] at hfirst
    rcases hfirst with hnone | hdirectory
    · simp [findFrom, walk, Except.bind, hnone]
    · rw [findFrom, walk_cons_of_directory hdirectory hs]
      refine ih hway (fun k hk => ?_) (by simpa using hend)
      have hnext := hpath (s :: k) (List.cons_prefix_cons.2 ⟨rfl, hk⟩)
      simpa using hnext

/-- Where nothing but missing directories has been added on the way, the same is found. -/
theorem findFrom_congr (hrooted : t.IsRooted) (hway : IsPlainWay segments)
    (hgrown : ∀ k, k <+: segments → t'.entry? (l ++ k) = t.entry? (l ++ k) ∨
      t.entry? (l ++ k) = none ∧ t'.entry? (l ++ k) = some .directory)
    (hend : t'.entry? (l ++ segments) = t.entry? (l ++ segments)) :
    t'.findFrom l segments = t.findFrom l segments := by
  induction segments generalizing l with
  | nil =>
    rw [List.append_nil] at hend
    simp [findFrom, walk, Except.bind, hend]
  | cons s segments ih =>
    have hfirst := hgrown [] List.nil_prefix
    rw [List.append_nil] at hfirst
    rcases hfirst with hsame | ⟨hnone, hmade⟩
    · obtain ⟨hs, hrest⟩ := List.forall_mem_cons.1 hway
      cases he : t.entry? l with
      | none => simp [findFrom, walk, Except.bind, hsame, he]
      | some e =>
        cases e with
        | file bytes stamp => simp [findFrom, walk, Except.bind, hsame, he]
        | directory =>
          rw [findFrom, findFrom, walk_cons_of_directory (hsame.trans he) hs,
            walk_cons_of_directory he hs]
          refine ih hrest (fun k hk => ?_) (by simpa using hend)
          have hnext := hgrown (s :: k) (List.cons_prefix_cons.2 ⟨rfl, hk⟩)
          simpa using hnext
    · have habsent : t.findFrom l (s :: segments) = .error .absent := by
        simp [findFrom, walk, hnone, Except.bind]
      have hbelow := hrooted.entry_below hnone
      rw [habsent]
      refine findFrom_absent hway (fun k hk => ?_) (hend.trans (hbelow _))
      rcases hgrown k hk with hsame | ⟨-, hdirectory⟩
      · exact Or.inl (hsame.trans (hbelow k))
      · exact Or.inr hdirectory

end Found

/-- The path of segments below a root. -/
def below (root : Path) (segments : List String) : Path :=
  { root with segments := root.segments ++ segments }

section Below

variable {t moved : Tree} {root : Path} {l : Location} {above : List String} {name : String}
  {text : String}

theorem start_below (root : Path) (segments : List String) : start (below root segments) = start root := rfl

theorem name_below (root : Path) (above : List String) (name : String) :
    (below root (above ++ [name])).name = name := by
  simp [Path.name, below, ← List.append_assoc]

theorem parent_below (root : Path) (above : List String) (name : String) :
    (below root (above ++ [name])).parent.segments = root.segments ++ above := by
  simp [Path.parent, below, ← List.append_assoc]

theorem LeadsTo.congr {p : Path} (h : t.LeadsTo p l)
    (hkept : ∀ l, t.entry? l = some .directory → moved.entry? l = some .directory) :
    moved.LeadsTo p l := by
  obtain ⟨made, rest, home, hsegments, hdots, hwalk, hhome, rfl⟩ := h
  exact ⟨made, rest, home, hsegments, hdots, walk_congr hkept hwalk, hkept _ hhome, rfl⟩

/-- A root leads where it did after a write below it, which keeps every entry in a directory. -/
theorem LeadsTo.writeText (hroot : t.LeadsTo root l) (hdots : ".." ∉ above)
    (hwrite : t.writeText (below root (above ++ [name])) text = (moved, none)) :
    moved.LeadsTo root l ∧ (t.IsRooted → moved.IsRooted) := by
  obtain ⟨made, rest, home, hsegments, hrest, hwalk, hhome, hl⟩ := id hroot
  have hparent : (below root (above ++ [name])).parent.segments = made ++ (rest ++ above) := by
    rw [parent_below, hsegments, List.append_assoc]
  have hway : ".." ∉ rest ++ above := by simp [hrest, hdots]
  have hwritten := isWritten_writeText hwrite hparent hway hwalk hhome
  exact ⟨hroot.congr hwritten.directory, hwritten.rooted⟩

/-- A write below a root leaves what is found under another path below it. -/
theorem find_below (hrooted : t.IsRooted) (hroot : t.LeadsTo root l) (hdots : ".." ∉ above)
    (hwrite : t.writeText (below root (above ++ [name])) text = (moved, none))
    {other : List String} (hway : IsPlainWay other) (hname : ¬ above ++ [name] <+: other)
    (htemporary : ¬ above ++ [t.temporaryName name] <+: other) (habove : ¬ other <+: above) :
    moved.find (below root other) = t.find (below root other) := by
  obtain ⟨made, rest, home, hsegments, hrest, hwalk, hhome, rfl⟩ := hroot
  have hparent : (below root (above ++ [name])).parent.segments = made ++ (rest ++ above) := by
    rw [parent_below, hsegments, List.append_assoc]
  have hwritten := isWritten_writeText hwrite hparent (by simp [hrest, hdots]) hwalk hhome
  rw [name_below] at hwritten
  obtain ⟨hkept, -, -, hframe, -⟩ := hwritten
  -- the write went down the rest of the root, so the names there are short enough
  have hrestWay : IsPlainWay rest := by
    obtain ⟨-, stamp, hfile⟩ := find_writeText hwrite
    obtain ⟨k, hk, -⟩ := find_ok.1 hfile
    have hk := locate_ok hk
    rw [below, hsegments, List.append_assoc, walk_append] at hk
    change (moved.walk (start root) made).bind _ = _ at hk
    rw [walk_congr hkept hwalk] at hk
    change moved.walk home (rest ++ (above ++ [name])) = .ok k at hk
    rw [walk_append] at hk
    cases hr : moved.walk home rest with
    | error r => simp [hr, Except.bind] at hk
    | ok x => exact isPlainWay_of_walk hrest hr
  have hother {ks : List String} (hks : ks <+: rest ++ other) {last : String}
      (hlast : ¬ above ++ [last] <+: other) : home ++ ks ≠ home ++ (rest ++ above) ++ [last] := by
    intro heq
    rw [List.append_assoc, List.append_cancel_left_eq, List.append_assoc] at heq
    rw [heq, List.prefix_append_right_inj] at hks
    exact hlast hks
  have hgrown (ks : List String) (hks : ks <+: rest ++ other) := hframe (home ++ ks)
    (hother hks hname) (hother hks htemporary)
  have hend : moved.entry? (home ++ (rest ++ other)) = t.entry? (home ++ (rest ++ other)) := by
    refine (hgrown _ List.prefix_rfl).resolve_right fun hmade => habove ?_
    simpa only [List.prefix_append_right_inj] using hmade.1
  have hall : IsPlainWay (rest ++ other) := List.forall_mem_append.2 ⟨hrestWay, hway⟩
  have hfrom : moved.findFrom home (rest ++ other) = t.findFrom home (rest ++ other) :=
    findFrom_congr hrooted hall (fun ks hks => (hgrown ks hks).imp_right And.right) hend
  have hpath : (below root other).segments = made ++ (rest ++ other) := by
    rw [below, hsegments, List.append_assoc]
  rw [find_eq, find_eq, hpath, start_below, findFrom_append, findFrom_append, hwalk,
    walk_congr hkept hwalk]
  exact if_congr Iff.rfl rfl hfrom

theorem find_tooLong {e : Entry} (hfile : t.find (below root (above ++ [name])) = .ok e)
    (hname : name ≠ "..") {long : String} (hlong : longestName < long.utf8ByteSize) :
    t.find (below root (above ++ [long])) = .error .nameTooLong := by
  obtain ⟨l, hl, -⟩ := find_ok.1 hfile
  have hwalk := locate_ok hl
  change t.walk (start root) (root.segments ++ (above ++ [name])) = .ok l at hwalk
  rw [← List.append_assoc] at hwalk
  obtain ⟨home, hhome, hdirectory, -⟩ := walk_name hname hwalk
  have hdots : long ≠ ".." := by
    rintro rfl
    exact absurd hlong (by decide)
  have hfrom : t.findFrom (start root) ((root.segments ++ above) ++ [long]) = .error .nameTooLong := by
    rw [findFrom_append, hhome]
    change t.findFrom home [long] = _
    simp only [findFrom, walk, hdirectory, if_neg hdots, if_pos hlong]
    rfl
  rw [find_eq, start_below, below, ← List.append_assoc, hfrom, ite_self]

end Below

end GoScaffold.Tree
