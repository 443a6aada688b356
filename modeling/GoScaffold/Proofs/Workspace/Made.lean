import GoScaffold.Proofs.Text.Pieces
import GoScaffold.Proofs.Workspace.Rooted

/-!
# Ways that end

A way through a tree ends where nothing is, where a file stands or where a name is too long. Making
directories goes on from where nothing is; it is stopped by the other two, and where it is not, the
directory is there.
-/
namespace GoScaffold

open GoScaffold.Text

/-- A path that the file system takes. -/
structure Path.IsShort (p : Path) : Prop where
  names : ∀ s ∈ p.segments, s.utf8ByteSize ≤ Tree.longestName
  text : p.text.utf8ByteSize ≤ Tree.longestPath

namespace Tree

section Text

variable {anchor : String}

theorem text_of_ne_nil {ss : List String} (h : ss ≠ []) :
    ({ anchor, segments := ss } : Path).text = anchor ++ join "/" ss := by
  simp [Path.text, h]

/-- The folders of a path whose text is short have short texts. -/
theorem text_append_le {ss more : List String}
    (h : ({ anchor, segments := ss ++ more } : Path).text.utf8ByteSize ≤ longestPath) :
    ({ anchor, segments := ss } : Path).text.utf8ByteSize ≤ longestPath := by
  by_cases hss : ss = []
  · subst hss
    by_cases hmore : more = []
    · subst hmore
      exact h
    · rw [List.nil_append, text_of_ne_nil hmore, String.utf8ByteSize_append] at h
      unfold Path.text
      split
      · decide
      · simp only [join, String.utf8ByteSize_append, String.utf8ByteSize_empty]
        omega
  · rw [text_of_ne_nil hss]
    rw [text_of_ne_nil (by simp [hss])] at h
    have hjoin := size_join_append "/" ss more
    simp only [String.utf8ByteSize_append] at h ⊢
    omega

end Text

section Walk

variable {t : Tree} {home l : Location} {p q : Path} {ks more : List String} {s : String}

theorem walk_error {r : Refusal} (h : t.walk l ks = .error r) :
    r = .absent ∨ r = .notDirectory ∨ r = .nameTooLong ∧ ∃ s ∈ ks, longestName < s.utf8ByteSize := by
  induction ks generalizing l with
  | nil => cases h
  | cons s ks ih =>
    simp only [walk] at h
    split at h
    · cases h
      exact Or.inl rfl
    · cases h
      exact Or.inr (Or.inl rfl)
    · split at h
      · exact (ih h).imp_right (Or.imp_right (And.imp_right List.exists_mem_cons_of_exists))
      · split at h
        · next hlong =>
          cases h
          exact Or.inr (Or.inr ⟨rfl, s, List.mem_cons_self, hlong⟩)
        · exact (ih h).imp_right (Or.imp_right (And.imp_right List.exists_mem_cons_of_exists))

theorem not_isShort_of_locate (h : t.locate p = .error .nameTooLong) : ¬ p.IsShort := by
  intro hshort
  unfold locate at h
  split at h
  · next hlong => exact absurd hshort.text (Nat.not_le.2 hlong)
  · obtain hr | hr | ⟨-, s, hs, hlong⟩ := walk_error h
    · cases hr
    · cases hr
    · exact absurd (hshort.names s hs) (Nat.not_le.2 hlong)

theorem isShort_of_locate (hdots : ".." ∉ p.segments) (h : t.locate p = .ok l) : p.IsShort where
  names s hs := (isPlainWay_of_walk hdots (locate_ok h) s hs).2
  text := by
    unfold locate at h
    split at h
    · cases h
    · next htext => exact Nat.not_lt.1 htext

/-- To an entry there are directories all the way, though a name on it may be too long. -/
theorem IsRooted.walk_cases (hrooted : t.IsRooted) (hdots : ".." ∉ ks)
    (h : t.entry? (home ++ ks) ≠ none) :
    t.walk home ks = .ok (home ++ ks) ∨ t.walk home ks = .error .nameTooLong := by
  induction ks using List.reverseRecOn with
  | nil => exact Or.inl (by rw [List.append_nil, walk])
  | append_singleton ks s ih =>
    simp only [List.mem_append, List.mem_singleton, not_or] at hdots
    rw [← List.append_assoc] at h ⊢
    have hdirectory := hrooted _ _ h
    rw [walk_append]
    obtain hok | hlong := ih hdots.1 (by rw [hdirectory]; simp)
    · rw [hok]
      change t.walk (home ++ ks) [s] = _ ∨ t.walk (home ++ ks) [s] = _
      simp only [walk, hdirectory, if_neg (Ne.symm hdots.2)]
      split
      · exact Or.inr rfl
      · exact Or.inl rfl
    · rw [hlong]
      exact Or.inr rfl

theorem IsRooted.walk_of_entry (hrooted : t.IsRooted) (hway : IsPlainWay ks)
    (h : t.entry? (home ++ ks) ≠ none) : t.walk home ks = .ok (home ++ ks) := by
  refine (hrooted.walk_cases (fun hmem => (hway _ hmem).1 rfl) h).resolve_right fun hlong => ?_
  obtain hr | hr | ⟨-, s, hs, hlonger⟩ := walk_error hlong
  · cases hr
  · cases hr
  · exact absurd (hway s hs).2 (Nat.not_le.2 hlonger)

/-- A file stands on the way from a location, or at the end of the way. -/
def IsBlocked (t : Tree) (home : Location) (ks : List String) : Prop :=
  ∃ before, before <+: ks ∧ IsPlainWay before ∧
    ∃ bytes stamp, t.entry? (home ++ before) = some (.file bytes stamp)

theorem IsBlocked.mono (h : t.IsBlocked home ks) (hmore : ks <+: more) : t.IsBlocked home more := by
  obtain ⟨before, hbefore, hfile⟩ := h
  exact ⟨before, hbefore.trans hmore, hfile⟩

/-- Directories that are made block no way. -/
theorem IsWayMade.isBlocked {t' : Tree} (h : t.IsWayMade t' l) (hblocked : t'.IsBlocked home ks) :
    t.IsBlocked home ks := by
  obtain ⟨before, hbefore, hway, bytes, stamp, hfile⟩ := hblocked
  refine ⟨before, hbefore, hway, bytes, stamp, ?_⟩
  obtain hsame | ⟨-, hdirectory⟩ := h.grown (home ++ before)
  · rw [← hsame, hfile]
  · rw [hfile] at hdirectory
    cases hdirectory

theorem IsBlocked.walk (h : t.IsBlocked home ks) (hrooted : t.IsRooted) (s : String) :
    t.walk home (ks ++ [s]) = .error .notDirectory := by
  obtain ⟨before, ⟨rest, rfl⟩, hway, bytes, stamp, hfile⟩ := h
  have hwalk := hrooted.walk_of_entry hway (by rw [hfile]; simp)
  obtain ⟨s', rest', hrest⟩ := List.exists_cons_of_ne_nil (l := rest ++ [s]) (by simp)
  rw [List.append_assoc, walk_append, hwalk, hrest]
  change t.walk (home ++ before) (s' :: rest') = _
  simp only [Tree.walk, hfile]

theorem isBlocked_of_walk (hdots : ".." ∉ ks) (h : t.walk home ks = .error .notDirectory) :
    t.IsBlocked home ks := by
  induction ks generalizing home with
  | nil => cases h
  | cons s ks ih =>
    simp only [List.mem_cons, not_or] at hdots
    simp only [Tree.walk, if_neg (Ne.symm hdots.1)] at h
    split at h
    · cases h
    · next bytes stamp hfile =>
      exact ⟨[], List.nil_prefix, by simp [IsPlainWay], bytes, stamp, by simpa using hfile⟩
    · split at h
      · cases h
      · next hshort =>
        obtain ⟨before, hbefore, hway, bytes, stamp, hfile⟩ := ih hdots.2 h
        exact ⟨s :: before, List.cons_prefix_cons.2 ⟨rfl, hbefore⟩,
          List.forall_mem_cons.2 ⟨⟨Ne.symm hdots.1, Nat.not_lt.1 hshort⟩, hway⟩,
          bytes, stamp, by simpa using hfile⟩

end Walk

section Make

variable {t t' : Tree} {p : Path} {anchor : String} {segments : List String} {e : FileError}

theorem find_of_ensureDirectory (h : t.ensureDirectory p = .ok t') : t'.find p = .ok .directory := by
  unfold ensureDirectory at h
  split at h
  · next hm =>
    cases h
    obtain ⟨l, hl, hnone, rfl⟩ := makeDirectory_ok hm
    have hkept (k : Location) (hk : t.entry? k = some .directory) :
        Tree.entry? (t.set l .directory) k = some .directory := by
      rw [entry_set, hk]
      simp
    refine find_ok.2 ⟨l, locate_congr hkept hl, ?_⟩
    rw [entry_set]
    simp
  · split at h
    · cases h
    · split at h
      · next hdirectory =>
        cases h
        unfold isDirectory probe at hdirectory
        split at hdirectory
        · simp [Except.map] at hdirectory
        · cases hf : t.find p with
          | ok e => cases e <;> simp [hf, Except.map] at hdirectory ⊢
          | error r => cases r <;> simp [hf, refuse, Except.map] at hdirectory
      · cases h

theorem find_of_makeDirectories (h : t.makeDirectories anchor segments = (t', none)) :
    t'.find { anchor, segments := segments.reverse } = .ok .directory := by
  cases segments with
  | nil =>
    rw [makeDirectories] at h
    split at h
    · next hmade =>
      cases h
      exact find_of_ensureDirectory hmade
    · cases h
  | cons s above =>
    rw [makeDirectories] at h
    split at h
    · next hmade =>
      cases h
      exact find_of_ensureDirectory hmade
    · split at h
      · cases h
      · split at h
        · cases h
        · split at h
          · next hmade =>
            cases h
            exact find_of_ensureDirectory hmade
          · cases h

/-- A directory is missed only if one above it is. -/
theorem locate_of_missed (h : t.ensureDirectory p = .error e) (he : e.refusal = .absent) :
    t.locate p = .error .absent := by
  cases hl : t.locate p with
  | ok l =>
    cases hentry : t.entry? l with
    | none => simp [ensureDirectory, makeDirectory, hl, hentry] at h
    | some entry =>
      simp only [ensureDirectory, makeDirectory, hl, hentry, refuse] at h
      split at h
      · next hr => cases hr
      · split at h
        · cases h
        · cases h
          cases he
  | error r =>
    simp only [ensureDirectory, makeDirectory, hl, refuse] at h
    split at h
    · next hr => rw [hr]
    · split at h
      · cases h
      · cases h
        rw [← show r = .absent from he]

theorem locate_ne_absent {s : String} (h : t.find { anchor, segments } = .ok .directory) :
    t.locate { anchor, segments := segments ++ [s] } ≠ .error .absent := by
  obtain ⟨l, hl, hdirectory⟩ := find_ok.1 h
  have hwalk : t.walk (start { anchor, segments := segments ++ [s] }) segments = .ok l := locate_ok hl
  intro habsent
  unfold locate at habsent
  split at habsent
  · cases habsent
  · rw [walk_append, hwalk] at habsent
    change t.walk l [s] = _ at habsent
    simp only [walk, hdirectory] at habsent
    split at habsent
    · cases habsent
    · split at habsent <;> cases habsent

/-- Where directories are not made, one on the way is refused, and not as one that is missed. -/
theorem exists_of_makeDirectories (h : t.makeDirectories anchor segments = (t', some e)) :
    ∃ above, above <+: segments.reverse ∧
      t'.ensureDirectory { anchor, segments := above } = .error e ∧ e.refusal ≠ .absent := by
  induction segments generalizing t' e with
  | nil =>
    rw [makeDirectories] at h
    split at h
    · cases h
    · next hrefused =>
      cases h
      refine ⟨[], List.nil_prefix, hrefused, fun habsent => ?_⟩
      have hlocate := locate_of_missed hrefused habsent
      unfold locate at hlocate
      split at hlocate <;> cases hlocate
  | cons s above ih =>
    rw [makeDirectories] at h
    split at h
    · cases h
    · next hrefused =>
      split at h
      · next hne =>
        cases h
        exact ⟨_, List.prefix_rfl, hrefused, hne⟩
      · cases hm : t.makeDirectories anchor above with
        | mk between fault =>
          rw [hm] at h
          cases fault with
          | some f =>
            cases h
            obtain ⟨k, hk, hlast⟩ := ih hm
            exact ⟨k, hk.trans (List.reverse_cons ▸ List.prefix_append _ _), hlast⟩
          | none =>
            simp only at h
            split at h
            · cases h
            · next hlast =>
              cases h
              refine ⟨_, List.prefix_rfl, hlast, fun habsent => ?_⟩
              have hmissed := locate_of_missed hlast habsent
              rw [List.reverse_cons] at hmissed
              exact locate_ne_absent (find_of_makeDirectories hm) hmissed

/-- What has a directory refused: a name or a text that is too long, or a file. -/
theorem refused_of_ensureDirectory (hzero : p.hasZero = false) (h : t.ensureDirectory p = .error e)
    (he : e.refusal ≠ .absent) :
    t.locate p = .error .nameTooLong ∨ t.locate p = .error .notDirectory ∨
      ∃ l bytes stamp, t.locate p = .ok l ∧ t.entry? l = some (.file bytes stamp) := by
  cases hl : t.locate p with
  | ok l =>
    cases hentry : t.entry? l with
    | none => simp [ensureDirectory, makeDirectory, hl, hentry] at h
    | some entry =>
      cases entry with
      | file bytes stamp => exact Or.inr (Or.inr ⟨l, bytes, stamp, rfl, hentry⟩)
      | directory =>
        rw [ensureDirectory_of_find hzero (find_ok.2 ⟨l, hl, hentry⟩)] at h
        cases h
  | error r =>
    have hr : r ≠ .absent := by
      rintro rfl
      simp only [ensureDirectory, makeDirectory, hl, refuse, if_true] at h
      cases h
      exact he rfl
    unfold locate at hl
    split at hl
    · cases hl
      exact Or.inl rfl
    · obtain habsent | rfl | ⟨rfl, -⟩ := walk_error hl
      · exact absurd habsent hr
      · exact Or.inr (Or.inl rfl)
      · exact Or.inl rfl

/-- Behind or in the place of a file no directory is made, and none is missed. -/
theorem ensureDirectory_of_file {l : Location} (hl : t.locate p = .error .notDirectory ∨
      t.locate p = .ok l ∧ ∃ bytes stamp, t.entry? l = some (.file bytes stamp)) :
    ∃ e, t.ensureDirectory p = .error e ∧ e.refusal ≠ .absent := by
  cases hmade : t.ensureDirectory p with
  | error e =>
    refine ⟨e, rfl, fun habsent => ?_⟩
    rw [locate_of_missed hmade habsent] at hl
    obtain hl | ⟨hl, -⟩ := hl <;> cases hl
  | ok t' =>
    have hplace : ∃ k, t.locate p = .ok k ∧ (t.entry? k = some .directory ∨ t.entry? k = none) := by
      obtain rfl | hm := ensureDirectory_ok hmade
      · obtain ⟨k, hk, hdirectory⟩ := find_ok.1 (find_of_ensureDirectory hmade)
        exact ⟨k, hk, Or.inl hdirectory⟩
      · obtain ⟨k, hk, hnone, -⟩ := makeDirectory_ok hm
        exact ⟨k, hk, Or.inr hnone⟩
    obtain ⟨k, hk, hentry⟩ := hplace
    rw [hk] at hl
    obtain hl | ⟨hl, bytes, stamp, hfile⟩ := hl
    · cases hl
    · rw [Except.ok.inj hl, hfile] at hentry
      simp at hentry

end Make

end Tree

end GoScaffold
