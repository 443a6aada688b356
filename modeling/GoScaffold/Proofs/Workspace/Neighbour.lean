import GoScaffold.Proofs.Workspace.Written
import Mathlib.Data.List.Induction

/-!
# Files beside a written file

A write that goes through changes its own file, makes the directories on the way to it and leaves
nothing under its temporary name. The other files of the directory stay as they are.
-/
namespace GoScaffold

open GoScaffold.Text

namespace Tree

theorem walk_append (t : Tree) (l : Location) (as bs : List String) :
    t.walk l (as ++ bs) = (t.walk l as).bind fun k => t.walk k bs := by
  induction as generalizing l with
  | nil => rfl
  | cons a as ih =>
    cases he : t.entry? l with
    | none => simp [walk, he, Except.bind]
    | some e =>
      cases e with
      | file bytes stamp => simp [walk, he, Except.bind]
      | directory =>
        simp only [List.cons_append, walk, he, ih]
        split
        · rfl
        · split <;> rfl

/-- Without double dots every segment goes one level down. -/
theorem walk_eq_append {t : Tree} {l x : Location} {segments : List String}
    (hdots : ".." ∉ segments) (h : t.walk l segments = .ok x) : x = l ++ segments := by
  induction segments generalizing l with
  | nil =>
    cases h
    simp
  | cons s segments ih =>
    simp only [List.mem_cons, not_or] at hdots
    simp only [walk, if_neg (Ne.symm hdots.1)] at h
    split at h
    · cases h
    · cases h
    · split at h
      · cases h
      · rw [ih hdots.2 h, List.append_assoc, List.singleton_append]

theorem locate_ok {t : Tree} {p : Path} {l : Location} (h : t.locate p = .ok l) :
    t.walk (start p) p.segments = .ok l := by
  unfold locate at h
  split at h
  · cases h
  · exact h

/-- A path whose last segment is a name leads into the directory of its other segments. -/
theorem walk_name {t : Tree} {l x : Location} {above : List String} {name : String}
    (hname : name ≠ "..") (h : t.walk l (above ++ [name]) = .ok x) :
    ∃ home, t.walk l above = .ok home ∧ t.entry? home = some .directory ∧ x = home ++ [name] := by
  rw [walk_append] at h
  cases ha : t.walk l above with
  | error r => simp [ha, Except.bind] at h
  | ok home =>
    simp only [ha, Except.bind] at h
    have hx := walk_eq_append (by simpa using hname.symm) h
    simp only [walk] at h
    split at h
    · cases h
    · cases h
    · next he => exact ⟨home, rfl, he, hx⟩

/-- The path leads to the location, some of its last directories perhaps still to be made. Double
dots stand only in front of these. -/
def LeadsTo (t : Tree) (p : Path) (l : Location) : Prop :=
  ∃ made rest home, p.segments = made ++ rest ∧ ".." ∉ rest ∧ t.walk (start p) made = .ok home ∧
    t.entry? home = some .directory ∧ l = home ++ rest

theorem LeadsTo.locate_eq {t : Tree} {p : Path} {l x : Location} (h : t.LeadsTo p l)
    (hx : t.locate p = .ok x) : x = l := by
  obtain ⟨made, rest, home, hsegments, hdots, hwalk, -, rfl⟩ := h
  have hx := locate_ok hx
  rw [hsegments, walk_append, hwalk] at hx
  exact walk_eq_append hdots hx

/-- Every entry stands in a directory. -/
def IsRooted (t : Tree) : Prop :=
  ∀ (l : Location) (s : String), t.entry? (l ++ [s]) ≠ none → t.entry? l = some .directory

/-- Where no directory is, an entry may be replaced, and one may be made in a directory. -/
theorem IsRooted.replace {t t' : Tree} {l : Location} (h : t.IsRooted)
    (hl : t.entry? l ≠ some .directory) (hother : ∀ k, l ≠ k → t'.entry? k = t.entry? k)
    (hparent : t'.entry? l = none ∨ ∃ home s, l = home ++ [s] ∧ t.entry? home = some .directory) :
    t'.IsRooted := by
  intro k s hne
  by_cases hk : l = k ++ [s]
  · rcases hparent with hnone | ⟨home, s', hs, hhome⟩
    · exact absurd (hk ▸ hnone) hne
    · obtain ⟨rfl, -⟩ := List.append_singleton_inj.1 (hs.symm.trans hk)
      rw [hother _ fun he => hl (he ▸ hhome), hhome]
  · rw [hother _ hk] at hne
    have hdirectory := h k s hne
    rw [hother _ fun he => hl (he ▸ hdirectory), hdirectory]

/-- Nothing but directories on the way to a location has been made, each in a directory. -/
structure IsWayMade (t t' : Tree) (l : Location) : Prop where
  directory : ∀ k, t.entry? k = some .directory → t'.entry? k = some .directory
  frame : ∀ k, ¬ k <+: l → t'.entry? k = t.entry? k
  grown : ∀ k, t'.entry? k = t.entry? k ∨ t.entry? k = none ∧ t'.entry? k = some .directory
  rooted : t.IsRooted → t'.IsRooted

namespace IsWayMade

variable {t t' t'' : Tree} {l l' : Location}

theorem refl (t : Tree) (l : Location) : t.IsWayMade t l :=
  ⟨fun _ h => h, fun _ _ => rfl, fun _ => Or.inl rfl, id⟩

theorem trans (h : t.IsWayMade t' l) (h' : t'.IsWayMade t'' l) : t.IsWayMade t'' l where
  directory k hk := h'.directory k (h.directory k hk)
  frame k hk := (h'.frame k hk).trans (h.frame k hk)
  grown k := by
    rcases h.grown k with hk | ⟨hnone, hk⟩
    · exact hk ▸ h'.grown k
    · exact Or.inr ⟨hnone, h'.directory k hk⟩
  rooted := h'.rooted ∘ h.rooted

theorem mono (h : t.IsWayMade t' l) (hl : l <+: l') : t.IsWayMade t' l' :=
  ⟨h.directory, fun k hk => h.frame k fun hkl => hk (hkl.trans hl), h.grown, h.rooted⟩

end IsWayMade

section Directories

variable {t t' : Tree} {p : Path} {made rest : List String} {home : Location}

theorem ensureDirectory_of_find (hzero : p.hasZero = false) (h : t.find p = .ok .directory) :
    t.ensureDirectory p = .ok t := by
  obtain ⟨l, hl, he⟩ := find_ok.1 h
  have hpresent : t.makeDirectory p = refuse .present p := by
    simp only [makeDirectory, hl, he]
  have hdirectory : t.isDirectory p = .ok true := by
    simp [isDirectory, probe, hzero, h, Except.map]
  rw [ensureDirectory, hpresent]
  simp [refuse, hdirectory]

theorem makeDirectories_of_missing {anchor s : String} {above : List String} {between : Tree}
    {e : FileError}
    (hmissing : t.ensureDirectory { anchor, segments := (s :: above).reverse } = .error e)
    (he : e.refusal = .absent) (habove : t.makeDirectories anchor above = (between, none))
    (hthen : between.ensureDirectory { anchor, segments := (s :: above).reverse } = .ok t') :
    t.makeDirectories anchor (s :: above) = (t', none) := by
  simp only [makeDirectories, hmissing, he, ne_eq, not_true_eq_false, if_false, habove, hthen]

theorem ensureDirectory_way (hsegments : p.segments = made ++ rest) (hdots : ".." ∉ rest)
    (hwalk : t.walk (start p) made = .ok home) (hhome : t.entry? home = some .directory)
    (h : t.ensureDirectory p = .ok t') : t.IsWayMade t' (home ++ rest) := by
  rcases ensureDirectory_ok h with rfl | hm
  · exact .refl _ _
  · obtain ⟨l, hl, hnone, rfl⟩ := makeDirectory_ok hm
    have hl := locate_ok hl
    rw [hsegments, walk_append, hwalk] at hl
    change t.walk home rest = .ok l at hl
    obtain rfl := walk_eq_append hdots hl
    have hother (k : Location) (hk : home ++ rest ≠ k) :
        Tree.entry? (t.set (home ++ rest) .directory) k = t.entry? k := entry_set_of_ne hk _
    refine ⟨fun k hk => ?_, fun k hk => hother k fun heq => hk (heq ▸ List.prefix_rfl), fun k => ?_,
      fun hrooted => hrooted.replace (by simp [hnone]) hother (Or.inr ?_)⟩
    · rw [entry_set, hk]
      simp
    · by_cases hk : home ++ rest = k
      · subst hk
        refine Or.inr ⟨hnone, ?_⟩
        rw [entry_set]
        simp
      · exact Or.inl (hother k hk)
    · rcases List.eq_nil_or_concat rest with rfl | ⟨above, s, rfl⟩
      · rw [List.append_nil, hhome] at hnone
        cases hnone
      · rw [List.concat_eq_append] at hdots hl ⊢
        obtain ⟨k, -, hk, he⟩ := walk_name (by simpa using (fun he : s = ".." => hdots (by simp [he]))) hl
        exact ⟨k, s, he, hk⟩

theorem ensureDirectory_of_directory (hwalk : t.walk (start p) p.segments = .ok home)
    (hhome : t.entry? home = some .directory) :
    (∀ t', t.ensureDirectory p = .ok t' → t' = t) ∧
      ∀ e, t.ensureDirectory p = .error e → e.refusal ≠ .absent := by
  have hmake : ∃ r, t.makeDirectory p = refuse r p ∧ r ≠ .absent := by
    unfold makeDirectory locate
    by_cases hlong : longestPath < p.text.utf8ByteSize
    · rw [if_pos hlong]
      exact ⟨_, rfl, by decide⟩
    · rw [if_neg hlong, hwalk]
      simp only [hhome]
      exact ⟨_, rfl, by decide⟩
  obtain ⟨r, hr, hne⟩ := hmake
  refine ⟨fun t' ht => ?_, fun e he => ?_⟩
  · rcases ensureDirectory_ok ht with ht | hm
    · exact ht
    · rw [hr] at hm
      cases hm
  · unfold ensureDirectory at he
    rw [hr] at he
    simp only [refuse, hne, if_false] at he
    split at he
    · cases he
    · cases he
      exact hne

theorem makeDirectories_of_directory {anchor : String}
    (hwalk : t.walk (start { anchor }) made = .ok home) (hhome : t.entry? home = some .directory) :
    (t.makeDirectories anchor made.reverse).1 = t := by
  obtain ⟨hsame, hensure⟩ :=
    ensureDirectory_of_directory (p := { anchor, segments := made }) hwalk hhome
  cases hrev : made.reverse with
  | nil =>
    obtain rfl := List.reverse_eq_nil_iff.1 hrev
    rw [makeDirectories]
    split
    · next ht => exact hsame _ ht
    · rfl
  | cons s above =>
    have hmade : (s :: above).reverse = made := by rw [← hrev, List.reverse_reverse]
    rw [makeDirectories, hmade]
    split
    · next ht => exact hsame _ ht
    · next e he => rw [if_pos (hensure e he)]

theorem makeDirectories_way (anchor : String) (hdots : ".." ∉ rest)
    (hwalk : t.walk (start { anchor }) made = .ok home)
    (hhome : t.entry? home = some .directory) :
    t.IsWayMade (t.makeDirectories anchor (made ++ rest).reverse).1 (home ++ rest) := by
  induction rest using List.reverseRecOn with
  | nil =>
    rw [List.append_nil, makeDirectories_of_directory hwalk hhome]
    exact .refl _ _
  | append_singleton rest s ih =>
    have hrest := ih fun hmem => hdots (List.mem_append_left _ hmem)
    have hlonger : home ++ rest <+: home ++ (rest ++ [s]) := by
      rw [← List.append_assoc]
      exact List.prefix_append _ _
    have hsegments : (s :: (made ++ rest).reverse).reverse = made ++ (rest ++ [s]) := by simp
    have hreverse : (made ++ (rest ++ [s])).reverse = s :: (made ++ rest).reverse := by simp
    rw [hreverse, makeDirectories, hsegments]
    let p : Path := { anchor, segments := made ++ (rest ++ [s]) }
    split
    · next ht => exact ensureDirectory_way (p := p) rfl hdots hwalk hhome ht
    · split
      · exact .refl _ _
      · cases hm : t.makeDirectories anchor (made ++ rest).reverse with
        | mk below fault =>
          rw [hm] at hrest
          have hbelow := hrest.mono hlonger
          cases fault with
          | some e => exact hbelow
          | none =>
            simp only
            split
            · next ht =>
              have hwalk' := walk_congr hrest.directory hwalk
              have hhome' := hrest.directory home hhome
              exact hbelow.trans (ensureDirectory_way (p := p) rfl hdots hwalk' hhome' ht)
            · exact hbelow

end Directories

theorem exists_segments {p : Path} (h : p.name ≠ "") :
    ∃ above, p.segments = above ++ [p.name] ∧ p.parent.segments = above ∧
      ∀ t : Tree, (t.temporary p).segments = above ++ [t.temporaryName p.name] := by
  rcases List.eq_nil_or_concat p.segments with hs | ⟨above, name, hs⟩
  · exact absurd (by simp [Path.name, hs]) h
  · have hname : p.name = name := by simp [Path.name, hs]
    exact ⟨above, by simp [hs, hname], by simp [Path.parent, hs],
      fun t => by simp [temporary, Path.withName, hs]⟩

theorem temporaryName_ne_dots (t : Tree) (name : String) : t.temporaryName name ≠ ".." := by
  intro h
  have hlength := congrArg String.length h
  simp only [temporaryName, String.length_append] at hlength
  have hdots : "..".length = 2 := rfl
  have hmiddle : ".tmp.".length = 5 := rfl
  omega

theorem isLower_of_mark {c : Char} (h : (c.isDigit || c.isUpper) = true) : c.isLower = false := by
  have hcapital : c.val ≤ 'Z'.val := by
    rcases (Bool.or_eq_true _ _).mp h with hdigit | hupper
    · have hnine : c.val ≤ '9'.val := of_decide_eq_true ((Bool.and_eq_true _ _).mp hdigit).2
      exact UInt32.le_trans hnine (by decide)
    · have hbounds : c.val ≥ 'A'.val ∧ c.val ≤ 'Z'.val := of_decide_eq_true hupper
      exact hbounds.2
  rw [Bool.eq_false_iff]
  intro hlower
  have hsmall : 'a'.val ≤ c.val := of_decide_eq_true ((Bool.and_eq_true _ _).mp hlower).1
  exact absurd (UInt32.le_trans hsmall hcapital) (by decide)

theorem exists_getLast_mark (i : ProcessId) :
    ∃ c, (".tmp." ++ i.text).toList.getLast? = some c ∧ c.isLower = false := by
  have hmark := List.all_eq_true.1 i.isMark
  rw [String.toList_append, List.getLast?_append]
  cases hlast : i.text.toList.getLast? with
  | none => exact ⟨'.', rfl, rfl⟩
  | some c => exact ⟨c, rfl, isLower_of_mark (hmark c (List.mem_of_getLast? hlast))⟩

theorem append_ne_temporaryName {ending : String}
    (h : ending.toList.getLast?.any Char.isLower = true) (t : Tree) (stem name : String) :
    stem ++ ending ≠ t.temporaryName name := by
  obtain ⟨d, hmark, hd⟩ := exists_getLast_mark t.process
  cases hlast : ending.toList.getLast? with
  | none => simp [hlast] at h
  | some c =>
    rw [hlast, Option.any_some] at h
    exact ne_of_last hlast hmark fun he => by simp [← he, h] at hd

section Write

variable {t moved : Tree} {p : Path} {text : String} {made rest : List String} {home : Location}

/-- What a write that goes through leaves: the text under its name, nothing under the temporary
name, and directories where they were missing on the way to its folder. -/
structure IsWritten (t moved : Tree) (home : Location) (name text : String) : Prop where
  directory : ∀ k, t.entry? k = some .directory → moved.entry? k = some .directory
  file : ∃ stamp, moved.entry? (home ++ [name]) = some (.file text.toUTF8 stamp)
  temporary : moved.entry? (home ++ [t.temporaryName name]) = none
  frame : ∀ k, k ≠ home ++ [name] → k ≠ home ++ [t.temporaryName name] →
    moved.entry? k = t.entry? k ∨ k <+: home ∧ t.entry? k = none ∧ moved.entry? k = some .directory
  rooted : t.IsRooted → moved.IsRooted
  process : moved.process = t.process

theorem temporaryName_ne (t : Tree) (name : String) : t.temporaryName name ≠ name := by
  intro h
  have hlength := congrArg String.length h
  simp only [temporaryName, String.length_append] at hlength
  have hdot : ".".length = 1 := rfl
  omega

/-- A file that moves within a directory. -/
theorem IsWayMade.isWritten {t' : Tree} {name : String} {stamp : Nat} (hway : t.IsWayMade t' home)
    (hhome : t'.entry? home = some .directory)
    (htemporary : t'.entry? (home ++ [t.temporaryName name]) ≠ some .directory)
    (hfree : t'.entry? (home ++ [name]) ≠ some .directory) (hprocess : t'.process = t.process)
    (hmoved : moved = ((t'.put (home ++ [t.temporaryName name]) text.toUTF8).remove
      (home ++ [t.temporaryName name])).set (home ++ [name]) (.file text.toUTF8 stamp)) :
    t.IsWritten moved home name text := by
  have hne : home ++ [t.temporaryName name] ≠ home ++ [name] := fun he =>
    temporaryName_ne t name (List.append_singleton_inj.1 he).2
  have hsame (k : Location) (hk : k ≠ home ++ [name])
      (hk' : k ≠ home ++ [t.temporaryName name]) : moved.entry? k = t'.entry? k := by
    rw [hmoved, entry_set_of_ne hk.symm, entry_remove_of_ne hk'.symm, entry_put_of_ne hk'.symm]
  have hfile : moved.entry? (home ++ [name]) = some (.file text.toUTF8 stamp) := by
    rw [hmoved, entry_set_self (not_isFixed hfree)]
  have hgone : moved.entry? (home ++ [t.temporaryName name]) = none := by
    rw [hmoved, entry_set_of_ne hne.symm, entry_remove_self (not_isFixed htemporary)]
  have hkept (k : Location) (hk : t'.entry? k = some .directory) :
      moved.entry? k = some .directory :=
    (hsame k (fun he => hfree (he ▸ hk)) fun he => htemporary (he ▸ hk)).trans hk
  refine ⟨fun k hk => hkept k (hway.directory k hk), ⟨stamp, hfile⟩, hgone, fun k hk hk' => ?_,
    fun hrooted k s hks => ?_, hmoved ▸ hprocess⟩
  · rw [hsame k hk hk']
    by_cases hkhome : k <+: home
    · exact (hway.grown k).imp_right fun hgrown => ⟨hkhome, hgrown⟩
    · exact Or.inl (hway.frame k hkhome)
  · by_cases hks' : k ++ [s] = home ++ [name]
    · rw [(List.append_singleton_inj.1 hks').1]
      exact hkept home hhome
    · have hks'' : k ++ [s] ≠ home ++ [t.temporaryName name] := fun he => hks (he ▸ hgone)
      rw [hsame _ hks' hks''] at hks
      exact hkept k (hway.rooted hrooted k s hks)

/-- What a write that goes through into a directory, with its last part perhaps still to be made,
does to the tree. -/
theorem isWritten_writeText (h : t.writeText p text = (moved, none))
    (hparent : p.parent.segments = made ++ rest) (hdots : ".." ∉ rest)
    (hwalk : t.walk (start p) made = .ok home) (hhome : t.entry? home = some .directory) :
    t.IsWritten moved (home ++ rest) p.name text := by
  obtain ⟨hname, -, written, hw, hm⟩ := writeText_ok h
  obtain ⟨above, hsegments, habove, htemporary⟩ := exists_segments hname
  have hway := makeDirectories_way p.anchor hdots hwalk hhome
  rw [← hparent] at hway
  have hprocess := process_makeDirectories t p.anchor p.parent.segments.reverse
  generalize (t.makeDirectories p.anchor p.parent.segments.reverse).1 = t' at hway hw hprocess
  have hwalk' : t'.walk (start p) made = .ok home := walk_congr hway.directory hwalk
  obtain ⟨l, hl, hdir, rfl⟩ := writeBytes_ok hw
  obtain ⟨hdot, l₁, l', e, hl₁, hl', he, hdir', rfl⟩ := moveFile_ok hm
  have hput := directory_put hdir text.toUTF8
  obtain rfl := Except.ok.inj ((locate_congr hput hl).symm.trans hl₁)
  rw [entry_put_self (not_isFixed hdir), Option.some.injEq] at he
  subst he
  -- both names lead into the folder, where the temporary one did before the bytes were put there
  have hplace {q : Path} {k : Location} {name : String} (hq : q.segments = above ++ [name])
      (hstart : start q = start p) (hdot : name ≠ "..") {t'' : Tree}
      (hkept : ∀ k, t'.entry? k = some .directory → t''.entry? k = some .directory)
      (hk : t''.locate q = .ok k) : t''.entry? (home ++ rest) = some .directory ∧
        k = home ++ rest ++ [name] := by
    have hk := locate_ok hk
    rw [hq, hstart] at hk
    obtain ⟨home', hhome', hdirectory, rfl⟩ := walk_name hdot hk
    rw [← habove, hparent, walk_append, walk_congr hkept hwalk'] at hhome'
    obtain rfl := walk_eq_append hdots hhome'
    exact ⟨hdirectory, rfl⟩
  obtain ⟨hhome', rfl⟩ := hplace (htemporary t) rfl (temporaryName_ne_dots t p.name) (fun _ hk => hk) hl
  obtain ⟨-, rfl⟩ := hplace hsegments rfl hdot hput hl'
  refine hway.isWritten hhome' hdir ?_ hprocess rfl
  rwa [entry_put_of_ne fun he => temporaryName_ne t p.name (List.append_singleton_inj.1 he).2] at hdir'

end Write

end Tree

/-- Another file in the same directory, and not the one that is written first. -/
structure Path.IsBeside (q p : Path) : Prop where
  anchor : q.anchor = p.anchor
  segments : q.segments = p.parent.segments ++ [q.name]
  ne_dots : q.name ≠ ".."
  ne : q.name ≠ p.name
  ne_temporary : ∀ t : Tree, q.name ≠ t.temporaryName p.name

namespace Tree

section Neighbour

variable {t moved : Tree} {p q : Path} {text : String}

theorem find_of_readText? {s : String} (h : t.readText? p = .ok (some s)) :
    ∃ e, t.find p = .ok e := by
  cases hf : t.find p with
  | ok e => exact ⟨e, rfl⟩
  | error r =>
    cases hz : p.hasZero with
    | true => simp [readText?, holds, probe, hz, Except.map] at h
    | false => cases r <;> simp [readText?, holds, probe, hz, hf, refuse, Except.map] at h

theorem readText?_of_absent (h : t.find p = .error .absent) : t.readText? p = .ok none := by
  cases hz : p.hasZero <;> simp [readText?, holds, probe, hz, h, Except.map]

theorem readText?_of_hasZero (hz : p.hasZero = true) : t.readText? p = .ok none := by
  simp [readText?, holds, probe, hz, Except.map]

theorem readText?_of_directory (hz : p.hasZero = false) (h : t.find p = .ok .directory) :
    t.readText? p = .error (.refused { refusal := .isDirectory, path := p }) := by
  simp [readText?, holds, probe, readText, readBytes, hz, h, refuse, Except.map]

theorem readText?_of_tooLong (hz : p.hasZero = false) (h : t.find p = .error .nameTooLong) :
    t.readText? p = .error (.refused { refusal := .nameTooLong, path := p }) := by
  simp [readText?, holds, probe, hz, h, refuse, Except.map]

theorem readText?_congr {t' : Tree} (h : t'.find p = t.find p) :
    t'.readText? p = t.readText? p := by
  simp only [readText?, holds, probe, readText, readBytes, h]

theorem start_eq (h : q.anchor = p.anchor) : start q = start p := by
  unfold start Path.isAbsolute
  rw [h]

theorem not_prefix_of_longer (l : Location) (s : String) : ¬ l ++ [s] <+: l := fun hp => by
  have hlength := hp.length_le
  rw [List.length_append, List.length_singleton] at hlength
  omega

theorem readText?_beside (h : t.writeText p text = (moved, none)) (hq : q.IsBeside p) {s : String}
    (hread : t.readText? q = .ok (some s)) : moved.readText? q = .ok (some s) := by
  obtain ⟨e, he⟩ := find_of_readText? hread
  obtain ⟨l, hl, hel⟩ := find_ok.1 he
  have hwalk := locate_ok hl
  rw [hq.segments] at hwalk
  obtain ⟨home, hhome, hdirectory, rfl⟩ := walk_name hq.ne_dots hwalk
  rw [start_eq hq.anchor] at hhome
  have hwritten := isWritten_writeText h (List.append_nil _).symm List.not_mem_nil hhome hdirectory
  rw [List.append_nil] at hwritten
  have hsame := (hwritten.frame (home ++ [q.name]) (by simpa using hq.ne)
    (by simpa using hq.ne_temporary t)).resolve_right fun hgrown =>
      not_prefix_of_longer home q.name hgrown.1
  have hfind : moved.find q = .ok e :=
    find_ok.2 ⟨_, locate_congr hwritten.directory hl, hsame.trans hel⟩
  rw [readText?_congr (hfind.trans he.symm), hread]

/-- Nothing gets into a free place beside a file that is written. -/
theorem leadsTo_beside (h : t.writeText p text = (moved, none)) (hq : q.IsBeside p) {l : Location}
    (hl : t.LeadsTo q l) (hnone : t.entry? l = none) :
    moved.LeadsTo q l ∧ moved.entry? l = none := by
  obtain ⟨made, rest, home, hsegments, hdots, hwalk, hhome, rfl⟩ := hl
  rcases List.eq_nil_or_concat rest with rfl | ⟨above, name, rfl⟩
  · rw [List.append_nil, hhome] at hnone
    cases hnone
  · rw [List.concat_eq_append] at hsegments hdots hnone ⊢
    rw [hq.segments, ← List.append_assoc, List.append_singleton_inj] at hsegments
    obtain ⟨hparent, rfl⟩ := hsegments
    rw [start_eq hq.anchor] at hwalk
    have habove : ".." ∉ above := fun hmem => hdots (List.mem_append_left _ hmem)
    have hwritten := isWritten_writeText h hparent habove hwalk hhome
    have hkept := hwritten.directory
    have hsame := (hwritten.frame _ (by simpa using hq.ne) (by simpa using hq.ne_temporary t)).resolve_right
      fun hgrown => not_prefix_of_longer _ q.name hgrown.1
    refine ⟨⟨made, above ++ [q.name], home, ?_, hdots, ?_, hkept home hhome, rfl⟩, ?_⟩
    · rw [hq.segments, hparent, List.append_assoc]
    · rw [start_eq hq.anchor]
      exact walk_congr hkept hwalk
    · rw [← List.append_assoc, hsame, List.append_assoc, hnone]

theorem LeadsTo.readText?_ne {l : Location} (hl : t.LeadsTo q l) (hnone : t.entry? l = none)
    (s : String) : t.readText? q ≠ .ok (some s) := fun hread => by
  obtain ⟨e, he⟩ := find_of_readText? hread
  obtain ⟨k, hk, hke⟩ := find_ok.1 he
  rw [hl.locate_eq hk, hnone] at hke
  cases hke

end Neighbour

end Tree

end GoScaffold
