import GoScaffold.Proofs.Template.Stocked
import GoScaffold.Proofs.Text.Pieces
import Mathlib.Data.List.Lex
import Mathlib.Data.String.Basic

/-!
# The files of a template

A template with a plain name can stand in several files of the template directory, one for each
ending, and in files whose names have backslashes for slashes. In the order of paths the file with
the ending `.go.j2` comes first, the one that is written for a built-in template next, and all
others behind these two.
-/
namespace GoScaffold

open GoScaffold.Text

namespace Template

/-- A segment that is neither empty nor made of dots that lead elsewhere. -/
structure IsPlainSegment (s : String) : Prop where
  segment : Path.isSegment s = true
  up : s ≠ ".."
  slash : '/' ∉ s.toList
  backslash : '\\' ∉ s.toList

instance (s : String) : Decidable (IsPlainSegment s) :=
  decidable_of_iff (Path.isSegment s = true ∧ s ≠ ".." ∧ '/' ∉ s.toList ∧ '\\' ∉ s.toList)
    ⟨fun ⟨segment, up, slash, backslash⟩ => ⟨segment, up, slash, backslash⟩,
      fun h => ⟨h.segment, h.up, h.slash, h.backslash⟩⟩

/-- The name consists of plain segments between slashes. -/
def IsPlainName (name : String) : Prop :=
  ∃ above last, name = join "/" (above ++ [last]) ∧ ∀ s ∈ above ++ [last], IsPlainSegment s

section Segments

variable {above : List String} {last ending name path : String}

theorem join_concat_append (above : List String) (last ending : String) :
    join "/" (above ++ [last ++ ending]) = join "/" (above ++ [last]) ++ ending := by
  induction above with
  | nil => rfl
  | cons s above ih =>
    cases above with
    | nil => simp [join, String.append_assoc]
    | cons t above =>
      simp only [List.cons_append, join] at ih ⊢
      rw [ih]
      simp only [String.append_assoc]

theorem IsPlainSegment.append (h : IsPlainSegment last) (hending : ending ∈ templateEndings) :
    IsPlainSegment (last ++ ending) := by
  have hall : ∀ e ∈ templateEndings, 3 ≤ e.length ∧ '/' ∉ e.toList ∧ '\\' ∉ e.toList := by decide
  obtain ⟨hlength, hslash, hbackslash⟩ := hall ending hending
  have hlong : 3 ≤ (last ++ ending).length := by
    rw [String.length_append]
    omega
  have hne (s : String) (hs : s.length < 3) : last ++ ending ≠ s := by
    rintro rfl
    omega
  refine ⟨?_, hne ".." (by decide), ?_, ?_⟩
  · simp [Path.isSegment, hne "" (by decide), hne "." (by decide)]
  · simp [h.slash, hslash]
  · simp [h.backslash, hbackslash]

theorem isPlainSegment_concat (h : ∀ s ∈ above ++ [last], IsPlainSegment s)
    (hending : ending ∈ templateEndings) :
    ∀ s ∈ above ++ [last ++ ending], IsPlainSegment s := by
  simp only [List.forall_mem_append, List.forall_mem_singleton] at h ⊢
  exact ⟨h.1, h.2.append hending⟩

theorem ofString_join {segments : List String} (hne : segments ≠ [])
    (h : ∀ s ∈ segments, IsPlainSegment s) :
    Path.ofString (join "/" segments) = { segments } := by
  have hsplit : splitAt '/' (join "/" segments) = segments :=
    splitAt_join hne fun s hs => (h s hs).slash
  have hanchor : Path.anchorOf (join "/" segments).toList = "" := by
    obtain ⟨s, rest, rfl⟩ := List.exists_cons_of_ne_nil hne
    have hs := h s (List.mem_cons_self ..)
    have hstart : ∃ c cs, (join "/" (s :: rest)).toList = c :: cs ∧ c ≠ '/' := by
      obtain ⟨c, cs, hc⟩ : ∃ c cs, s.toList = c :: cs := by
        apply List.exists_cons_of_ne_nil
        simpa [Path.isSegment] using fun he => by simpa [Path.isSegment, he] using hs.segment
      have hslash : c ≠ '/' := by
        rintro rfl
        exact hs.slash (by simp [hc])
      cases rest with
      | nil => exact ⟨c, cs, hc, hslash⟩
      | cons t rest => exact ⟨c, _, by simp only [join, String.toList_append, hc]; rfl, hslash⟩
    obtain ⟨c, cs, hc, hslash⟩ := hstart
    rw [hc]
    simp [Path.anchorOf, hslash]
  rw [Path.ofString, hsplit, hanchor, List.filter_eq_self.2 fun s hs => (h s hs).segment]

theorem join_ne_empty (h : ∀ s ∈ above ++ [last], IsPlainSegment s) :
    join "/" (above ++ [last]) ≠ "" := by
  intro hempty
  have hsplit : splitAt '/' (join "/" (above ++ [last])) = above ++ [last] :=
    splitAt_join (by simp) fun s hs => (h s hs).slash
  have hlast : IsPlainSegment last := h last (by simp)
  rw [hempty] at hsplit
  obtain ⟨-, rfl⟩ := List.append_singleton_inj.1 (show [] ++ [""] = above ++ [last] from hsplit)
  exact absurd hlast.segment (by decide)

theorem backslash_join (h : ∀ s ∈ above ++ [last], IsPlainSegment s) :
    '\\' ∉ (join "/" (above ++ [last])).toList := by
  intro hmem
  rcases mem_join hmem with hslash | ⟨s, hs, hmem⟩
  · exact absurd hslash (by decide)
  · exact (h s hs).backslash hmem

end Segments

def slashed (cs : List Char) : List Char := cs.map fun c => if c = '\\' then '/' else c

theorem slashed_append (cs ds : List Char) : slashed (cs ++ ds) = slashed cs ++ slashed ds :=
  List.map_append

theorem slashed_of_not_mem {cs : List Char} (h : '\\' ∉ cs) : slashed cs = cs := by
  have hsame : ∀ c ∈ cs, (if c = '\\' then '/' else c) = id c := by
    intro c hc
    rw [if_neg, id]
    rintro rfl
    exact h hc
  rw [slashed, List.map_congr_left hsame, List.map_id]

theorem eq_of_slashed {cs ds : List Char} (h : slashed cs = ds) (hslash : '/' ∉ ds) : cs = ds := by
  subst h
  rw [slashed_of_not_mem]
  intro hmem
  exact hslash (List.mem_map.2 ⟨_, hmem, if_pos rfl⟩)

theorem toList_replace_backslash (path : String) :
    (replace "\\" "/" path).toList = slashed path.toList := by
  have hall (cs : List Char) : replaceFrom ['\\'] ['/'] 0 cs = slashed cs := by
    induction cs with
    | nil => rfl
    | cons c cs ih =>
      rw [replaceFrom]
      by_cases hc : c = '\\'
      · simpa [slashed, hc] using ih
      · simpa [slashed, hc, Ne.symm hc] using ih
  rw [replace, if_neg (by decide), String.toList_ofList]
  exact hall _

section Logical

variable {path name ending : String}

theorem slashed_of_logicalName? (h : logicalName? path = some name) :
    ∃ e ∈ templateEndings, slashed path.toList = name.toList ++ e.toList := by
  rw [logicalName?, Option.map_eq_some_iff] at h
  obtain ⟨e, hfind, rfl⟩ := h
  refine ⟨e, List.mem_of_find?_eq_some hfind, ?_⟩
  have hends := List.find?_some hfind
  rw [endsWith, List.isSuffixOf_iff_suffix] at hends
  obtain ⟨before, hbefore⟩ := hends
  have hlength : (replace "\\" "/" path).length - e.length = before.length := by
    rw [← String.length_toList, ← String.length_toList, ← hbefore, List.length_append]
    omega
  rw [← toList_replace_backslash, hlength, ← hbefore, List.take_left, String.toList_ofList]

theorem logicalName?_append (h : '\\' ∉ name.toList)
    (hending : ending = ".go.j2" ∨ ending = ".go.tmpl") :
    logicalName? (name ++ ending) = some name := by
  have hpath : (replace "\\" "/" (name ++ ending)).toList = name.toList ++ ending.toList := by
    rw [toList_replace_backslash, slashed_of_not_mem, String.toList_append]
    rcases hending with rfl | rfl
    · simp [h]
    · simp [h]
  have hends : endsWith (replace "\\" "/" (name ++ ending)) ending = true := by
    rw [endsWith, hpath, List.isSuffixOf_iff_suffix]
    exact List.suffix_append _ _
  have hfind : templateEndings.find? (endsWith (replace "\\" "/" (name ++ ending))) = some ending := by
    rcases hending with rfl | rfl
    · rw [templateEndings, List.find?_cons_of_pos hends]
    · have hother : ¬ endsWith (replace "\\" "/" (name ++ ".go.tmpl")) ".go.j2" = true := by
        rw [endsWith, hpath, List.isSuffixOf_iff_suffix]
        rintro ⟨before, hbefore⟩
        have hlast := congrArg List.getLast? hbefore
        simp at hlast
      rw [templateEndings, List.find?_cons_of_neg hother, List.find?_cons_of_pos hends]
  have hlength : (replace "\\" "/" (name ++ ending)).length - ending.length = name.length := by
    rw [← String.length_toList, hpath, List.length_append, String.length_toList,
      String.length_toList]
    omega
  simp only [logicalName?, hfind, Option.map_some, hlength, hpath]
  rw [← String.length_toList, List.take_left, String.ofList_toList]

end Logical

section Order

variable {t : Tree} {l : Location} {segments file above : List String} {last ending : String}

theorem slashed_join (hne : file ≠ []) : piecesAt '/' (slashed (join "/" file).toList) =
    file.flatMap fun s => piecesAt '/' (slashed s.toList) := by
  induction file with
  | nil => exact absurd rfl hne
  | cons s file ih =>
    cases file with
    | nil => simp [join]
    | cons s' file =>
      have hslash : slashed "/".toList = ['/'] := rfl
      rw [join, List.flatMap_cons, ← ih (by simp), ← piecesAt_separated, String.toList_append,
        String.toList_append, slashed_append, slashed_append, hslash, List.append_assoc]
      rfl

/-- A file that is named like others by its segments has these segments, or several of them in one. -/
theorem eq_or_exists_of_slashed
    (h : segments.map String.toList = file.flatMap fun s => piecesAt '/' (slashed s.toList)) :
    file = segments ∨ ∃ before s after more rest, segments = before ++ s :: after ∧ after ≠ [] ∧
      file = before ++ (s ++ more) :: rest ∧ more ≠ "" := by
  induction file generalizing segments with
  | nil => exact Or.inl (List.map_eq_nil_iff.1 h).symm
  | cons s file ih =>
    by_cases hslash : '/' ∈ slashed s.toList
    · right
      obtain ⟨first, rest, hfirst, hbefore⟩ := List.eq_append_cons_of_mem hslash
      obtain ⟨cs, ds, hcs, hsame, hrest⟩ := List.map_eq_append_iff.1 hfirst
      obtain rfl := eq_of_slashed hsame hbefore
      rw [List.flatMap_cons, hfirst, piecesAt_append hbefore, List.cons_append,
        List.map_eq_cons_iff] at h
      obtain ⟨s', after, rfl, hs', hafter⟩ := h
      have hs : s = s' ++ .ofList ds := by
        rw [← String.toList_inj, hcs, String.toList_append, hs', String.toList_ofList]
      refine ⟨[], s', after, .ofList ds, file, rfl, ?_, by rw [hs]; rfl, ?_⟩
      · rintro rfl
        exact piecesAt_ne_nil '/' rest (List.append_eq_nil_iff.1 hafter.symm).1
      · intro he
        obtain rfl : ds = [] := by simpa using congrArg String.toList he
        cases hrest
    · have hs := eq_of_slashed rfl hslash
      rw [List.flatMap_cons, piecesAt_of_not_mem hslash, List.singleton_append,
        List.map_eq_cons_iff] at h
      obtain ⟨s', segments, rfl, hs', h⟩ := h
      obtain rfl := String.toList_inj.1 (hs'.trans hs.symm)
      rcases ih h with rfl | ⟨before, t, after, more, rest, rfl, hafter, rfl, hmore⟩
      · exact Or.inl rfl
      · exact Or.inr ⟨s' :: before, t, after, more, rest, rfl, hafter, rfl, hmore⟩

theorem lt_of_longer_segment {before after rest : List String} {s more : String} (hmore : more ≠ "") :
    before ++ s :: after < before ++ (s ++ more) :: rest := by
  have hs : s < s ++ more := by
    obtain ⟨c, cs, hcs⟩ := List.exists_cons_of_ne_nil (show more.toList ≠ [] by simpa using hmore)
    rw [String.lt_iff_toList_lt, String.toList_append, hcs]
    have hlex := List.Lex.append_left (· < ·) (List.Lex.nil (a := c) (l := cs)) s.toList
    rwa [List.append_nil, ← List.lt_iff_lex_lt] at hlex
  exact (List.lt_iff_lex_lt _ _).2 (List.Lex.append_left _ (.rel hs) before)

/-- A template of a plain name is in the file of the name with an ending, or in one that comes behind
all of these. -/
theorem file_of_logicalName? (hplain : ∀ s ∈ above ++ [last], IsPlainSegment s)
    (h : logicalName? (join "/" file) = some (join "/" (above ++ [last]))) :
    ".." ∉ file ∧ ((∃ e ∈ templateEndings, file = above ++ [last ++ e]) ∨
      ∀ ending, above ++ [last ++ ending] < file) := by
  obtain ⟨e, he, hfile⟩ := slashed_of_logicalName? h
  have hsegments := isPlainSegment_concat hplain he
  have hne : file ≠ [] := by
    rintro rfl
    have hending : ∀ e ∈ templateEndings, e.toList ≠ [] := by decide
    exact hending e he (List.append_eq_nil_iff.1 hfile.symm).2
  rw [← String.toList_append, ← join_concat_append] at hfile
  have hpieces : (above ++ [last ++ e]).map String.toList =
      file.flatMap fun s => piecesAt '/' (slashed s.toList) := by
    have hsplit : splitAt '/' (join "/" (above ++ [last ++ e])) = above ++ [last ++ e] :=
      splitAt_join (by simp) fun s hs => (hsegments s hs).slash
    rw [← slashed_join hne, hfile]
    nth_rewrite 1 [← hsplit]
    simp [splitAt]
  constructor
  · intro hdots
    have hmem : "..".toList ∈ (above ++ [last ++ e]).map String.toList := by
      rw [hpieces]
      exact List.mem_flatMap.2 ⟨"..", hdots, by decide⟩
    obtain ⟨s, hs, heq⟩ := List.mem_map.1 hmem
    exact (hsegments s hs).up (String.toList_inj.1 heq)
  · rcases eq_or_exists_of_slashed hpieces with hfile | ⟨before, s, after, more, rest, hss, hafter, rfl, hmore⟩
    · exact Or.inl ⟨e, he, hfile⟩
    · right
      intro ending
      obtain ⟨after, z, rfl⟩ := List.eq_nil_or_concat after |>.resolve_left hafter
      rw [List.concat_eq_append, ← List.cons_append, ← List.append_assoc,
        List.append_singleton_inj] at hss
      rw [hss.1, List.append_assoc]
      exact lt_of_longer_segment hmore

/-- The file that is found first stands before all others like it. -/
theorem find?_filesBelow {p : List String → Bool} {x : List String}
    (h : (t.filesBelow l).find? p = some x) :
    p x = true ∧ x ∈ t.filesBelow l ∧ ∀ y ∈ t.filesBelow l, p y = true → x ≤ y := by
  obtain ⟨hx, before, after, hsplit, hbefore⟩ := List.find?_eq_some_iff_append.1 h
  refine ⟨hx, List.mem_of_find?_eq_some h, ?_⟩
  have hsorted : (t.filesBelow l).Pairwise fun a b => a ≤ b := by
    refine (List.pairwise_mergeSort ?_ ?_ _).imp ?_
    all_goals simp only [Bool.not_eq_true', ← Bool.not_eq_true, List.lex_eq_true_iff_lt, not_lt,
      Bool.or_eq_true]
    · exact fun a b c => le_trans
    · exact fun a b => le_total a b
    · exact fun h => h
  intro y hy hpy
  rw [hsplit] at hy hsorted
  rcases List.mem_append.1 hy with hy | hy
  · exact absurd hpy (by simpa using hbefore y hy)
  · rcases List.mem_cons.1 hy with rfl | hy
    · exact le_rfl
    · exact List.rel_of_pairwise_cons (List.pairwise_append.1 hsorted).2.1 hy

theorem lt_of_ending {ending' : String} (h : ending < ending') :
    above ++ [last ++ ending] < above ++ [last ++ ending'] := by
  have hlast : last ++ ending < last ++ ending' := by
    rw [String.lt_iff_toList_lt, String.toList_append, String.toList_append]
    rw [String.lt_iff_toList_lt] at h
    exact (List.lt_iff_lex_lt _ _).2
      (List.Lex.append_left _ ((List.lt_iff_lex_lt _ _).1 h) last.toList)
  exact (List.lt_iff_lex_lt _ _).2 (List.Lex.append_left _ (.rel hlast) above)

/-- Of the files of a plain name, the one with the ending `.go.j2` is found first, and the one with
the ending `.go.tmpl` where there is none. -/
theorem find?_of_plain (hplain : ∀ s ∈ above ++ [last], IsPlainSegment s)
    (hmem : above ++ [last ++ ".go.tmpl"] ∈ t.filesBelow l) :
    ((t.filesBelow l).find? fun file => decide (join "/" (above ++ [last]) ≠ "" ∧
        logicalName? (join "/" file) = some (join "/" (above ++ [last])))) =
      some (above ++ [last ++ if above ++ [last ++ ".go.j2"] ∈ t.filesBelow l then ".go.j2"
        else ".go.tmpl"]) := by
  have hlogical {ending : String} (hending : ending = ".go.j2" ∨ ending = ".go.tmpl") :
      logicalName? (join "/" (above ++ [last ++ ending])) = some (join "/" (above ++ [last])) := by
    rw [join_concat_append]
    exact logicalName?_append (backslash_join hplain) hending
  have hne := join_ne_empty hplain
  cases hfind : (t.filesBelow l).find? _ with
  | none => exact absurd (decide_eq_true ⟨hne, hlogical (Or.inr rfl)⟩) (List.find?_eq_none.1 hfind _ hmem)
  | some file =>
    obtain ⟨hfile, hthere, hleast⟩ := find?_filesBelow hfind
    have hfirst {ending : String} (hending : ending = ".go.j2" ∨ ending = ".go.tmpl")
        (hmem : above ++ [last ++ ending] ∈ t.filesBelow l) : ¬ above ++ [last ++ ending] < file :=
      not_lt.2 (hleast _ hmem (decide_eq_true ⟨hne, hlogical hending⟩))
    obtain ⟨-, ⟨e, he, rfl⟩ | hbehind⟩ := file_of_logicalName? hplain (of_decide_eq_true hfile).2
    · have hj2 : ∀ e ∈ templateEndings, e = ".go.j2" ∨ ".go.j2" < e := by decide
      have htmpl : ∀ e ∈ templateEndings, e = ".go.j2" ∨ e = ".go.tmpl" ∨ ".go.tmpl" < e := by decide
      split
      · next hmem' =>
        rw [(hj2 e he).resolve_right fun hlt => hfirst (Or.inl rfl) hmem' (lt_of_ending hlt)]
      · next hmem' =>
        have hnot : e ≠ ".go.j2" := by
          rintro rfl
          exact hmem' hthere
        rw [((htmpl e he).resolve_left hnot).resolve_right fun hlt =>
          hfirst (Or.inr rfl) hmem (lt_of_ending hlt)]
    · exact absurd (hbehind ".go.tmpl") (hfirst (Or.inr rfl) hmem)

end Order

namespace Shelf

/-- The file that is found in front of the one that a built-in template is written to. -/
def rival (dir : Path) (name : String) : Path := dir / (name ++ ".go.j2")

section Files

variable {t : Tree} {dir : Path} {l home : Location} {above file : List String}
  {last ending name : String}

theorem isInside_of_plain (h : ∀ s ∈ above ++ [last], IsPlainSegment s) :
    Tree.isInside (above ++ [last]) = true := by
  obtain ⟨s, rest, hs⟩ := List.exists_cons_of_ne_nil (show above ++ [last] ≠ [] by simp)
  have hplain := h s (hs ▸ List.mem_cons_self ..)
  have hne (s' : String) (hslash : '/' ∈ s'.toList) : s ≠ s' := by
    rintro rfl
    exact hplain.slash hslash
  simp [hs, Tree.isInside, List.isPrefixOf, hplain.up.symm, (hne "/" (by decide)).symm,
    (hne "//" (by decide)).symm]

theorem isFileOf_of_plain (h : ∀ s ∈ above ++ [last], IsPlainSegment s)
    (hending : ending = ".go.j2" ∨ ending = ".go.tmpl") :
    IsFileOf (above ++ [last ++ ending]) (join "/" (above ++ [last])) := by
  have hmem : ending ∈ templateEndings := by
    rcases hending with rfl | rfl <;> decide
  have hplain := isPlainSegment_concat h hmem
  refine ⟨join_ne_empty h, fun hdots => (hplain _ hdots).up rfl, isInside_of_plain hplain, ?_⟩
  rw [join_concat_append]
  exact logicalName?_append (backslash_join h) hending

/-- A template of a plain name has its file in a place of its own below the directory. -/
theorem div_of_plain (h : ∀ s ∈ above ++ [last], IsPlainSegment s) (hending : ending ∈ templateEndings) :
    dir / (join "/" (above ++ [last]) ++ ending) = Tree.below dir (above ++ [last ++ ending]) := by
  show Path.append dir _ = _
  rw [← join_concat_append, ofString_join (by simp) (isPlainSegment_concat h hending)]
  rfl

theorem entry_of_mem_filesBelow (hdistinct : t.IsDistinct) (hfree : Tree.isFixed (l ++ file) = false)
    (h : file ∈ t.filesBelow l) : ∃ bytes stamp, t.entry? (l ++ file) = some (.file bytes stamp) := by
  rw [Tree.filesBelow, List.mem_mergeSort, List.mem_filterMap] at h
  obtain ⟨⟨l', e⟩, hmem, hlisted⟩ := h
  cases e with
  | directory => cases hlisted
  | file bytes stamp =>
    simp only [Option.ite_none_right_eq_some, Option.some.injEq, Bool.and_eq_true,
      List.isPrefixOf_iff_prefix] at hlisted
    obtain ⟨⟨⟨rest, rfl⟩, -⟩, hfile⟩ := hlisted
    rw [List.drop_left] at hfile
    subst hfile
    exact ⟨bytes, stamp, by rw [Tree.entry?, hfree]; exact OrderedMap.get?_of_mem hdistinct hmem⟩

theorem isInside_of_mem (h : file ∈ t.filesBelow l) : Tree.isInside file = true := by
  rw [Tree.filesBelow, List.mem_mergeSort, List.mem_filterMap] at h
  obtain ⟨⟨l', e⟩, -, hlisted⟩ := h
  cases e with
  | directory => cases hlisted
  | file bytes stamp =>
    simp only [Option.ite_none_right_eq_some, Option.some.injEq, Bool.and_eq_true] at hlisted
    exact hlisted.2 ▸ hlisted.1.2

theorem not_isFixed_of_plain (h : IsPlainSegment last) (l : Location) :
    Tree.isFixed (l ++ [last]) = false := by
  have hne (s : String) (hslash : '/' ∈ s.toList) : l ++ [last] ≠ [s] := by
    intro he
    obtain ⟨-, rfl⟩ := List.append_singleton_inj.1 (show l ++ [last] = [] ++ [s] from he)
    exact h.slash hslash
  simp [Tree.isFixed, h.up, hne "/" (by decide), hne "//" (by decide)]

theorem locate_shorter {s s' : String} (hs : s ≠ "..") (hs' : s' ≠ "..")
    (hsize : s'.utf8ByteSize ≤ s.utf8ByteSize)
    (hl : t.locate (Tree.below dir (above ++ [s])) = .ok l) :
    ∃ k, l = k ++ [s] ∧ t.locate (Tree.below dir (above ++ [s'])) = .ok (k ++ [s']) := by
  have hsegments (s : String) :
      (Tree.below dir (above ++ [s])).segments = (dir.segments ++ above) ++ [s] := by
    rw [Tree.below, List.append_assoc]
  have htext {s : String} : (Tree.below dir (above ++ [s])).text =
      dir.anchor ++ join "/" ((dir.segments ++ above) ++ [s]) := by
    rw [← hsegments]
    exact Tree.text_of_ne_nil (by simp)
  have hshort : (Tree.below dir (above ++ [s])).text.utf8ByteSize ≤ Tree.longestPath := by
    rw [Tree.locate] at hl
    split at hl
    · cases hl
    · next hshort => exact Nat.not_lt.1 hshort
  have hshorter : (Tree.below dir (above ++ [s'])).text.utf8ByteSize ≤ Tree.longestPath := by
    have hjoin := size_join_concat "/" (dir.segments ++ above) hsize
    rw [htext, String.utf8ByteSize_append] at hshort ⊢
    omega
  have hwalk := Tree.locate_ok hl
  rw [hsegments] at hwalk
  obtain ⟨k, hk, hdirectory, rfl⟩ := Tree.walk_name hs hwalk
  have hname := Tree.locate_concat (hsegments s) hshort hk hdirectory hs
  rw [hl] at hname
  have hlong : ¬ Tree.longestName < s'.utf8ByteSize := by
    split at hname
    · cases hname
    · omega
  refine ⟨k, rfl, ?_⟩
  rw [Tree.locate_concat (hsegments s') hshorter hk hdirectory hs', if_neg hlong]

/-- A plain name is one of a file. -/
theorem isFileName_of_plain (h : IsPlainName name) : IsFileName name := by
  obtain ⟨above, last, rfl, hplain⟩ := h
  have hfile := isFileOf_of_plain hplain (Or.inr rfl)
  have hpath : Path.ofString (join "/" (above ++ [last]) ++ ".go.tmpl") =
      { segments := above ++ [last ++ ".go.tmpl"] } := by
    rw [← join_concat_append]
    exact ofString_join (by simp) (isPlainSegment_concat hplain (by decide))
  exact ⟨hfile.ne, by rw [hpath], by rw [hpath]; exact hfile.down, by rw [hpath]; exact hfile.inside,
    by rw [hpath]; exact hfile.logical⟩

end Files

end Shelf

end Template
end GoScaffold
