import GoScaffold.Proofs.GoSource.Binding

/-!
# Texts with marks

A text in which marks stand for names is read like the text with the names themselves: a name holds none
of the characters at which lines, statements and lists are cut. So the functions of the text with names
are those of the text with marks, filled in.
-/
namespace GoScaffold

open GoScaffold.Text

/-- The characters by which functions and statements are told apart. -/
def delimiters : List Char := ['\n', '\t', ' ', '(', ')', '*', ',', ':', '=', '\x7d']

/-- Characters outside ASCII are marks. -/
def isMark (c : Char) : Bool := 128 ≤ c.toNat

/-- Names for the marks of a text. Every other character stands for itself. -/
structure Filling where
  name : Char → List Char
  own : ∀ c, isMark c = false → name c = [c]
  named : ∀ c, isMark c = true → name c ≠ [] ∧ ∀ d ∈ delimiters, d ∉ name c

theorem isMark_delimiter {d : Char} (hd : d ∈ delimiters) : isMark d = false := by
  have hall : delimiters.all (!isMark ·) = true := by decide
  simpa using List.all_eq_true.1 hall d hd

namespace Filling

/-- The names of a list, each with its mark. -/
def ofNames (names : List (Char × String))
    (h : ∀ p ∈ names, isMark p.1 = true ∧ p.2 ≠ "" ∧ Lacks delimiters p.2) : Filling where
  name c := (names.lookup c).elim [c] String.toList
  own c hc := by
    have hnone : names.lookup c = none := by
      rw [List.lookup_eq_none_iff]
      exact fun p hp => bne_iff_ne.2 fun he => absurd ((he ▸ (h p hp).1).symm.trans hc) (by simp)
    rw [hnone, Option.elim_none]
  named c hc := by
    cases hs : names.lookup c with
    | none =>
      refine ⟨by simp, fun d hd hmem => ?_⟩
      rw [← List.mem_singleton.1 hmem, isMark_delimiter hd] at hc
      cases hc
    | some s =>
      obtain ⟨above, below, rfl, -⟩ := List.lookup_eq_some_iff.1 hs
      obtain ⟨-, hne, hlacks⟩ := h (c, s) (by simp)
      exact ⟨fun he => hne (String.toList_eq_nil_iff.1 he), hlacks⟩

theorem ofNames_name {names : List (Char × String)}
    (h : ∀ p ∈ names, isMark p.1 = true ∧ p.2 ≠ "" ∧ Lacks delimiters p.2) {c : Char} {s : String}
    (hs : names.lookup c = some s) : (ofNames names h).name c = s.toList := by
  simp only [ofNames, hs, Option.elim_some]

/-- The text with names for its marks. -/
def fill (f : Filling) (cs : List Char) : List Char := cs.flatMap f.name

variable (f : Filling)

@[simp] theorem fill_nil : f.fill [] = [] := rfl

@[simp] theorem fill_cons (c : Char) (cs : List Char) : f.fill (c :: cs) = f.name c ++ f.fill cs := rfl

@[simp] theorem fill_append (cs ds : List Char) : f.fill (cs ++ ds) = f.fill cs ++ f.fill ds :=
  List.flatMap_append

theorem fill_of_forall {cs : List Char} (h : ∀ c ∈ cs, isMark c = false) : f.fill cs = cs := by
  induction cs with
  | nil => rfl
  | cons c cs ih =>
    rw [List.forall_mem_cons] at h
    rw [fill_cons, f.own c h.1, ih h.2, List.singleton_append]

end Filling

theorem cutAt?_append_of_not_mem {d : Char} {cs : List Char} (h : d ∉ cs) (rest : List Char) :
    cutAt? d (cs ++ rest) = (cutAt? d rest).map fun p => (cs ++ p.1, p.2) := by
  induction cs with
  | nil => simp
  | cons c cs ih =>
    rw [List.mem_cons, not_or] at h
    rw [List.cons_append, cutAt?, if_neg (Ne.symm h.1), ih h.2, Option.map_map]
    rfl

theorem piecesAt_append_of_not_mem {d : Char} {cs : List Char} (h : d ∉ cs) (rest : List Char) :
    piecesAt d (cs ++ rest) = (piecesAt d rest).modifyHead (cs ++ ·) := by
  obtain ⟨w, ws, hws⟩ := List.exists_cons_of_ne_nil (piecesAt_ne_nil d rest)
  induction cs with
  | nil => simp [hws]
  | cons c cs ih =>
    rw [List.mem_cons, not_or] at h
    rw [List.cons_append, piecesAt, if_neg (Ne.symm h.1), ih h.2, hws]
    rfl

namespace Filling

variable (f : Filling)

section Delimiter

variable {d : Char} (hd : d ∈ delimiters)

include hd

theorem name_delimiter : f.name d = [d] := f.own d (isMark_delimiter hd)

theorem not_mem_name {c : Char} (hc : c ≠ d) : d ∉ f.name c := by
  cases hmark : isMark c with
  | true => exact (f.named c hmark).2 d hd
  | false => simpa [f.own c hmark] using Ne.symm hc

theorem mem_fill {cs : List Char} : d ∈ f.fill cs ↔ d ∈ cs := by
  induction cs with
  | nil => simp
  | cons c cs ih =>
    rw [fill_cons, List.mem_append, ih, List.mem_cons]
    by_cases hc : c = d
    · simp [hc, f.name_delimiter hd]
    · simp [f.not_mem_name hd hc, Ne.symm hc]

theorem cutAt?_fill (cs : List Char) :
    cutAt? d (f.fill cs) = (cutAt? d cs).map fun p => (f.fill p.1, f.fill p.2) := by
  induction cs with
  | nil => rfl
  | cons c cs ih =>
    by_cases hc : c = d
    · simp [hc, cutAt?, f.name_delimiter hd]
    · rw [fill_cons, cutAt?_append_of_not_mem (f.not_mem_name hd hc), ih, cutAt?, if_neg hc,
        Option.map_map, Option.map_map]
      rfl

theorem piecesAt_fill (cs : List Char) : piecesAt d (f.fill cs) = (piecesAt d cs).map f.fill := by
  induction cs with
  | nil => rfl
  | cons c cs ih =>
    by_cases hc : c = d
    · simp [hc, piecesAt, f.name_delimiter hd, ih]
    · rw [fill_cons, piecesAt_append_of_not_mem (f.not_mem_name hd hc), ih, piecesAt, if_neg hc]
      obtain ⟨w, ws, hws⟩ := List.exists_cons_of_ne_nil (piecesAt_ne_nil d cs)
      rw [hws]
      rfl

theorem exists_name {c : Char} (hc : c ≠ d) : ∃ e es, f.name c = e :: es ∧ e ≠ d := by
  have hne : f.name c ≠ [] := by
    cases hmark : isMark c with
    | true => exact (f.named c hmark).1
    | false => simp [f.own c hmark]
  obtain ⟨e, es, hname⟩ := List.exists_cons_of_ne_nil hne
  exact ⟨e, es, hname, fun he => f.not_mem_name hd hc (by simp [hname, he])⟩

theorem dropWhile_fill (cs : List Char) :
    (f.fill cs).dropWhile (· == d) = f.fill (cs.dropWhile (· == d)) := by
  induction cs with
  | nil => rfl
  | cons c cs ih =>
    by_cases hc : c = d
    · simp [hc, f.name_delimiter hd, ih]
    · obtain ⟨e, es, hname, he⟩ := f.exists_name hd hc
      rw [List.dropWhile_cons_of_neg (by simpa using hc), fill_cons, hname, List.cons_append,
        List.dropWhile_cons_of_neg (by simpa using he)]

theorem head?_fill (cs : List Char) : (f.fill cs).head? = some d ↔ cs.head? = some d := by
  cases cs with
  | nil => rfl
  | cons c cs =>
    by_cases hc : c = d
    · simp [hc, f.name_delimiter hd]
    · obtain ⟨e, es, hname, he⟩ := f.exists_name hd hc
      simp [hname, he, hc]

end Delimiter

/-- What is spelled with delimiters alone stands there already. -/
theorem fill_eq_iff {cs ds : List Char} (hds : ∀ d ∈ ds, d ∈ delimiters) :
    f.fill cs = ds ↔ cs = ds := by
  induction cs generalizing ds with
  | nil => rfl
  | cons c cs ih =>
    cases ds with
    | nil =>
      by_cases hc : c = ' '
      · simp [hc, f.name_delimiter (d := ' ') (by decide)]
      · obtain ⟨e, es, hname, -⟩ := f.exists_name (d := ' ') (by decide) hc
        simp [hname]
    | cons d ds =>
      rw [List.forall_mem_cons] at hds
      by_cases hc : c = d
      · simp [hc, f.name_delimiter hds.1, ih hds.2]
      · obtain ⟨e, es, hname, he⟩ := f.exists_name hds.1 hc
        simp [hname, he, hc]

end Filling

/-- Without a mark, or with a delimiter, a word is known for what it is whatever the names. -/
def isSettled (word : List Char) : Bool := word.all (!isMark ·) || word.any delimiters.contains

theorem Filling.fill_eq_word_iff (f : Filling)
    {cs word : List Char} (hcs : isSettled cs = true) (hword : ∀ c ∈ word, c ∉ delimiters) :
    f.fill cs = word ↔ cs = word := by
  rw [isSettled, Bool.or_eq_true, List.all_eq_true, List.any_eq_true] at hcs
  rcases hcs with hplain | ⟨d, hmem, hd⟩
  · rw [f.fill_of_forall fun c hc => by simpa using hplain c hc]
  · rw [List.contains_iff_mem] at hd
    have hfill : d ∈ f.fill cs := (f.mem_fill hd).2 hmem
    exact iff_of_false (fun he => hword d (he ▸ hfill) hd) fun he => hword d (he ▸ hmem) hd

section Statements

variable (f : Filling)

theorem Filling.statement?_fill (l : List Char) : statement? (f.fill l) = (statement? l).map f.fill := by
  cases l with
  | nil => rfl
  | cons c cs =>
    by_cases hc : c = '\t'
    · have hhead := f.head?_fill (d := '\t') (by decide) cs
      have hname := f.name_delimiter (d := '\t') (by decide)
      subst hc
      rw [f.fill_cons, hname]
      by_cases hcs : cs.head? = some '\t' <;> simp [statement?, hcs, hhead]
    · obtain ⟨e, es, hname, he⟩ := f.exists_name (d := '\t') (by decide) hc
      rw [f.fill_cons, hname]
      simp [statement?, he, hc]

theorem Filling.assigned?_map (words : List (List Char)) :
    assigned? (words.map f.fill) = (assigned? words).map (List.map f.fill) := by
  induction words with
  | nil => rfl
  | cons word words ih =>
    have hhead : (words.map f.fill).head? = some [':', '='] ↔ words.head? = some [':', '='] := by
      cases words with
      | nil => rfl
      | cons w ws =>
        have hassigns : f.fill w = [':', '='] ↔ w = [':', '='] := f.fill_eq_iff (by simp [delimiters])
        simpa using hassigns
    have hempty (cs : List Char) : f.fill cs = [] ↔ cs = [] := f.fill_eq_iff (by simp)
    rw [List.map_cons, assigned?, assigned?, f.cutAt?_fill (d := ',') (by decide), ih]
    by_cases hassigned : words.head? = some [':', '=']
    · rw [if_pos (hhead.2 hassigned), if_pos hassigned]
      rfl
    · rw [if_neg (hhead.not.2 hassigned), if_neg hassigned]
      cases hcut : cutAt? ',' word with
      | none => rfl
      | some p =>
        obtain ⟨name, rest⟩ := p
        cases rest with
        | nil =>
          simp only [Option.map_some, f.fill_nil, Option.map_map, Function.comp_def, List.map_cons]
        | cons c cs =>
          have hne : f.fill (c :: cs) ≠ [] := (hempty _).not.2 (by simp)
          obtain ⟨e, es, hfill⟩ := List.exists_cons_of_ne_nil hne
          rw [Option.map_some, hfill]
          rfl

theorem Filling.declaredBy_map {words : List (List Char)}
    (h : words.head?.all isSettled = true) :
    declaredBy (words.map f.fill) = (declaredBy words).map f.fill := by
  have hvar : (words.map f.fill).head? = some "var".toList ↔ words.head? = some "var".toList := by
    cases words with
    | nil => rfl
    | cons w ws =>
      have hdeclares : f.fill w = "var".toList ↔ w = "var".toList :=
        f.fill_eq_word_iff h (by simp [delimiters])
      simpa using hdeclares
  rw [declaredBy, declaredBy, f.assigned?_map]
  cases assigned? words with
  | some names => rfl
  | none =>
    simp only [Option.map_none, hvar]
    split_ifs
    · rcases words with _ | ⟨first, _ | ⟨name, words⟩⟩ <;> rfl
    · rfl

end Statements

/-- What is read of the line does not depend on the names for its marks. -/
def isSettledLine (type l : List Char) : Bool :=
  ((cutAt? ' ' l).all fun p => isSettled p.1) &&
  ((receiver? l).all fun p => ('*' :: (type ++ [')', ' '])).isPrefixOf p.2) &&
  ((statement? l).all fun cs => (piecesAt ' ' cs).head?.all isSettled)

section Functions

variable (f : Filling) {type l : List Char}

theorem Filling.boundBy_fill (h : isSettledLine type l = true) :
    boundBy (f.fill l) = (boundBy l).map f.fill := by
  simp only [isSettledLine, Bool.and_eq_true] at h
  have hstatement := h.2
  rw [boundBy, boundBy, f.statement?_fill]
  cases hl : statement? l with
  | none => rfl
  | some cs =>
    rw [hl, Option.all_some] at hstatement
    simp [f.piecesAt_fill (d := ' ') (by decide), f.declaredBy_map hstatement]

theorem Filling.receiver?_fill (h : (cutAt? ' ' l).all (fun p => isSettled p.1) = true) :
    receiver? (f.fill l) = (receiver? l).map fun p => (f.fill p.1, f.fill p.2) := by
  have hempty (cs : List Char) : f.fill cs = [] ↔ cs = [] := f.fill_eq_iff (by simp)
  have hblank (cs : List Char) := f.cutAt?_fill (d := ' ') (by decide) cs
  have hopening (cs : List Char) := f.cutAt?_fill (d := '(') (by decide) cs
  rw [receiver?, receiver?, hblank]
  cases hfirst : cutAt? ' ' l with
  | none => rfl
  | some p =>
    rw [hfirst, Option.all_some] at h
    have hfunc : f.fill p.1 = "func".toList ↔ p.1 = "func".toList :=
      f.fill_eq_word_iff h (by simp [delimiters])
    simp only [Option.map_some, Option.bind_eq_bind, Option.bind_some, hblank]
    cases cutAt? ' ' p.2 with
    | none => rfl
    | some q =>
      simp only [Option.map_some, Option.bind_some, hopening]
      cases cutAt? '(' q.1 with
      | none => rfl
      | some r =>
        simp only [Option.map_some, Option.bind_some, hfunc, hempty]
        split_ifs <;> rfl

theorem Filling.parameterNames?_fill (cs : List Char) :
    parameterNames? (f.fill cs) = (parameterNames? cs).map (List.map f.fill) := by
  have hname (ds : List Char) : parameterName? (f.fill ds) = (parameterName? ds).map f.fill := by
    simp [parameterName?, f.dropWhile_fill (d := ' ') (by decide), f.cutAt?_fill (d := ' ') (by decide),
      Function.comp_def]
  have hnames (pieces : List (List Char)) :
      (pieces.map f.fill).mapM parameterName? = (pieces.mapM parameterName?).map (List.map f.fill) := by
    induction pieces with
    | nil => rfl
    | cons ds pieces ih =>
      rw [List.map_cons, List.mapM_cons, List.mapM_cons, hname, ih]
      cases parameterName? ds <;> cases pieces.mapM parameterName? <;> rfl
  have hempty : f.fill cs = [] ↔ cs = [] := f.fill_eq_iff (by simp)
  rw [parameterNames?, parameterNames?, f.piecesAt_fill (d := ',') (by decide), hnames]
  simp only [hempty]
  split_ifs <;> rfl

theorem Filling.dropPrefix?_fill {start cs : List Char} (h : start.isPrefixOf cs = true) :
    (f.fill cs).dropPrefix? (f.fill start) = (cs.dropPrefix? start).map f.fill := by
  obtain ⟨rest, rfl⟩ := List.isPrefixOf_iff_prefix.1 h
  rw [f.fill_append, List.dropPrefix?_append_of_beq _ BEq.rfl, List.dropPrefix?_append_of_beq _ BEq.rfl,
    Option.map_some]

theorem Filling.openedBy?_fill (h : isSettledLine type l = true) :
    openedBy? (f.fill type) (f.fill l) =
      (openedBy? type l).map fun p => (f.fill p.1, p.2.map f.fill) := by
  simp only [isSettledLine, Bool.and_eq_true] at h
  obtain ⟨⟨hfirst, htype⟩, -⟩ := h
  have hstart : '*' :: (f.fill type ++ [')', ' ']) = f.fill ('*' :: (type ++ [')', ' '])) := by
    have hends : f.fill [')', ' '] = [')', ' '] := (f.fill_eq_iff (by simp [delimiters])).2 rfl
    rw [f.fill_cons, f.fill_append, hends, f.name_delimiter (d := '*') (by decide), List.singleton_append]
  rw [openedBy?, openedBy?, f.receiver?_fill hfirst, hstart]
  cases hreceiver : receiver? l with
  | none => rfl
  | some p =>
    rw [hreceiver, Option.all_some] at htype
    simp only [Option.map_some, Option.bind_eq_bind, Option.bind_some, f.dropPrefix?_fill htype]
    cases p.2.dropPrefix? ('*' :: (type ++ [')', ' '])) with
    | none => rfl
    | some signature =>
      simp only [Option.map_some, Option.bind_some, f.cutAt?_fill (d := '(') (by decide)]
      cases cutAt? '(' signature with
      | none => rfl
      | some q =>
        simp only [Option.map_some, Option.bind_some, f.cutAt?_fill (d := ')') (by decide)]
        cases cutAt? ')' q.2 with
        | none => rfl
        | some r =>
          simp only [Option.map_some, Option.bind_some, f.parameterNames?_fill]
          cases parameterNames? r.1 <;> rfl

/-- The functions among lines with names are those among lines with marks, filled in. -/
theorem Filling.functionsAmong_map {ls : List (List Char)}
    (h : ls.all (isSettledLine type) = true) :
    functionsAmong (f.fill type) (ls.map f.fill) = (functionsAmong type ls).map (·.map f.fill) := by
  have hclosing (l : List Char) : (f.fill l != ['\x7d']) = (l != ['\x7d']) := by
    rw [Bool.eq_iff_iff, bne_iff_ne, bne_iff_ne, Ne, f.fill_eq_iff (by simp [delimiters])]
  induction ls with
  | nil => rfl
  | cons l ls ih =>
    rw [List.all_cons, Bool.and_eq_true] at h
    have hbody : ((ls.takeWhile (· != ['\x7d'])).map f.fill).map boundBy =
        ((ls.takeWhile (· != ['\x7d'])).map boundBy).map (List.map f.fill) := by
      rw [List.map_map, List.map_map]
      refine List.map_congr_left fun m hm => ?_
      have hsettled := List.all_eq_true.1 h.2 m (List.takeWhile_subset _ hm)
      rw [Function.comp_apply, Function.comp_apply, f.boundBy_fill hsettled]
    rw [List.map_cons, functionsAmong, functionsAmong, f.openedBy?_fill h.1, ih h.2]
    cases openedBy? type l with
    | none => rfl
    | some p =>
      rw [List.takeWhile_map]
      simp [GoFunction.map, Function.comp_def, hclosing, hbody, List.filter_map]

end Functions

end GoScaffold
