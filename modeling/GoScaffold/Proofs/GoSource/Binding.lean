import GoScaffold.Proofs.GoSource.Signature

/-!
# Names bound in generated functions

The functions that a text defines for a type, and the names that the receiver, the parameters and the
statements of each of them bind. Only the statements at the top level of a body count: what a block
inside binds is gone behind it.
-/
namespace GoScaffold

open GoScaffold.Text

/-- The statement on a line at the top level of a body. -/
def statement? : List Char → Option (List Char)
  | '\t' :: cs => if cs.head? = some '\t' then none else some cs
  | _ => none

/-- The names in front of `:=` among the words of a statement, with a comma behind each but the last. -/
def assigned? : List (List Char) → Option (List (List Char))
  | [] => none
  | word :: words =>
    if words.head? = some [':', '='] then some [word]
    else match cutAt? ',' word with
      | some (name, []) => (assigned? words).map (name :: ·)
      | _ => none

/-- The names that the words of a statement declare, in front of `:=` or behind `var`. -/
def declaredBy (words : List (List Char)) : List (List Char) :=
  match assigned? words with
  | some names => names
  | none => if words.head? = some "var".toList then words.tail.head?.toList else []

/-- The names that a line binds at the top level of a body. -/
def boundBy (l : List Char) : List (List Char) :=
  (statement? l).toList.flatMap fun cs => declaredBy (piecesAt ' ' cs)

/-- A function with the names that are bound together in it, the first of them by its receiver and its
parameters, and with the lines of its body. -/
structure GoFunction (α : Type) where
  name : α
  bound : List (List α)
  body : List α
  deriving Repr, DecidableEq

def GoFunction.map {α β : Type} (f : α → β) (g : GoFunction α) : GoFunction β where
  name := f g.name
  bound := g.bound.map (List.map f)
  body := g.body.map f

/-- The names are bound where others are bound already. Only `err` may be one of those, next to a name
that is new. -/
def AreNew (names known : List String) : Prop :=
  names.Nodup ∧ ∀ n ∈ names, n ∈ known → n = "err" ∧ ∃ m ∈ names, m ∉ known

/-- One after another, the names are new. -/
def AllNew : List (List String) → List String → Prop
  | [], _ => True
  | names :: more, known => AreNew names known ∧ AllNew more (known ++ names)

/-- The function binds no name twice. -/
def GoFunction.BindsOnce (f : GoFunction String) : Prop := AllNew f.bound []

/-- The receiver of the function that a line opens, and what is behind its name. -/
def receiver? (l : List Char) : Option (List Char × List Char) := do
  let (first, rest) ← cutAt? ' ' l
  let (second, rest) ← cutAt? ' ' rest
  let (before, receiver) ← cutAt? '(' second
  if first = "func".toList ∧ before = [] then some (receiver, rest) else none

def parameterName? (cs : List Char) : Option (List Char) :=
  (cutAt? ' ' (cs.dropWhile (· == ' '))).map Prod.fst

def parameterNames? (cs : List Char) : Option (List (List Char)) :=
  if cs = [] then some [] else (piecesAt ',' cs).mapM parameterName?

/-- The name of the function of the type that a line opens, and those of its receiver and parameters. -/
def openedBy? (type l : List Char) : Option (List Char × List (List Char)) := do
  let (receiver, rest) ← receiver? l
  let signature ← rest.dropPrefix? ('*' :: (type ++ [')', ' ']))
  let (name, rest) ← cutAt? '(' signature
  let (parameters, _) ← cutAt? ')' rest
  let names ← parameterNames? parameters
  return (name, receiver :: names)

/-- The functions of the type among lines. A body ends with the closing brace of its function. -/
def functionsAmong (type : List Char) : List (List Char) → List (GoFunction (List Char))
  | [] => []
  | l :: ls =>
    match openedBy? type l with
    | some (name, names) =>
      let body := ls.takeWhile (· != ['\x7d'])
      { name, bound := names :: (body.map boundBy).filter (!·.isEmpty), body } :: functionsAmong type ls
    | none => functionsAmong type ls

def functionsOn (type text : String) : List (GoFunction String) :=
  (functionsAmong type.toList (piecesAt '\n' text.toList)).map (·.map .ofList)

theorem areNew_singleton {name : String} {known : List String} :
    AreNew [name] known ↔ name ∉ known := by
  simp only [AreNew, List.nodup_singleton, List.mem_singleton, forall_eq, exists_eq_left, true_and]
  exact ⟨fun h hknown => (h hknown).2 hknown, fun h hknown => absurd hknown h⟩

theorem areNew_nil {names : List String} : AreNew names [] ↔ names.Nodup := by
  simp [AreNew]

/-- A name next to an `err` that is bound already. -/
theorem areNew_err {name : String} {known : List String} (herr : "err" ∈ known) :
    AreNew [name, "err"] known ↔ name ∉ known := by
  by_cases hname : name = "err"
  · simp [AreNew, hname, herr]
  · by_cases hknown : name ∈ known
    · simp [AreNew, hname, hknown, herr]
    · simp [AreNew, hname, hknown]

section Statements

variable {name : String}

theorem statement?_tab {word rest : List Char} (hword : '\t' ∉ word) :
    statement? ('\t' :: (word ++ ' ' :: rest)) = some (word ++ ' ' :: rest) := by
  have hhead : (word ++ ' ' :: rest).head? ≠ some '\t' := by
    cases word with
    | nil => simp
    | cons c cs =>
      rw [List.mem_cons, not_or] at hword
      simpa using Ne.symm hword.1
  exact if_neg hhead

def boundOn (l : String) : List String := (boundBy l.toList).map .ofList

theorem boundOn_assignment (hname : Lacks ['\t', ' '] name) (value : String) :
    boundOn ("\t" ++ (name ++ " := " ++ value)) = [name] := by
  have hl : ("\t" ++ (name ++ " := " ++ value)).toList =
      '\t' :: (name.toList ++ ' ' :: ([':', '='] ++ ' ' :: value.toList)) := by simp
  rw [boundOn, hl, boundBy, statement?_tab (hname '\t' (by simp)), Option.toList_some,
    List.flatMap_singleton, piecesAt_append (hname ' ' (by simp)), piecesAt_append (by decide), declaredBy,
    assigned?, List.head?_cons, if_pos rfl]
  simp

theorem boundOn_var (hname : Lacks [' ', ':'] name) (type : String) :
    boundOn ("\t" ++ ("var " ++ name ++ " " ++ type)) = [name] := by
  have hl : ("\t" ++ ("var " ++ name ++ " " ++ type)).toList =
      '\t' :: ("var".toList ++ ' ' :: (name.toList ++ ' ' :: type.toList)) := by simp
  have hword : name.toList ≠ [':', '='] := fun he => hname ':' (by simp) (by simp [he])
  have hassigned : assigned? ("var".toList :: name.toList :: piecesAt ' ' type.toList) = none := by
    rw [assigned?, List.head?_cons, if_neg (by simpa using hword), cutAt?_eq_none (by decide)]
  rw [boundOn, hl, boundBy, statement?_tab (by decide), Option.toList_some, List.flatMap_singleton,
    piecesAt_append (by decide), piecesAt_append (hname ' ' (by simp)), declaredBy, hassigned,
    List.head?_cons]
  simp

theorem head?_piecesAt {d c : Char} {cs word : List Char} (h : cs.head? ≠ some c) :
    (piecesAt d cs).head? ≠ some (c :: word) := by
  cases cs with
  | nil => simp [piecesAt]
  | cons b cs =>
    have hb : b ≠ c := by simpa using h
    rw [piecesAt]
    split_ifs
    · simp
    · split <;> simp [hb]

theorem boundOn_eq_nil {first rest : String} (hfirst : Lacks ['\t', ' ', ','] first)
    (hvar : first ≠ "var") (hrest : rest.toList.head? ≠ some ':') :
    boundOn ("\t" ++ (first ++ " " ++ rest)) = [] := by
  have hl : ("\t" ++ (first ++ " " ++ rest)).toList = '\t' :: (first.toList ++ ' ' :: rest.toList) := by
    simp
  have hassigned : assigned? (first.toList :: piecesAt ' ' rest.toList) = none := by
    rw [assigned?, if_neg (head?_piecesAt hrest), cutAt?_eq_none (hfirst ',' (by simp))]
  have hother : some first.toList ≠ some "var".toList := fun he =>
    hvar (String.toList_inj.1 (Option.some.inj he))
  rw [boundOn, hl, boundBy, statement?_tab (hfirst '\t' (by simp)), Option.toList_some,
    List.flatMap_singleton, piecesAt_append (hfirst ' ' (by simp)), declaredBy, hassigned,
    List.head?_cons]
  simp only [if_neg hother, List.map_nil]

end Statements

section Lines

variable {type l : List Char}

theorem receiver?_eq_some {receiver rest : List Char} (h : receiver? l = some (receiver, rest)) :
    l = "func (".toList ++ (receiver ++ ' ' :: rest) := by
  simp only [receiver?, Option.bind_eq_bind, Option.bind_eq_some_iff, Prod.exists] at h
  obtain ⟨first, behind, hfirst, second, rest', hsecond, before, receiver', hreceiver, h⟩ := h
  split_ifs at h with hopens
  cases h
  obtain ⟨rfl, -⟩ := cutAt?_eq_some_iff.1 hfirst
  obtain ⟨rfl, -⟩ := cutAt?_eq_some_iff.1 hsecond
  obtain ⟨rfl, -⟩ := cutAt?_eq_some_iff.1 hreceiver
  simp [hopens]

theorem receiver?_append {receiver : List Char} (h : ' ' ∉ receiver) (rest : List Char) :
    receiver? ("func (".toList ++ (receiver ++ ' ' :: rest)) = some (receiver, rest) := by
  have hfirst : cutAt? ' ' ("func (".toList ++ (receiver ++ ' ' :: rest)) =
      some ("func".toList, '(' :: (receiver ++ ' ' :: rest)) :=
    cutAt?_eq_some_iff.2 ⟨by simp, by decide⟩
  have hsecond : cutAt? ' ' ('(' :: (receiver ++ ' ' :: rest)) = some ('(' :: receiver, rest) :=
    cutAt?_eq_some_iff.2 ⟨rfl, by simp [h]⟩
  have hopens : cutAt? '(' ('(' :: receiver) = some ([], receiver) :=
    cutAt?_eq_some_iff.2 ⟨rfl, List.not_mem_nil⟩
  simp only [receiver?, hfirst, hsecond, hopens, Option.bind_eq_bind, Option.bind_some, and_self, if_true]

theorem openedBy?_eq_none (h : ¬ "func (".toList <+: l) : openedBy? type l = none := by
  have hreceiver : receiver? l = none := by
    by_contra hsome
    obtain ⟨⟨receiver, rest⟩, hreceiver⟩ := Option.ne_none_iff_exists'.1 hsome
    exact h ⟨_, (receiver?_eq_some hreceiver).symm⟩
  rw [openedBy?, hreceiver]
  rfl

theorem functionsAmong_of_forall {before : List (List Char)}
    (h : ∀ l ∈ before, ¬ "func (".toList <+: l) (ls : List (List Char)) :
    functionsAmong type (before ++ ls) = functionsAmong type ls := by
  induction before with
  | nil => rfl
  | cons l before ih =>
    rw [List.forall_mem_cons] at h
    rw [List.cons_append, functionsAmong, openedBy?_eq_none h.1]
    exact ih h.2

/-- The indented lines of a body open no function, and none of them ends it. -/
theorem functionsAmong_function {name : List Char} {names : List (List Char)}
    (hopens : openedBy? type l = some (name, names)) {body : List (List Char)}
    (hbody : ∀ l ∈ body, ['\t'] <+: l) (ls : List (List Char)) :
    functionsAmong type (l :: (body ++ ['\x7d'] :: ls)) =
      { name, bound := names :: (body.map boundBy).filter (!·.isEmpty), body } ::
        functionsAmong type ls := by
  have hinner : ∀ l ∈ body, (l != ['\x7d']) = true := fun l hl => by
    simpa using fun he : l = ['\x7d'] => absurd (hbody l hl) (by rw [he]; decide)
  have hother : ∀ l ∈ body ++ [['\x7d']], ¬ "func (".toList <+: l := by
    rw [List.forall_mem_append, List.forall_mem_singleton]
    refine ⟨fun l hl ⟨rest, hrest⟩ => ?_, by decide⟩
    obtain ⟨text, htext⟩ := hbody l hl
    simp [← htext] at hrest
  have hrest : functionsAmong type (body ++ ['\x7d'] :: ls) = functionsAmong type ls := by
    simpa using functionsAmong_of_forall hother ls
  have htake : (body ++ ['\x7d'] :: ls).takeWhile (· != ['\x7d']) = body := by
    rw [List.takeWhile_append_of_pos hinner, List.takeWhile_cons_of_neg (by simp), List.append_nil]
  rw [functionsAmong, hopens]
  simp only [htake, hrest]

end Lines

theorem Parameter.IsReadable.name_eq {p : Parameter} (h : p.IsReadable) :
    parameterName? p.text.toList = some p.name.toList ∧
      parameterName? (" " ++ p.text).toList = some p.name.toList := by
  simp [parameterName?, -String.toList_append, h.cut_eq]

theorem parameterNames?_join {ps : List Parameter} (h : ∀ p ∈ ps, p.IsReadable) :
    parameterNames? (join ", " (ps.map Parameter.text)).toList =
      some (ps.map fun p => p.name.toList) := by
  have hnames := mapM_parameters (f := fun s => parameterName? s.toList)
    (g := fun p => p.name.toList) h fun p hp => (h p hp).name_eq
  rw [← hnames, parameterNames?, splitAt, List.mapM_map]
  simp [Function.comp_def]

def Method.function (m : Method) (lines : List String) : GoFunction String where
  name := m.name
  bound := ("r" :: m.parameters.map Parameter.name) :: (lines.map boundOn).filter (!·.isEmpty)
  body := lines

section Method

variable {m : Method} (h : m.IsReadable) (type : String)

include h

/-- A method of a type opens with its signature. -/
theorem Method.IsReadable.opened :
    openedBy? type.toList (methodStart type ++ (m.signature ++ " \x7b")).toList =
      some (m.name.toList, ['r'] :: m.parameters.map fun p => p.name.toList) := by
  let texts := join ", " (m.parameters.map Parameter.text)
  have hreceiver : receiver? (methodStart type ++ (m.signature ++ " \x7b")).toList =
      some (['r'], ('*' :: (type.toList ++ [')', ' '])) ++ (m.signature ++ " \x7b").toList) := by
    have hopening : (methodStart type ++ (m.signature ++ " \x7b")).toList = "func (".toList ++
        (['r'] ++ ' ' :: (('*' :: (type.toList ++ [')', ' '])) ++ (m.signature ++ " \x7b").toList)) := by
      simp [methodStart]
    rw [hopening, receiver?_append (by decide)]
  have hname : cutAt? '(' (m.signature ++ " \x7b").toList =
      some (m.name.toList, texts.toList ++ ')' :: (" " ++ m.results ++ " \x7b").toList) :=
    cutAt?_eq_some_iff.2 ⟨by simp [Method.signature, texts], h.name⟩
  have hparameters : cutAt? ')' (texts.toList ++ ')' :: (" " ++ m.results ++ " \x7b").toList) =
      some (texts.toList, (" " ++ m.results ++ " \x7b").toList) :=
    cutAt?_eq_some_iff.2 ⟨rfl, h.lacks_parameters⟩
  have hnames : parameterNames? texts.toList = some (m.parameters.map fun p => p.name.toList) :=
    parameterNames?_join h.parameters
  simp only [openedBy?, hreceiver, Option.bind_eq_bind, Option.bind_some,
    List.dropPrefix?_append_of_beq _ (BEq.rfl), hname, hparameters, hnames]
  rfl

theorem Method.IsReadable.functionsAmong {lines : List String}
    (hlines : ∀ l ∈ lines, ['\t'] <+: l.toList) (ls : List (List Char)) :
    functionsAmong type.toList (((methodStart type ++ (m.signature ++ " \x7b")) ::
        (lines ++ ["\x7d"])).map String.toList ++ ls) =
      (m.function lines).map String.toList :: functionsAmong type.toList ls := by
  have hbody : ∀ l ∈ lines.map String.toList, ['\t'] <+: l := List.forall_mem_map.2 hlines
  have hfunction := functionsAmong_function (h.opened type) hbody ls
  have hbound (l : String) : (boundOn l).map String.toList = boundBy l.toList := by
    simp [boundOn]
  have hclosing : "\x7d".toList = ['\x7d'] := by decide
  simp only [List.map_cons, List.map_append, List.map_nil, hclosing, List.cons_append, List.append_assoc,
    List.nil_append, hfunction]
  refine congrArg (· :: _) ?_
  simp [GoFunction.map, Method.function, List.filter_map, Function.comp_def, ← hbound]

end Method

end GoScaffold
