import GoScaffold.Proofs.GoSource.Filling
import GoScaffold.Proofs.Layer.InputOutput
import GoScaffold.Proofs.Layer.TemplateReference

/-!
# Names bound in the handler

With a mark for each name that it prints, the template of the handler comes to a text with marks, from
which the functions of the handler and the names that they bind are read.
-/
namespace GoScaffold

open GoScaffold.Text GoScaffold.Naming GoScaffold.Template

namespace Template

/-- The marks for the names that a template prints, as they are or in lower case. -/
abbrev MarkedNames := List ((String × Bool) × Char)

/-- What a name stands for in the scope is filled in for its mark. -/
def Scope.Names (scope : Scope) (m : MarkedNames) (f : Filling) : Prop :=
  ∀ p ∈ m, ∃ s, scope.lookup p.1.1 = some (.str s) ∧
    f.name p.2 = (if p.1.2 then lower s else s).toList

/-- The mark for what the expression comes to. -/
def Expr.mark? (m : MarkedNames) : Expr → Option Char
  | .name _ key => m.lookup (key, false)
  | .filter (.name _ key) "lower" .nil _ => m.lookup (key, true)
  | _ => none

def Node.marked? (m : MarkedNames) : Node → Option (List Char)
  | .text s => if (characters s).all (!isMark ·) then some (characters s) else none
  | .print e => (e.mark? m).map fun c => [c]
  | _ => none

def Nodes.marked? (m : MarkedNames) : Nodes → Option (List Char)
  | .nil => some []
  | .cons node rest => (node.marked? m).bind fun cs => (rest.marked? m).map (cs ++ ·)

section Marks

variable {scope : Scope} {m : MarkedNames} {f : Filling}

theorem Scope.Names.value (h : scope.Names m f) {key : String} {lowered : Bool} {c : Char}
    (hc : m.lookup (key, lowered) = some c) (name : String) :
    ∃ s, scope.value name key = .str s ∧ f.name c = (if lowered then lower s else s).toList := by
  obtain ⟨above, below, hm, -⟩ := List.lookup_eq_some_iff.1 hc
  obtain ⟨s, hs, hname⟩ := h ((key, lowered), c) (hm ▸ by simp)
  exact ⟨s, by rw [Scope.value, hs], hname⟩

theorem Expr.eval_of_mark (h : scope.Names m f) {e : Expr} {c : Char} (hc : e.mark? m = some c) :
    e.eval scope = .ok (.str (.ofList (f.name c))) := by
  fun_cases Expr.mark? m e with
  | case1 name key =>
    obtain ⟨s, hs, hname⟩ := h.value hc name
    rw [eval_name, hs, hname]
    exact congrArg (fun t => Except.ok (Value.str t)) String.ofList_toList.symm
  | case2 name key line =>
    obtain ⟨s, hs, hname⟩ := h.value hc name
    change Filter.applyTo .lower [scope.value name key] = _
    rw [hs, hname]
    exact congrArg (fun t => Except.ok (Value.str t)) String.ofList_toList.symm
  | _ => simp_all [Expr.mark?]

theorem Node.render_of_marked (h : scope.Names m f) {node : Node} {cs : List Char}
    (hcs : node.marked? m = some cs) :
    node.render scope = .ok (.ofList (f.fill cs), scope) := by
  cases node with
  | text s =>
    rw [marked?, characters_eq] at hcs
    split_ifs at hcs with hplain
    cases hcs
    have hfill : f.fill s.toList = s.toList :=
      f.fill_of_forall fun c hc => by simpa using List.all_eq_true.1 hplain c hc
    rw [hfill, String.ofList_toList]
    rfl
  | print e =>
    obtain ⟨c, hc, rfl⟩ := Option.map_eq_some_iff.1 hcs
    rw [f.fill_cons, f.fill_nil, List.append_nil]
    exact print_ok (Expr.eval_of_mark h hc) rfl
  | _ => cases hcs

/-- A template with marks for its names comes to the text that they are filled into. -/
theorem Nodes.render_of_marked (h : scope.Names m f) (nodes : Nodes) {cs : List Char}
    (hcs : nodes.marked? m = some cs) :
    nodes.render scope = .ok (.ofList (f.fill cs), scope) := by
  match nodes with
  | .nil =>
    cases hcs
    rfl
  | .cons node rest =>
    obtain ⟨first, hfirst, hcs⟩ := Option.bind_eq_some_iff.1 hcs
    obtain ⟨more, hmore, rfl⟩ := Option.map_eq_some_iff.1 hcs
    rw [render_cons (Node.render_of_marked h hfirst), Nodes.render_of_marked h rest hmore, map_ok, behind,
      f.fill_append]
    simp

end Marks

def handlerMarks : MarkedNames := [
  (("entity", false), 'ε'), (("entity", true), 'λ'), (("entity_var", false), 'ν'),
  (("entity_plural", false), 'π'), (("route", false), 'ρ')]

/-- The functions of the handler with the names that they bind, its marks standing for names. -/
def markedFunctions : List (String × List (List String)) := [
  ("Createε", [["h", "w", "r"], ["input"], ["output", "err"]]),
  ("Getε", [["h", "w", "r"], ["id", "err"], ["ν", "err"]]),
  ("Updateε", [["h", "w", "r"], ["id", "err"], ["input"]]),
  ("Deleteε", [["h", "w", "r"], ["id", "err"]]),
  ("Listπ", [["h", "w", "r"], ["output", "err"]])]

/-- Below its head the text has these functions, whatever names are filled in. -/
def hasMarkedFunctions (cs : List Char) : Bool :=
  let type := "εHandler".toList
  let ls := piecesAt '\n' ("// ".toList ++ cs)
  ls.all (isSettledLine type) &&
    (functionsAmong type ls).map (fun g => (g.name, g.bound)) ==
      markedFunctions.map fun p => (p.1.toList, p.2.map (List.map String.toList))

set_option maxRecDepth 100000 in
theorem compile_handlerFunctions : ∃ nodes,
    compile (some "handler/http/handler") handlerTemplate = .ok nodes ∧
    (nodes.behind? handlerHead).any (fun rest =>
      (rest.marked? handlerMarks).any hasMarkedFunctions) = true := by
  refine exists_of_toOption_any ?_
  rw [handlerTemplate, compile_textOf]
  decide +kernel

end Template

namespace Naming

theorem kebab_ne_empty {s : String} (h : IsTypeName s) : kebab s ≠ "" := by
  obtain ⟨c, cs, hcs, hc⟩ := h.capital
  have halnum : c.isAlphanum = true := h.word c (by simp [hcs])
  obtain ⟨w, ws, hws⟩ := wordsOf_cons (not_isSeparator halnum) cs
  have hword : lowerChars (c :: w) = c.toLower :: w.map Char.toLower :=
    lower_of_mem_words h.word (hcs ▸ hws ▸ List.mem_cons_self)
  rw [kebab, lowerWords, words, hcs, hws, Ne, ← String.toList_eq_nil_iff]
  cases ws <;> simp [join, lower, hword]

end Naming

namespace Entity

variable {e : Entity}

def markedNames (e : Entity) : List (Char × String) :=
  [('ε', e.name), ('λ', lower e.name), ('ν', e.variableName), ('π', e.pluralName), ('ρ', e.route)]

theorem lacks_markedNames (h : e.IsDescribed) :
    ∀ p ∈ e.markedNames, isMark p.1 = true ∧ p.2 ≠ "" ∧ Lacks delimiters p.2 := by
  have hdelimiters : delimiters.all (fun d => !d.isAlphanum && d != '-') = true := by decide
  have hdelimiter (d : Char) (hd : d ∈ delimiters) : d.isAlphanum = false ∧ d ≠ '-' := by
    simpa using List.all_eq_true.1 hdelimiters d hd
  have hword {s : String} (hs : Gap.word.Admits s.toList) : s ≠ "" ∧ Lacks delimiters s := by
    obtain ⟨hall, c, cs, hcs, -⟩ := hs
    exact ⟨fun he => by simp [he] at hcs, fun d hd => IsWord.not_mem hall (hdelimiter d hd).1⟩
  have hname := (outlined_typeName h.name).admits
  have hvariable := hword (outlined_variableName h).admits
  have hplural := hword (outlined_plural h.name).admits
  have hroute : e.route ≠ "" ∧ Lacks delimiters e.route := by
    obtain ⟨front, hfront⟩ := Naming.exists_plural (kebab_ne_empty h.name)
    refine ⟨fun he => ?_, fun d hd => not_mem_plural (hdelimiter d hd).1 ?_⟩
    · rw [route, routeSegment, hfront] at he
      simpa using congrArg String.toList he
    · exact not_mem_join_lowerWords h.name.word (hdelimiter d hd).1 (by simpa using (hdelimiter d hd).2)
  simp only [markedNames, List.forall_mem_cons, List.not_mem_nil, false_implies, implies_true, and_true]
  exact ⟨⟨by decide, hword hname⟩, ⟨by decide, hword (admits_lower hname)⟩, ⟨by decide, hvariable⟩,
    ⟨by decide, hplural⟩, by decide, hroute⟩

def filling (h : e.IsDescribed) : Filling := .ofNames e.markedNames (lacks_markedNames h)

theorem name_filling (h : e.IsDescribed) {c : Char} {s : String}
    (hs : e.markedNames.lookup c = some s) : (filling h).name c = s.toList :=
  Filling.ofNames_name (lacks_markedNames h) hs

theorem names_filling (h : e.IsDescribed) : e.scope.Names handlerMarks (filling h) := by
  simp only [Scope.Names, handlerMarks, List.forall_mem_cons, List.not_mem_nil, false_implies,
    implies_true, and_true]
  refine ⟨⟨_, rfl, name_filling h ?_⟩, ⟨_, rfl, name_filling h ?_⟩, ⟨_, rfl, name_filling h ?_⟩,
    ⟨_, rfl, name_filling h ?_⟩, ⟨_, rfl, name_filling h ?_⟩⟩
  all_goals simp [markedNames, List.lookup_cons]

def handlerFunctions (e : Entity) : List (String × List (List String)) := [
  ("Create" ++ e.name, [["h", "w", "r"], ["input"], ["output", "err"]]),
  ("Get" ++ e.name, [["h", "w", "r"], ["id", "err"], [e.variableName, "err"]]),
  ("Update" ++ e.name, [["h", "w", "r"], ["id", "err"], ["input"]]),
  ("Delete" ++ e.name, [["h", "w", "r"], ["id", "err"]]),
  ("List" ++ e.pluralName, [["h", "w", "r"], ["output", "err"]])]

/-- Below its head, the handler has these functions. -/
theorem exists_handlerFunctions (h : e.IsDescribed) {advice : List String}
    (hmodule : Settings.moduleAdvice e.settings.moduleName = .ok advice) :
    ∃ code, Piece.handler.Declares e
        (textOf (sectionedLines "http" standardImports e.handlerImports) ++ code) ∧
      (functionsOn (e.name ++ "Handler") code).map (fun g => (g.name, g.bound)) =
        e.handlerFunctions := by
  let f := filling h
  obtain ⟨nodes, hnodes, hchecked⟩ := compile_handlerFunctions
  obtain ⟨rest, hrest, hchecked⟩ := (Option.any_eq_true _ _).1 hchecked
  obtain ⟨cs, hcs, hchecked⟩ := (Option.any_eq_true _ _).1 hchecked
  simp only [hasMarkedFunctions, Bool.and_eq_true, beq_iff_eq] at hchecked
  obtain ⟨hsettled, hfunctions⟩ := hchecked
  have hrender := Nodes.render_of_marked (names_filling h) rest hcs
  have hname : f.name 'ε' = e.name.toList := name_filling h (by simp [markedNames])
  have hvariable : f.name 'ν' = e.variableName.toList :=
    name_filling h (by simp [markedNames, List.lookup_cons])
  have hplural : f.name 'π' = e.pluralName.toList :=
    name_filling h (by simp [markedNames, List.lookup_cons])
  refine ⟨"// " ++ .ofList (f.fill cs), Piece.declares_template rfl rfl hnodes ?_, ?_⟩
  · rw [Nodes.eq_of_behind? hrest, textFor_handlerHead (text_moduleName hmodule) hrender]
  · have hcode : ("// " ++ .ofList (f.fill cs) : String).toList = f.fill ("// ".toList ++ cs) := by
      simp [f.own, isMark]
    have htype : (e.name ++ "Handler").toList = f.fill "εHandler".toList := by
      simp [hname, f.own, isMark]
    have hfilled (gs : List (GoFunction (List Char))) :
        ((gs.map (·.map f.fill)).map (·.map String.ofList)).map (fun g => (g.name, g.bound)) =
          (gs.map fun g => (g.name, g.bound)).map fun p =>
            (String.ofList (f.fill p.1), p.2.map (List.map fun cs => String.ofList (f.fill cs))) := by
      simp [GoFunction.map, Function.comp_def]
    rw [functionsOn, hcode, htype, f.piecesAt_fill (by decide), f.functionsAmong_map hsettled, hfilled,
      hfunctions]
    simp [markedFunctions, handlerFunctions, f.own, isMark, hname, hvariable, hplural, ← String.toList_inj]

end Entity

end GoScaffold
