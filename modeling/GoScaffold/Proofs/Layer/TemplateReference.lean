import GoScaffold.Proofs.GoSource.Imported
import GoScaffold.Proofs.Layer.Built
import GoScaffold.Proofs.Layer.Spelled

/-!
# References in the handler

The template of the handler says one thing after another and prints names in between. So its own
outline, with a gap for each name, is the outline of what it comes to, and tells what that refers to.
-/
namespace GoScaffold

open GoScaffold.Text GoScaffold.Naming GoScaffold.Template

namespace Outline

/-- Cuts an outline behind each newline; what is left behind the last one makes a line as well. -/
def lines : Outline → List Outline
  | [] => []
  | y :: o =>
    if y = .char '\n' then [] :: lines o
    else match lines o with
      | [] => [[y]]
      | l :: ls => (y :: l) :: ls

/-- An outline that ends with a newline is the one of its lines. -/
theorem ofLines_lines {o : Outline} (h : o.getLast? = some (.char '\n')) : ofLines o.lines = o := by
  induction o with
  | nil => rfl
  | cons y o ih =>
    cases o with
    | nil =>
      obtain rfl : y = .char '\n' := Option.some.inj h
      rfl
    | cons z o =>
      specialize ih h
      rw [lines]
      split_ifs with hy
      · rw [ofLines, List.flatMap_cons, ← ofLines, ih, hy]
        rfl
      · cases hls : lines (z :: o) with
        | nil =>
          rw [hls] at ih
          cases ih
        | cons l ls =>
          rw [hls] at ih
          exact congrArg (y :: ·) ih

end Outline

namespace Template

/-- Each of the names stands for a text of a kind. -/
def Scope.Fills (scope : Scope) (gaps : List (String × Gap)) : Prop :=
  ∀ p ∈ gaps, ∃ s, scope.lookup p.1 = some (.str s) ∧ p.2.Admits s.toList

/-- The kind of text that the expression comes to. -/
def Expr.gap? (gaps : List (String × Gap)) : Expr → Option Gap
  | .name _ key => gaps.lookup key
  | .filter (.name _ key) "lower" .nil _ => if gaps.lookup key = some .word then some .word else none
  | _ => none

def Node.outline? (gaps : List (String × Gap)) : Node → Option Outline
  | .text s => some (.exact s)
  | .print e => (e.gap? gaps).map fun g => [.gap g]
  | _ => none

def Nodes.outline? (gaps : List (String × Gap)) : Nodes → Option Outline
  | .nil => some []
  | .cons node rest => (node.outline? gaps).bind fun o => (rest.outline? gaps).map (o ++ ·)

/-- What stands behind certain statements at the front. -/
def Nodes.behind? : List Node → Nodes → Option Nodes
  | [], nodes => some nodes
  | first :: more, .cons node rest => if node = first then rest.behind? more else none
  | _ :: _, .nil => none

theorem Nodes.eq_of_behind? {front : List Node} {nodes rest : Nodes}
    (h : nodes.behind? front = some rest) : nodes = front.foldr .cons rest := by
  fun_induction Nodes.behind? front nodes with
  | case1 nodes => exact Option.some.inj h
  | case2 first more below ih => rw [List.foldr_cons, ← ih h]
  | case3 => cases h
  | case4 => cases h

section Outlines

variable {scope : Scope} {gaps : List (String × Gap)}

theorem admits_lower {s : String} (h : Gap.word.Admits s.toList) : Gap.word.Admits (lower s).toList := by
  obtain ⟨hword, c, cs, hs, hc⟩ := h
  rw [lower, String.toList_ofList, lowerChars_of_ascii fun d hd => toNat_lt_of_isAlphanum (hword d hd)]
  refine ⟨List.forall_mem_map.2 fun d hd => isAlphanum_toLower (hword d hd), c.toLower,
    cs.map Char.toLower, by rw [hs, List.map_cons], by simpa using hc⟩

theorem Scope.Fills.value (h : scope.Fills gaps) {key : String} {g : Gap} (hg : gaps.lookup key = some g)
    (name : String) : ∃ s, scope.value name key = .str s ∧ g.Admits s.toList := by
  obtain ⟨above, below, rfl, -⟩ := List.lookup_eq_some_iff.1 hg
  obtain ⟨s, hs, hadmits⟩ := h (key, g) (by simp)
  exact ⟨s, by rw [Scope.value, hs], hadmits⟩

theorem Expr.eval_of_gap (h : scope.Fills gaps) {e : Expr} {g : Gap} (hg : e.gap? gaps = some g) :
    ∃ s, e.eval scope = .ok (.str s) ∧ g.Admits s.toList := by
  fun_cases Expr.gap? gaps e with
  | case1 name key =>
    obtain ⟨s, hs, hadmits⟩ := h.value hg name
    exact ⟨s, by rw [eval_name, hs], hadmits⟩
  | case2 name key line hword =>
    cases hg.symm.trans (if_pos hword)
    obtain ⟨s, hs, hadmits⟩ := h.value hword name
    refine ⟨lower s, ?_, admits_lower hadmits⟩
    change Filter.applyTo .lower [scope.value name key] = _
    rw [hs]
    rfl
  | _ => simp_all [Expr.gap?]

theorem Node.render_of_outline (h : scope.Fills gaps) {node : Node} {o : Outline}
    (ho : node.outline? gaps = some o) :
    ∃ s, node.render scope = .ok (s, scope) ∧ o.Fits s.toList := by
  fun_cases Node.outline? gaps node with
  | case1 s =>
    cases ho
    exact ⟨s, rfl, Outline.fits_exact s⟩
  | case2 e =>
    obtain ⟨g, hg, rfl⟩ := Option.map_eq_some_iff.1 ho
    obtain ⟨s, hs, hadmits⟩ := Expr.eval_of_gap h hg
    exact ⟨s, print_ok hs rfl, Outline.fits_gap hadmits⟩
  | _ => simp_all [Node.outline?]

/-- Under names that fit, a template that has an outline comes to a text of that outline. -/
theorem Nodes.render_of_outline (h : scope.Fills gaps) (nodes : Nodes) {o : Outline}
    (ho : nodes.outline? gaps = some o) :
    ∃ s, nodes.render scope = .ok (s, scope) ∧ o.Fits s.toList := by
  match nodes with
  | .nil =>
    cases ho
    exact ⟨"", rfl, Outline.fits_exact ""⟩
  | .cons node rest =>
    obtain ⟨first, hfirst, ho⟩ := Option.bind_eq_some_iff.1 ho
    obtain ⟨more, hmore, rfl⟩ := Option.map_eq_some_iff.1 ho
    obtain ⟨s, hs, hfits⟩ := Node.render_of_outline h hfirst
    obtain ⟨t, ht, hfits'⟩ := Nodes.render_of_outline h rest hmore
    refine ⟨s ++ t, by rw [render_cons hs, ht, map_ok, behind], ?_⟩
    rw [String.toList_append]
    exact hfits.append hfits'

end Outlines

def handlerGaps : List (String × Gap) :=
  [("entity", .word), ("entity_var", .word), ("entity_plural", .word), ("route", .phrase)]

/-- The head of the handler, up to the comment that its first declaration starts with. -/
def handlerHead : List Node := [
  .text ("package http\n\nimport (\n\t\"encoding/json\"\n\t\"net/http\"\n\t\"strconv\"\n\n" ++
    "\t\"github.com/gorilla/mux\"\n\t\""),
  printed "module", .text "/internal/domain\"\n\t\"", printed "module",
  .text "/internal/usecase\"\n)\n\n// "]

def handlerReferences : List String := ["json", "http", "strconv", "mux", "domain", "usecase"]

/-- The outline below the head is one of lines, which refer to that. -/
def isHandlerBody (o : Outline) : Bool :=
  let body := .exact "// " ++ o
  body.getLast? == some (.char '\n') && View.reads .start body.lines handlerReferences .start

set_option maxRecDepth 100000 in
theorem compile_handlerHead : ∃ nodes,
    compile (some "handler/http/handler") handlerTemplate = .ok nodes ∧
    (nodes.behind? handlerHead).any (fun rest =>
      (rest.outline? handlerGaps).any isHandlerBody) = true := by
  refine exists_of_toOption_any ?_
  rw [handlerTemplate, compile_textOf]
  decide +kernel

end Template

namespace Entity

variable {e : Entity}

def standardImports : List String := ["encoding/json", "net/http", "strconv"]

def usecaseImport (e : Entity) : String := e.settings.moduleName.text ++ "/internal/usecase"

def handlerImports (e : Entity) : List String :=
  ["github.com/gorilla/mux", e.domainImport, e.usecaseImport]

theorem fills_handlerGaps (h : e.IsDescribed) : e.scope.Fills handlerGaps := by
  have hname := (outlined_typeName h.name).admits
  have hvariable := (outlined_variableName h).admits
  have hplural := (outlined_plural h.name).admits
  have hroute := (outlined_route h).admits
  simp only [Scope.Fills, handlerGaps, List.forall_mem_cons, List.not_mem_nil, false_implies,
    implies_true, and_true]
  exact ⟨⟨_, rfl, hname⟩, ⟨_, rfl, hvariable⟩, ⟨_, rfl, hplural⟩, ⟨_, rfl, hroute⟩⟩

/-- Above what the nodes below come to, the handler has a head with its imports. -/
theorem textFor_handlerHead (hmodule : (Value.ofJson e.settings.moduleName).text =
      .ok e.settings.moduleName.text) {rest : Nodes} {s : String}
    (hs : rest.render e.scope = .ok (s, e.scope)) :
    (handlerHead.foldr .cons rest).textFor e.scope =
      .ok (textOf (sectionedLines "http" standardImports e.handlerImports) ++ ("// " ++ s)) := by
  have hvalue : e.scope.value "module" "module" = Value.ofJson e.settings.moduleName := rfl
  rw [textFor_eq e.scope_self, handlerHead]
  simp only [List.foldr_cons, List.foldr_nil, render_text, render_printed, hvalue, hmodule, bind_ok, hs,
    map_ok, behind]
  refine congrArg Except.ok ?_
  rw [← String.toList_inj]
  simp [sectionedLines, standardImports, handlerImports, domainImport, usecaseImport, toList_textOf]

/-- A module name that cannot be written keeps the handler from being built. -/
theorem exists_text_of_declares_handler {text : String} (h : Piece.handler.Declares e text) :
    ∃ s, (Value.ofJson e.settings.moduleName).text = .ok s := by
  cases hmodule : (Value.ofJson e.settings.moduleName).text with
  | ok s => exact ⟨s, rfl⟩
  | error f =>
    obtain ⟨nodes, hnodes, hchecked⟩ := compile_handlerHead
    obtain ⟨rest, hrest, -⟩ := (Option.any_eq_true _ _).1 hchecked
    have hvalue : e.scope.value "module" "module" = Value.ofJson e.settings.moduleName := rfl
    have hfault : nodes.textFor e.scope = .error f := by
      rw [Nodes.eq_of_behind? hrest, textFor_eq e.scope_self, handlerHead]
      simp only [List.foldr_cons, List.foldr_nil, render_text, render_printed, hvalue, hmodule]
      rfl
    exact absurd h (Piece.not_declares_template rfl rfl hnodes hfault)

/-- Below its head, the handler refers to what the head imports. -/
theorem exists_handlerLines (h : e.IsDescribed)
    (hmodule : (Value.ofJson e.settings.moduleName).text = .ok e.settings.moduleName.text) :
    ∃ ls, Piece.handler.Declares e
        (textOf (sectionedLines "http" standardImports e.handlerImports ++ ls)) ∧
      Reads .start ls handlerReferences .start := by
  obtain ⟨nodes, hnodes, hchecked⟩ := compile_handlerHead
  obtain ⟨rest, hrest, hchecked⟩ := (Option.any_eq_true _ _).1 hchecked
  obtain ⟨o, ho, hbody⟩ := (Option.any_eq_true _ _).1 hchecked
  rw [isHandlerBody, Bool.and_eq_true, beq_iff_eq] at hbody
  obtain ⟨s, hs, hfits⟩ := Nodes.render_of_outline (fills_handlerGaps h) rest ho
  have hbelow := (Outline.fits_exact "// ").append hfits
  rw [← Outline.ofLines_lines hbody.1] at hbelow
  obtain ⟨ls, hls, hfits⟩ := Outline.exists_lines hbelow
  refine ⟨ls, Piece.declares_template rfl rfl hnodes ?_, reads_of_fits hfits hbody.2⟩
  have hbelow : textOf ls = "// " ++ s := String.toList_inj.1 (by rw [hls, String.toList_append])
  rw [Nodes.eq_of_behind? hrest, textFor_handlerHead hmodule hs, textOf_append, hbelow]

end Entity

end GoScaffold
