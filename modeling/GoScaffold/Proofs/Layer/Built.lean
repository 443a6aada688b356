import GoScaffold.Layer.Piece
import GoScaffold.Proofs.Layer.EntityText
import GoScaffold.Proofs.Template.Press
import GoScaffold.Settings.Advice

/-!
# Pieces built of the built-in templates

With built-in templates alone every piece of an entity is built, and what it declares depends on the
entity only.
-/
namespace GoScaffold

open GoScaffold.Text GoScaffold.Naming GoScaffold.Template

/-- Built with a press of built-in templates, the piece declares a text. -/
def Piece.Declares (e : Entity) (p : Piece) (text : String) : Prop :=
  ∀ (press : Press) (t : Tree), press.IsBuiltin →
    ∃ press' : Press, p.build press t e = (press', .ok (p.artifact e text)) ∧ press'.IsBuiltin

theorem Piece.Declares.unique {e : Entity} {p : Piece} {s t : String} (hs : p.Declares e s)
    (ht : p.Declares e t) : s = t := by
  obtain ⟨_, hbuild, -⟩ := hs (.create none) {} Press.isBuiltin_create
  obtain ⟨_, hbuild', -⟩ := ht (.create none) {} Press.isBuiltin_create
  rw [hbuild] at hbuild'
  simp only [Prod.mk.injEq, Except.ok.injEq] at hbuild'
  exact congrArg Artifact.content hbuild'.2

namespace Piece

/-- The lines of the entity in a file that it shares. -/
def lines (e : Entity) : Piece → List String
  | .errors => e.errorsLines
  | .dto => e.dtoLines
  | .repositoryInterface => e.interfaceLines
  | .errorMessages => e.errorMessagesLines
  | .responseMessages => e.responseMessagesLines
  | .constants => e.constantsLines
  | _ => []

theorem declares_source {e : Entity} {p : Piece} {text : String}
    (h : p.content e = .source text) : p.Declares e text := by
  intro press t hpress
  exact ⟨press, by rw [build, h], hpress⟩

theorem declares_template {e : Entity} {p : Piece} {name template s : String} {nodes : Nodes}
    {scope : Scope} (h : p.content e = .template name scope)
    (htemplate : OrderedMap.get? name builtins = some template)
    (hnodes : compile (some name) template = .ok nodes) (hs : nodes.textFor scope = .ok s) :
    p.Declares e s := by
  intro press t hpress
  obtain ⟨press', hrender, hpress'⟩ := hpress.render t htemplate hnodes hs
  exact ⟨press', by simp [build, h, hrender, Except.map], hpress'⟩

/-- Where a built-in template fails on the names of the entity, the piece declares nothing. -/
theorem not_declares_template {e : Entity} {p : Piece} {name template text : String} {nodes : Nodes}
    {scope : Scope} {f : RenderFault} (h : p.content e = .template name scope)
    (htemplate : OrderedMap.get? name builtins = some template)
    (hnodes : compile (some name) template = .ok nodes) (hfault : nodes.textFor scope = .error f) :
    ¬ p.Declares e text := fun hdeclares => by
  obtain ⟨press, hfetch, -⟩ := Press.isBuiltin_create.fetch {} htemplate hnodes
  obtain ⟨press', hbuild, -⟩ := hdeclares (.create none) {} Press.isBuiltin_create
  simp [build, h, Press.render, hfetch, hfault, Except.map] at hbuild

theorem declares_lines {e : Entity} (h : e.IsDescribed) {p : Piece}
    (hp : (p.marker e).isSome = true) : p.Declares e (textOf (p.lines e)) := by
  obtain ⟨hconstants, hresponses, herrors, hrepository, hdto⟩ := compile_shared
  cases p with
  | errors => exact declares_source (congrArg Content.source e.build_errorsSource)
  | dto => exact declares_template rfl rfl hdto h.text_dto
  | repositoryInterface => exact declares_template rfl rfl hrepository e.text_repository
  | errorMessages => exact declares_template rfl rfl herrors h.text_errorMessages
  | responseMessages => exact declares_template rfl rfl hresponses e.text_responseMessages
  | constants => exact declares_template rfl rfl hconstants e.text_constants
  | entity | samples | repositoryImplementation | handler => simp [marker] at hp

theorem marker_ne_nil {e : Entity} {p : Piece} {m : String} (hm : p.marker e = some m) :
    m.toList ≠ [] := by
  cases p <;> cases hm <;> simp

theorem newline_not_mem_marker {e : Entity} (h : e.IsDescribed) {p : Piece} {m : String}
    (hm : p.marker e = some m) : '\n' ∉ m.toList := by
  have hname : '\n' ∉ e.name.toList := fun hc => by simpa using h.name.word _ hc
  cases p <;> cases hm <;> simp [Entity.recordError, hname]

theorem exists_marker_line {e : Entity} {p : Piece} {m : String} (hm : p.marker e = some m) :
    ∃ l ∈ p.lines e, m.toList <+: l.toList := by
  cases p with
  | errors | errorMessages | responseMessages | constants =>
    cases hm
    refine ⟨_, .tail _ (.tail _ (.head _)), ?_⟩
    simp [List.prefix_append_right_inj]
  | dto | repositoryInterface =>
    cases hm
    refine ⟨_, .tail _ (.head _), ?_⟩
    simp [Entity.typeLine, List.prefix_append_right_inj]
  | entity | samples | repositoryImplementation | handler => simp [marker] at hm

end Piece

namespace Template.Value

mutual

theorem literal_ofJson : ∀ j : Json, (ofJson j).literal = j.literal
  | .null => rfl
  | .bool _ => rfl
  | .int _ => rfl
  | .float _ => rfl
  | .str _ => rfl
  | .array items => congrArg (fun ls => "[" ++ join ", " ls ++ "]") (literals_ofJson items)
  | .object fields =>
    congrArg (fun ls => "\x7b" ++ join ", " ls ++ "\x7d") (entryLiterals_ofJson fields)

theorem literals_ofJson : ∀ items : List Json, literals (ofJsonItems items) = Json.itemLiterals items
  | [] => rfl
  | x :: xs => congrArg₂ List.cons (literal_ofJson x) (literals_ofJson xs)

theorem entryLiterals_ofJson : ∀ fields : List (String × Json),
    entryLiterals (ofJsonFields fields) = Json.fieldLiterals fields
  | [] => rfl
  | (k, x) :: xs => congrArg₂ (fun l ls => (quoted k ++ ": " ++ l) :: ls) (literal_ofJson x)
      (entryLiterals_ofJson xs)

end

theorem text_of_ofJson {j : Json} {s : String} (h : (ofJson j).text = .ok s) : s = j.text := by
  have hliteral := literal_ofJson j
  cases j with
  | str t => exact (Except.ok.inj h).symm
  | _ =>
    simp only [ofJson, text] at h hliteral ⊢
    split at h
    · cases h
    · cases h
      exact hliteral

end Template.Value

theorem textFor_of_areSafe {scope : Scope} {keys : List String} {nodes : Nodes}
    (hself : scope.any (·.1 == "self") = false) (hs : scope.HasTexts keys)
    (h : nodes.areSafe keys = true) : ∃ s, nodes.textFor scope = .ok s := by
  obtain ⟨s, hrender⟩ := Nodes.render_of_areSafe hs nodes h
  exact ⟨s, by rw [Entity.textFor_eq hself, hrender, map_ok]⟩

theorem hasTexts_handlerNames {e : Entity}
    (hmodule : ∃ s, (Value.ofJson e.settings.moduleName).text = .ok s) :
    e.scope.HasTexts handlerNames := by
  obtain ⟨s, hs⟩ := hmodule
  simp only [Scope.HasTexts, handlerNames, List.forall_mem_cons, List.not_mem_nil, false_implies,
    implies_true, and_true]
  exact ⟨⟨_, _, rfl, rfl⟩, ⟨_, _, rfl, rfl⟩, ⟨_, _, rfl, rfl⟩, ⟨_, _, rfl, rfl⟩, ⟨_, s, rfl, hs⟩⟩

/-- A module name that is no text is let through only where it counts as empty. -/
theorem text_moduleName {value : Json} {advice : List String}
    (h : Settings.moduleAdvice value = .ok advice) :
    (Value.ofJson value).text = .ok value.text := by
  cases value with
  | null => rfl
  | bool b => rfl
  | float x => rfl
  | str s => rfl
  | int n =>
    by_cases hn : n = 0
    · subst hn
      rfl
    · simp [Settings.moduleAdvice, Json.truthy, hn] at h
  | array items =>
    cases items with
    | nil => rfl
    | cons x items => simp [Settings.moduleAdvice, Json.truthy] at h
  | object fields =>
    cases fields with
    | nil => rfl
    | cons x fields => simp [Settings.moduleAdvice, Json.truthy] at h

namespace Piece

theorem declares_entity (e : Entity) : entity.Declares e (textOf e.entityLines) :=
  declares_template rfl rfl compile_entity e.text_entity

theorem exists_declares_handler {e : Entity} {advice : List String}
    (h : Settings.moduleAdvice e.settings.moduleName = .ok advice) :
    ∃ text, handler.Declares e text := by
  obtain ⟨nodes, hnodes, hsafe⟩ := compile_handler
  obtain ⟨s, hs⟩ := textFor_of_areSafe e.scope_self
    (hasTexts_handlerNames ⟨_, text_moduleName h⟩) hsafe
  exact ⟨s, declares_template rfl rfl hnodes hs⟩

/-- Every piece of a described entity is built if its module name can be judged. -/
theorem exists_declares {e : Entity} (h : e.IsDescribed) {advice : List String}
    (hmodule : Settings.moduleAdvice e.settings.moduleName = .ok advice) (p : Piece) :
    ∃ text, p.Declares e text := by
  cases p with
  | entity => exact ⟨_, declares_entity e⟩
  | samples => exact ⟨_, declares_source rfl⟩
  | repositoryImplementation => exact ⟨_, declares_source rfl⟩
  | handler => exact exists_declares_handler hmodule
  | errors | dto | repositoryInterface | errorMessages | responseMessages | constants =>
    exact ⟨_, declares_lines h rfl⟩

end Piece

end GoScaffold
