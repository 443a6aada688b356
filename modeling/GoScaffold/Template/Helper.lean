import GoScaffold.FieldType.Basic
import GoScaffold.Naming.GoName
import GoScaffold.Template.Operator

/-!
# What templates may call

The functions on names and types that every template may call, and how arguments are matched with
the parameters of a call.
-/
namespace GoScaffold.Template

open GoScaffold.Text GoScaffold.Naming GoScaffold.FieldType

/-- The evaluated arguments of a call. -/
structure Arguments where
  positional : List Value := []
  named : List (String × Value) := []

/-- The parameters of a function, those with a default last. `bound` counts the parameters in front
of them that the caller does not give. -/
structure Signature where
  name : String
  parameters : List (String × Option Value)
  bound : Nat := 0

namespace Signature

/-- The first keyword that no parameter has, or that stands for a parameter given by position. -/
def keywordFault? (s : Signature) (a : Arguments) : Option ArgumentFault :=
  a.named.findSome? fun (k, _) =>
    if s.parameters.all (·.1 != k) then some (.unexpected k)
    else if (s.parameters.take a.positional.length).any (·.1 == k) then some (.repeated k)
    else none

/-- The value of each parameter; `none` where there is none. -/
def values (s : Signature) (a : Arguments) : List (String × Option Value) :=
  s.parameters.zipIdx.map fun (p, i) =>
    (p.1, a.positional[i]?.or ((a.named.lookup p.1).or p.2))

/-- The values of the parameters, in their order. -/
def bind (s : Signature) (a : Arguments) : Outcome (List Value) :=
  let refuse (f : ArgumentFault) : Outcome (List Value) := .error (.arguments s.name f)
  let most := s.parameters.length
  let least := (s.parameters.filter (·.2.isNone)).length
  match s.keywordFault? a with
  | some f => refuse f
  | none =>
    if most < a.positional.length then
      refuse (.tooMany (least + s.bound) (most + s.bound) (a.positional.length + s.bound))
    else
      let missing := ((s.values a).filter (·.2.isNone)).map (·.1)
      if missing.isEmpty then .ok ((s.values a).filterMap (·.2)) else refuse (.missing missing)

end Signature

namespace Helper

def signature : Helper → Signature
  | .pascal => { name := "to_pascal", parameters := [("name", none)] }
  | .camel => { name := "to_camel", parameters := [("name", none)] }
  | .snake => { name := "to_snake", parameters := [("name", none)] }
  | .kebab => { name := "to_kebab", parameters := [("name", none)] }
  | .plural => { name := "to_plural", parameters := [("word", none)] }
  | .singular => { name := "to_singular", parameters := [("word", none)] }
  | .param =>
    { name := "go_identifier",
      parameters := [("name", none), ("suffix_on_conflict", some (.str "Value"))] }
  | .goType => { name := "go_type", parameters := [("name", none)] }
  | .zeroValue => { name := "zero_value", parameters := [("name", none)] }
  | .optionalRule => { name := "optional_rule", parameters := [("rule", none)] }
  | .typeInfo => { name := "TypeRegistry.get", parameters := [("name", none)], bound := 1 }

/-- Applies a function to the word that a value is; an empty value gives the empty word. -/
def onWord (f : String → String) (v : Value) : Outcome Value := do
  if !(← v.truth) then return .str ""
  match v with
  | .str s => return .str (f s)
  | v => throw (.noMember v.typeName "lower")

/-- The built-in type that a value names, if it does. -/
def typeOf? (v : Value) : Outcome (Option FieldType) := do
  v.hashable
  match v with
  | .str s => return Catalog.builtin.lookup s
  | _ => return none

def ruleOf (v : Value) : Outcome Value := do
  if !(← v.truth) then return .str (FieldType.optionalRule "")
  match v with
  | .str s => return .str (FieldType.optionalRule s)
  | v => throw (.noMember v.typeName "split")

def apply (h : Helper) (values : List Value) : Outcome Value :=
  let v := values.headD .none
  match h with
  | .pascal => return .str (Naming.pascal (← v.text))
  | .camel => return .str (Naming.camel (← v.text))
  | .snake => return .str (Naming.snake (← v.text))
  | .kebab => return .str (Naming.kebab (← v.text))
  | .plural => onWord Naming.plural v
  | .singular => onWord Naming.singular v
  | .param => do
    let name ← v.text
    if isGoName (goIdentifier name "") then
      return .str (goIdentifier name (← (values.getD 1 .none).text))
    else return .str (goIdentifier name)
  | .goType => do
    match ← typeOf? v with
    | some t => return .str t.goType
    | none => return v
  | .zeroValue => do
    match ← typeOf? v with
    | some t => return .str t.zeroValue
    | none => return .str "nil"
  | .optionalRule => ruleOf v
  | .typeInfo => do
    match ← typeOf? v with
    | some t => return .type t
    | none => throw (.unknownType ⟨← v.text⟩)

/-- The function with a given name; most have two. -/
def ofName? : String → Option Helper
  | "to_pascal" => some .pascal
  | "to_camel" => some .camel
  | "to_snake" => some .snake
  | "to_kebab" => some .kebab
  | "to_plural" => some .plural
  | "to_singular" => some .singular
  | "pascal" => some .pascal
  | "camel" => some .camel
  | "snake" => some .snake
  | "kebab" => some .kebab
  | "plural" => some .plural
  | "singular" => some .singular
  | "param" => some .param
  | "go_type" => some .goType
  | "zero_value" => some .zeroValue
  | "optional_rule" => some .optionalRule
  | _ => none

/-- The functions that stand for themselves in an expression. -/
def global? (name : String) : Option Helper :=
  if name = "type_info" then some .typeInfo else ofName? name

end Helper

end GoScaffold.Template
