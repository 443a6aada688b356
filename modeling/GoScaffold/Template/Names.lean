import GoScaffold.Template.Expr

/-!
# The names of a template

The body of a loop, a captured text and the template as a whole are scopes. A name that such a scope
binds, unless it does so under a condition or has used the name before, belongs to the scope from its
beginning: until it is bound, the name stands for nothing in the loops inside the scope, even if a
value was given for it. Names that differ only in the form of their characters share a key; of the
values given for them, a scope takes the one for the name that it uses last.
-/
namespace GoScaffold.Template

/-- A name with the key under which it is bound. -/
structure Reference where
  name : String
  key : String
  deriving Repr, DecidableEq

/-- A name that is used or bound. -/
structure Use where
  reference : Reference
  binds : Bool
  deriving Repr, DecidableEq

mutual

/-- The names that an expression uses, in the order of its parts. -/
def Expr.names : Expr → List Reference
  | .literal _ => []
  | .name name key => [⟨name, key⟩]
  | .list items => items.names
  | .tuple items => items.names
  | .dict entries => entries.names
  | .member e _ => e.names
  | .item e key => e.names ++ key.names
  | .slice start stop step => start.names ++ stop.names ++ step.names
  | .call f args => f.names ++ args.names
  | .filter base _ args _ => base.names ++ args.names
  | .test base _ args _ => base.names ++ args.names
  | .negate e => e.names
  | .plus e => e.names
  | .arithmetic _ l r => l.names ++ r.names
  | .concat items => items.names
  | .compare e rest => e.names ++ rest.names
  | .both l r => l.names ++ r.names
  | .either l r => l.names ++ r.names
  | .not e => e.names
  | .choice condition yes _ _ => condition.names ++ yes.names
  | .choiceElse condition yes no => condition.names ++ yes.names ++ no.names

def Exprs.names : Exprs → List Reference
  | .nil => []
  | .cons e rest => e.names ++ rest.names

def Entries.names : Entries → List Reference
  | .nil => []
  | .cons key e rest => key.names ++ e.names ++ rest.names

def Bound.names : Bound → List Reference
  | .absent => []
  | .given e => e.names

def Args.names : Args → List Reference
  | .nil => []
  | .cons _ e rest => e.names ++ rest.names

def Comparisons.names : Comparisons → List Reference
  | .nil => []
  | .cons _ e rest => e.names ++ rest.names

end

mutual

/-- The names of a target; the owner of a member is used, any other name is bound. -/
def Target.uses : Target → List Use
  | .name name key _ => [⟨⟨name, key⟩, true⟩]
  | .tuple items => items.uses
  | .member owner key _ => [⟨⟨owner, key⟩, false⟩]

def Targets.uses : Targets → List Use
  | .nil => []
  | .cons t rest => t.uses ++ rest.uses

end

def used (names : List Reference) : List Use := names.map (⟨·, false⟩)

mutual

/-- Every name in a statement, in the order of its parts. -/
def Node.uses : Node → List Use
  | .text _ => []
  | .print e => used e.names
  | .assign target e => target.uses ++ used e.names
  | .capture target body value => target.uses ++ used value.names ++ body.uses
  | .branch condition body otherwise => used condition.names ++ body.uses ++ otherwise.uses
  | .loop target source condition body otherwise =>
    target.uses ++ used source.names ++ body.uses ++ otherwise.uses ++
      used ((condition.map Expr.names).getD [])
  | .enter _ => []

def Nodes.uses : Nodes → List Use
  | .nil => []
  | .cons node rest => node.uses ++ rest.uses

end

/-- What is known of a scope: the names it has met, those that it binds first, and those whose value
was given. -/
structure Frame where
  met : List Reference := []
  hidden : List Reference := []
  given : List Reference := []
  deriving Repr, DecidableEq

namespace Frame

/-- Meets a name, which scopes around it may have met already. -/
def meet (outer : List Reference) (conditional : Bool) (f : Frame) (u : Use) : Frame :=
  let r := u.reference
  if f.met.contains r then f
  else if outer.contains r then
    if u.binds then { f with met := f.met ++ [r] } else f
  else if u.binds && !conditional then
    { f with met := f.met ++ [r], hidden := f.hidden ++ [r] }
  else { f with met := f.met ++ [r], given := f.given ++ [r] }

def meetAll (outer : List Reference) (conditional : Bool) (f : Frame) (us : List Use) : Frame :=
  us.foldl (meet outer conditional) f

end Frame

mutual

/-- The names that a statement uses or binds in the scope in which it stands. -/
def Node.frame (outer : List Reference) (conditional : Bool) (f : Frame) : Node → Frame
  | .print e => f.meetAll outer conditional (used e.names)
  | .assign target e => f.meetAll outer conditional (used e.names ++ target.uses)
  | .capture target _ _ => f.meetAll outer conditional target.uses
  | .branch condition body otherwise =>
    otherwise.frame outer true
      (body.frame outer true (f.meetAll outer conditional (used condition.names)))
  | .loop _ source _ _ _ => f.meetAll outer conditional (used source.names)
  | .text _ => f
  | .enter _ => f

def Nodes.frame (outer : List Reference) (conditional : Bool) (f : Frame) : Nodes → Frame
  | .nil => f
  | .cons node rest => rest.frame outer conditional (node.frame outer conditional f)

end

/-- What a scope settles at its beginning; the keys are those that several names share. -/
def Frame.loads (shared : List String) (f : Frame) : List Load :=
  (f.given.filter (shared.contains ·.key)).map (fun r => .given r.name r.key) ++
    f.hidden.map fun r => .hidden r.name r.key

/-- Nothing is settled where there is nothing to settle. -/
def Nodes.after (loads : List Load) (nodes : Nodes) : Nodes :=
  if loads.isEmpty then nodes else .cons (.enter loads) nodes

/-- The names that a loop binds in its body. -/
def loopNames (target : Target) : List Reference :=
  ⟨"loop", "loop"⟩ :: (target.uses.filter (·.binds)).map (·.reference)

mutual

/-- A statement whose inner scopes settle their names; `outer` are the names met around it. -/
def Node.settled (shared : List String) (outer : List Reference) : Node → Node
  | .capture target body value =>
    let f := body.frame outer false {}
    .capture target ((body.settled shared (outer ++ f.met)).after (f.loads shared)) value
  | .branch condition body otherwise =>
    .branch condition (body.settled shared outer) (otherwise.settled shared outer)
  | .loop target source condition body otherwise =>
    let f := body.frame outer false { met := loopNames target }
    let g := otherwise.frame outer false {}
    .loop target source condition
      ((body.settled shared (outer ++ f.met)).after (f.loads shared))
      ((otherwise.settled shared (outer ++ g.met)).after (g.loads shared))
  | node => node

def Nodes.settled (shared : List String) (outer : List Reference) : Nodes → Nodes
  | .nil => .nil
  | .cons node rest => .cons (node.settled shared outer) (rest.settled shared outer)

end

/-- A template that refers to itself before it binds that name. -/
def Nodes.refersToSelf (nodes : Nodes) : Bool :=
  (nodes.uses.find? (·.reference.name = "self")).any (!·.binds)

/-- The statements of a template in which every scope settles its names. -/
def Nodes.scoped (template : Option String) (nodes : Nodes) : Nodes :=
  let references := nodes.uses.map (·.reference)
  let shared := (references.filter fun r => r.name != r.key).map (·.key)
  let self := nodes.refersToSelf
  let f := nodes.frame [] false { met := if self then [⟨"self", "self"⟩] else [] }
  (nodes.settled shared f.met).after
    ((if self then [.self template] else []) ++ f.loads shared)

end GoScaffold.Template
