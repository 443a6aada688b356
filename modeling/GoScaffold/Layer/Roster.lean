import GoScaffold.Layer.Basic
import GoScaffold.OrderedMap
import GoScaffold.Text.Casing
import GoScaffold.Text.Split

/-!
# Rosters of layers

The layers that a run may ask for, by name and by alias, whatever the letter case. The order of the
first registrations is the order of generation.
-/
namespace GoScaffold

open GoScaffold.Text

structure Roster where
  layers : List (String × Layer) := []
  aliases : List (String × String) := []
  order : List String := []
  deriving Repr, DecidableEq

/-- Why a roster refuses. -/
inductive RosterFault
  | notGenerator
  | primaryAlias (other : String)
  | takenAlias (other target : String)
  | unknown (layer : String) (available : List String)
  | missing (name : String)
  deriving Repr, DecidableEq

def RosterFault.message : RosterFault → String
  | .notGenerator => "Generator class must inherit from LayerGenerator"
  | .primaryAlias other => s!"Alias '{other}' conflicts with existing primary layer"
  | .takenAlias other target => s!"Alias '{other}' already points to '{target}'"
  | .unknown layer available => s!"Unknown layer: {layer}. Available: " ++ join ", " available
  | .missing name => name

/-- What is told about a registered layer. -/
structure LayerInfo where
  name : String
  generator : String
  description : String
  aliases : List String
  home : String
  deriving Repr, DecidableEq

namespace Roster

def empty : Roster := {}

/-- Why an alias cannot be given to a layer. -/
def aliasFault? (r : Roster) (key other : String) : Option RosterFault :=
  if OrderedMap.contains (lower other) r.layers then some (.primaryAlias other)
  else match OrderedMap.get? (lower other) r.aliases with
    | some target => if target = key then none else some (.takenAlias other target)
    | none => none

/-- Gives aliases to a registered layer, up to the first that is refused; its own name is none. -/
def addAliases (replace : Bool) (key : String) (r : Roster) :
    List String → Roster × Option RosterFault
  | [] => (r, none)
  | other :: rest =>
    if lower other = key then addAliases replace key r rest
    else match if replace then none else r.aliasFault? key other with
      | some fault => (r, some fault)
      | none =>
        let aliases := OrderedMap.insert (lower other) key r.aliases
        addAliases replace key { r with aliases } rest

/-- Registers a layer under a name with aliases. A name that is taken stays with its layer unless it
is to be replaced. -/
def register (r : Roster) (name : String) (layer : Layer) (aliases : List String := [])
    (replace : Bool := false) : Roster × Option RosterFault :=
  let key := lower name
  if OrderedMap.contains key r.layers && !replace then (r, none)
  else
    let r := { r with
      layers := OrderedMap.insert key layer r.layers
      order := if r.order.contains key then r.order else r.order ++ [key] }
    addAliases replace key r aliases

/-- Registers the layer of a generator. -/
def registerGenerator (r : Roster) (name generator : String) (aliases : List String := [])
    (replace : Bool := false) : Roster × Option RosterFault :=
  match Layer.ofGenerator? generator with
  | some layer => r.register name layer aliases replace
  | none => (r, some .notGenerator)

/-- Strikes a layer and its aliases. -/
def unregister (r : Roster) (name : String) : Roster where
  layers := OrderedMap.erase (lower name) r.layers
  aliases := r.aliases.filter (·.2 != lower name)
  order := r.order.erase (lower name)

/-- The names in the order of generation. -/
def names (r : Roster) : List String := r.order

/-- The primary name that a name or an alias stands for. -/
def resolve (r : Roster) (name : String) : Except RosterFault String :=
  if OrderedMap.contains (lower name) r.layers then .ok (lower name)
  else match OrderedMap.get? (lower name) r.aliases with
    | some target => .ok target
    | none => .error (.unknown name r.names)

def isSupported (r : Roster) (name : String) : Bool :=
  OrderedMap.contains (lower name) r.layers || OrderedMap.contains (lower name) r.aliases

def primary (r : Roster) (key : String) : Except RosterFault Layer :=
  match OrderedMap.get? key r.layers with
  | some layer => .ok layer
  | none => .error (.missing key)

def layer (r : Roster) (name : String) : Except RosterFault Layer := do
  r.primary (← r.resolve name)

/-- The layers of some names, each once and in the order of generation; no names ask for all. -/
def select (r : Roster) (wanted : List String) : Except RosterFault (List Layer) := do
  let keys ← wanted.mapM r.resolve
  let chosen := if wanted.isEmpty then r.order else r.order.filter keys.contains
  chosen.mapM r.layer

/-- The aliases of a primary name in the order of texts. -/
def aliasesFor (r : Roster) (name : String) : List String :=
  ((r.aliases.filter (·.2 == lower name)).map (·.1)).mergeSort fun a b => decide (a ≤ b)

def info (r : Roster) (name : String) : Except RosterFault LayerInfo := do
  let key ← r.resolve name
  let layer ← r.primary key
  return { name := key, generator := layer.generator, description := layer.description,
           aliases := r.aliasesFor key, home := layer.home }

def builtin : Roster :=
  Layer.all.foldl (fun r l => (r.register l.name l [l.byname]).1) empty

end Roster

end GoScaffold
