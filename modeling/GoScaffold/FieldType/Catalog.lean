import GoScaffold.FieldType.Basic
import GoScaffold.OrderedMap
import GoScaffold.Text.Similarity

/-!
# Catalogs of field types

The field types that may be named, by name and by alias, as left by a history of registrations. A
type of a given name is preferred to an alias of that name, whichever came first.
-/
namespace GoScaffold

open GoScaffold.Text

/-- The registered types by name, and the aliases, each with the type it was last given to. -/
structure Catalog where
  types : List (String × FieldType) := []
  aliases : List (String × String) := []
  deriving Repr, DecidableEq

namespace Catalog

def empty : Catalog := {}

def register (c : Catalog) (t : FieldType) (aliases : List String := []) : Catalog where
  types := OrderedMap.insert t.name t c.types
  aliases := aliases.foldl (fun m a => OrderedMap.insert a t.name m) c.aliases

/-- The name of the type that a token stands for. -/
def resolve (c : Catalog) (token : String) : Option String :=
  if OrderedMap.contains token c.types then some token else OrderedMap.get? token c.aliases

def lookup (c : Catalog) (token : String) : Option FieldType :=
  (c.resolve token).bind fun name => OrderedMap.get? name c.types

def isSupported (c : Catalog) (token : String) : Bool := (c.resolve token).isSome

/-- The type names in the order of their first registration. -/
def names (c : Catalog) : List String := OrderedMap.keys c.types

/-- The type names, then the aliases. -/
def allNames (c : Catalog) : List String := c.names ++ OrderedMap.keys c.aliases

/-- The aliases of a type in the order of texts. -/
def aliasesFor (c : Catalog) (name : String) : List String :=
  ((c.aliases.filter (·.2 == name)).map (·.1)).mergeSort fun a b => decide (a ≤ b)

/-- The names that an unknown token may have meant: those that differ only in letter case, then
the close ones, then the ones close to the token in lower case. -/
def suggest (c : Catalog) (token : String) (limit : Nat := 3) : List String :=
  let folded := c.allNames.filter fun n => lower n == lower token
  let close := closeMatches limit token c.allNames
  let closeFolded := closeMatches limit (lower token) c.allNames
  (folded ++ close ++ closeFolded).eraseDups.take limit

/-- A number of suggestions that is not positive. -/
structure BadLimit where
  limit : Int
  deriving Repr, DecidableEq

def BadLimit.message (e : BadLimit) : String := s!"n must be > 0: {e.limit}"

def suggestUpTo (c : Catalog) (token : String) (limit : Int) : Except BadLimit (List String) :=
  if limit ≤ 0 then .error ⟨limit⟩ else .ok (c.suggest token limit.toNat)

def builtin : Catalog :=
  FieldType.builtin.foldl (fun c t =>
    c.register t ((FieldType.builtinAliases.filter (·.2 == t.name)).map (·.1))) empty

end Catalog

/-- The Go type of a built-in name; any other name stands for itself. -/
def goTypeOf (name : String) : String :=
  match Catalog.builtin.lookup name with
  | some t => t.goType
  | none => name

/-- The zero value of a built-in name, `nil` for any other. -/
def zeroValueOf (name : String) : String :=
  match Catalog.builtin.lookup name with
  | some t => t.zeroValue
  | none => "nil"

end GoScaffold
