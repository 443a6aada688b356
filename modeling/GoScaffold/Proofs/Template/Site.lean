import GoScaffold.Proofs.OrderedMap
import GoScaffold.Template.Shelf

/-!
# Where templates are to be found

The site of a template is the first file of the template directory that has its name, in the order
of paths, and the built-in text where there is no such file. What a shelf reports and what a press
reads is what stands there.
-/
namespace GoScaffold.Template

open GoScaffold.Text

/-- A file with a template, or a built-in text. -/
inductive Site
  | file (path : Path)
  | builtin (text : String)
  deriving Repr, DecidableEq

namespace Site

def origin : Site → Origin
  | .file _ => .custom
  | .builtin _ => .builtin

def textIn (t : Tree) : Site → Except ReadFault String
  | .file path => t.readText path
  | .builtin text => .ok text

/-- The mark of a site, which is a new one after every write. -/
def source (t : Tree) : Site → Option (Path × Nat)
  | .file path =>
    let stamp := match t.find path with
      | .ok (.file _ stamp) => stamp
      | _ => 0
    some (path, stamp)
  | .builtin _ => none

/-- What the text at a site comes to as the template of a name. -/
def render (t : Tree) (name : String) (scope : Scope) (site : Site) : Except TemplateFault String :=
  match site.textIn t with
  | .error f => .error (.unreadable name f)
  | .ok text =>
    match compile (some name) text with
    | .error (.malformed f) => .error (.malformed name f)
    | .error (.failed f) => .error (.failed name f)
    | .ok nodes => (nodes.textFor scope).mapError (.failed name)

end Site

namespace Shelf

/-- The first file of a directory that is the template of a name. -/
def firstFile? (t : Tree) (dir : Path) (name : String) : Option Path :=
  match t.locate dir with
  | .error _ => none
  | .ok l =>
    let first := (t.filesBelow l).find? fun segments =>
      decide (name ≠ "" ∧ logicalName? (join "/" segments) = some name)
    first.map fun segments => { dir with segments := dir.segments ++ segments }

/-- The site of a template at the moment, if there is one. -/
def site? (s : Shelf) (t : Tree) (name : String) : Except FileError (Option Site) :=
  let builtin := (OrderedMap.get? name s.builtins).map Site.builtin
  match s.directory with
  | none => .ok builtin
  | some dir => (t.isDirectory dir).map fun present =>
    if present then ((firstFile? t dir name).map Site.file).or builtin else builtin

/-- What the template of a name comes to at the moment. -/
def renderNow (s : Shelf) (t : Tree) (name : String) (scope : Scope) : Except TemplateFault String :=
  match s.site? t name with
  | .error e => .error (.unreadable name (.refused e))
  | .ok none => .error (.absent name)
  | .ok (some site) => site.render t name scope

end Shelf

theorem get?_foldl_first (name : String) (entries m : List (String × Path)) :
    OrderedMap.get? name
        (entries.foldl (fun m e => if OrderedMap.contains e.1 m then m else m ++ [e]) m) =
      (OrderedMap.get? name m).or ((entries.find? fun e => e.1 = name).map (·.2)) := by
  induction entries generalizing m with
  | nil => simp
  | cons e entries ih =>
    rw [List.foldl_cons, ih, List.find?_cons]
    by_cases hname : e.1 = name
    · cases hm : OrderedMap.get? name m with
      | none => simp [OrderedMap.contains, OrderedMap.get?_append, OrderedMap.get?, hname, hm]
      | some path => simp [OrderedMap.contains, hname, hm]
    · by_cases hm : OrderedMap.contains e.1 m = true
      · simp [hname, hm]
      · simp [OrderedMap.get?_append, OrderedMap.get?, hname, hm]

theorem get?_firstOfEach (name : String) (entries : List (String × Path)) :
    OrderedMap.get? name (firstOfEach entries) = (entries.find? fun e => e.1 = name).map (·.2) := by
  rw [firstOfEach, get?_foldl_first]
  simp [OrderedMap.get?]

namespace Shelf

/-- The entry of a file that has the name of a template. -/
def listed? (dir : Path) (segments : List String) : Option (String × Path) :=
  match logicalName? (join "/" segments) with
  | some "" => none
  | some name => some (name, { dir with segments := dir.segments ++ segments })
  | none => none

theorem any_listed? (dir : Path) (segments : List String) (name : String) :
    ((listed? dir segments).any fun e => e.1 = name) =
      decide (name ≠ "" ∧ logicalName? (join "/" segments) = some name) := by
  rw [listed?]
  split
  · next h =>
    rw [h]
    by_cases hname : name = ""
    · simp [hname]
    · simp [hname, Ne.symm hname]
  · next logical hempty h =>
    rw [h]
    by_cases hname : logical = name
    · subst hname
      simpa using hempty
    · simp [hname]
  · next h => simp [h]

theorem templatesIn_of_locate {t : Tree} {dir : Path} {l : Location} (h : t.locate dir = .ok l) :
    templatesIn t dir = firstOfEach ((t.filesBelow l).filterMap (listed? dir)) := by
  rw [templatesIn, h]
  rfl

theorem get?_templatesIn (t : Tree) (dir : Path) (name : String) :
    OrderedMap.get? name (templatesIn t dir) = firstFile? t dir name := by
  rw [firstFile?]
  cases hl : t.locate dir with
  | error r =>
    rw [templatesIn, hl]
    rfl
  | ok l =>
    rw [templatesIn_of_locate hl, get?_firstOfEach, List.find?_filterMap]
    simp only [any_listed?]
    cases hfind : (t.filesBelow l).find? _ with
    | none => rfl
    | some segments =>
      have hfound := List.find?_some hfind
      rw [decide_eq_true_eq] at hfound
      simp [listed?, hfound]

theorem site?_eq (s : Shelf) (t : Tree) (name : String) :
    s.site? t name = (s.custom t).map fun custom =>
      ((OrderedMap.get? name custom).map Site.file).or
        ((OrderedMap.get? name s.builtins).map Site.builtin) := by
  unfold site? custom
  cases s.directory with
  | none => rfl
  | some dir =>
    simp only
    cases t.isDirectory dir with
    | error e => rfl
    | ok present =>
      cases present with
      | false => rfl
      | true => simp [Except.map, get?_templatesIn]

/-- The origin that is reported is the one of the site. -/
theorem origin_eq (s : Shelf) (t : Tree) (name : String) :
    s.origin t name = match s.site? t name with
      | .error e => .error (.unreachable e)
      | .ok none => .error (.absent name)
      | .ok (some site) => .ok site.origin := by
  rw [site?_eq, origin]
  cases s.custom t with
  | error e => rfl
  | ok custom =>
    cases hcustom : OrderedMap.get? name custom with
    | some path => simp [Except.map, OrderedMap.contains, hcustom, Site.origin]
    | none =>
      cases hbuiltin : OrderedMap.get? name s.builtins with
      | none => simp [Except.map, OrderedMap.contains, hcustom, hbuiltin]
      | some text => simp [Except.map, OrderedMap.contains, hcustom, hbuiltin, Site.origin]

end Shelf

end GoScaffold.Template
