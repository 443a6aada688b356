import GoScaffold.Proofs.Text.Pieces
import GoScaffold.Template.Builtin

/-!
# What generated source declares

The names that a reader finds in a generated file, line by line: the errors that a function returns,
the names that a block declares, the methods that an interface lists, and those that a type has.
-/
namespace GoScaffold

open GoScaffold.Text GoScaffold.Template

def textLines (text : String) : List String := splitAt '\n' text

theorem textLines_textOf {ls : List String} (h : ∀ l ∈ ls, '\n' ∉ l.toList) :
    textLines (textOf ls) = ls ++ [""] := by
  induction ls with
  | nil => rfl
  | cons l ls ih =>
    have hl : '\n' ∉ l.toList := h l (by simp)
    have ih := ih fun m hm => h m (by simp [hm])
    have htext : (textOf (l :: ls)).toList = l.toList ++ '\n' :: (textOf ls).toList := by
      simp [textOf, concat]
    rw [textLines, splitAt] at ih ⊢
    rw [htext, piecesAt_append hl, List.map_cons, ih, String.ofList_toList, List.cons_append]

/-- The lines behind the first line of a kind, up to the closing brace of a declaration. -/
def bodyOf (opens : String → Bool) (ls : List String) : List String :=
  ((ls.dropWhile fun l => !opens l).drop 1).takeWhile (· != "\x7d")

theorem bodyOf_eq {opens : String → Bool} {before body : List String} {opening : String}
    (hbefore : ∀ l ∈ before, opens l = false) (hopening : opens opening = true)
    (hbody : "\x7d" ∉ body) (rest : List String) :
    bodyOf opens (before ++ opening :: (body ++ "\x7d" :: rest)) = body := by
  have hdrop : (before ++ opening :: (body ++ "\x7d" :: rest)).dropWhile (fun l => !opens l) =
      opening :: (body ++ "\x7d" :: rest) := by
    rw [List.dropWhile_append_of_pos fun l hl => by simp [hbefore l hl],
      List.dropWhile_cons_of_neg (by simp [hopening])]
  have hinner : ∀ l ∈ body, (l != "\x7d") = true := fun l hl => by
    simpa using fun he : l = "\x7d" => hbody (he ▸ hl)
  rw [bodyOf, hdrop, List.drop_one, List.tail_cons, List.takeWhile_append_of_pos hinner,
    List.takeWhile_cons_of_neg (by simp), List.append_nil]

/-- The text behind a start, if it has that start. -/
def behindStart? (start s : String) : Option String :=
  if startsWith s start then some (.ofList (s.toList.drop start.toList.length)) else none

theorem behindStart?_append (start s : String) : behindStart? start (start ++ s) = some s := by
  have hstart : startsWith (start ++ s) start = true :=
    List.isPrefixOf_iff_prefix.2 (by simp)
  rw [behindStart?, if_pos hstart]
  simp

def upTo (d : Char) (s : String) : String := .ofList (s.toList.takeWhile (· != d))

theorem upTo_append {d : Char} {s : String} (h : d ∉ s.toList) (rest : String) :
    upTo d (s ++ (String.singleton d ++ rest)) = s := by
  have hs : ∀ c ∈ s.toList, (c != d) = true := fun c hc => by
    simpa using fun he : c = d => h (he ▸ hc)
  rw [upTo, String.toList_append, List.takeWhile_append_of_pos hs]
  simp

/-- What a line returns, unless that is nothing. -/
def returned? (l : String) : Option String :=
  (behindStart? "return " (.ofList (l.toList.dropWhile (· == '\t')))).filter (· != "nil")

/-- The name that a line of a block of declarations gives a value. -/
def declared? (l : String) : Option String :=
  (behindStart? "\t" l).bind fun s =>
    ((cutAt? ' ' s.toList).filter fun p => ['=', ' '].isPrefixOf p.2).map fun p => .ofList p.1

def listed? (l : String) : Option String := (behindStart? "\t" l).map (upTo '(')

def defined? (type l : String) : Option String :=
  (behindStart? ("func (r *" ++ type ++ ") ") l).map (upTo '(')

/-- A line that opens the check of the values of a record. -/
def opensValidate (l : String) : Bool :=
  startsWith l "func (" && endsWith l ") Validate() error \x7b"

/-- The errors that the check of a record returns. -/
def returnedErrors (text : String) : List String :=
  (bodyOf opensValidate (textLines text)).filterMap returned?

def declaredNames (text : String) : List String := (textLines text).filterMap declared?

def listedMethods (interface text : String) : List String :=
  (bodyOf (· == "type " ++ interface ++ " interface \x7b") (textLines text)).filterMap listed?

theorem listedMethods_textOf {interface opening : String} {before body rest : List String}
    (hopening : opening = "type " ++ interface ++ " interface \x7b")
    (hlines : ∀ l ∈ before ++ opening :: (body ++ "\x7d" :: rest), '\n' ∉ l.toList)
    (hbefore : opening ∉ before) (hbody : "\x7d" ∉ body) :
    listedMethods interface (textOf (before ++ opening :: (body ++ "\x7d" :: rest))) =
      body.filterMap listed? := by
  have hother : ∀ l ∈ before, (l == opening) = false := fun l hl => by
    simpa using fun he : l = opening => hbefore (he ▸ hl)
  have happend : before ++ opening :: (body ++ "\x7d" :: rest) ++ [""] =
      before ++ opening :: (body ++ "\x7d" :: (rest ++ [""])) := by simp
  rw [listedMethods, textLines_textOf hlines, happend, ← hopening,
    bodyOf_eq hother (by simp) hbody]

def definedMethods (type text : String) : List String :=
  (textLines text).filterMap (defined? type)

end GoScaffold
