import GoScaffold.Field.Classification
import GoScaffold.Proofs.GoSource.Declared
import GoScaffold.Proofs.Layer.TypeLine

/-!
# Structs in generated source

The structs that a text declares, with their fields, and the methods that a type has in it. The tag
of a field is read as the database reads it, for the column and whether that has a unique index, and
as JSON reads it, for the name of the field there.
-/
namespace GoScaffold

open GoScaffold.Text GoScaffold.Naming

/-- The name and the tag of the field that a line of a struct declares. -/
def taggedField? (l : String) : Option (String × String) := do
  let field ← behindStart? "\t" l
  let (name, rest) ← cutAt? ' ' field.toList
  let (_, rest) ← cutAt? '\x60' rest
  let (tag, _) ← cutAt? '\x60' rest
  return (.ofList name, .ofList tag)

def fieldTag? (struct field text : String) : Option String :=
  OrderedMap.get? field <|
    (bodyOf (· == "type " ++ struct ++ " struct \x7b") (textLines text)).filterMap taggedField?

theorem taggedField?_line {name type tag : String} (hname : ' ' ∉ name.toList)
    (htype : '\x60' ∉ type.toList) (htag : '\x60' ∉ tag.toList) :
    taggedField? ("\t" ++ name ++ " " ++ type ++ " `" ++ tag ++ "`") = some (name, tag) := by
  have hline : "\t" ++ name ++ " " ++ type ++ " `" ++ tag ++ "`" =
      "\t" ++ (name ++ (" " ++ (type ++ (" `" ++ (tag ++ "`"))))) := by
    simp only [String.append_assoc]
  have hfield : cutAt? ' ' (name ++ (" " ++ (type ++ (" `" ++ (tag ++ "`"))))).toList =
      some (name.toList, (type ++ (" `" ++ (tag ++ "`"))).toList) :=
    cutAt?_eq_some_iff.2 ⟨by simp, hname⟩
  have hopen : cutAt? '\x60' (type ++ (" `" ++ (tag ++ "`"))).toList =
      some ((type ++ " ").toList, (tag ++ "`").toList) :=
    cutAt?_eq_some_iff.2 ⟨by simp, by simp [htype]⟩
  have hclose : cutAt? '\x60' (tag ++ "`").toList = some (tag.toList, []) :=
    cutAt?_eq_some_iff.2 ⟨by simp, htag⟩
  simp only [taggedField?, hline, behindStart?_append, hfield, hopen, hclose, Option.bind_eq_bind,
    Option.bind_some, String.ofList_toList]
  rfl

/-- The value behind a key among the pieces of a tag between its quotation marks. -/
def valueBehind? (key : String) : List String → Option String
  | k :: value :: rest =>
    if trim k = key ++ ":" then some value else valueBehind? key rest
  | _ => none

def tagValue? (key tag : String) : Option String := valueBehind? key (splitAt '"' tag)

/-- The options that a struct tag sets for the database. -/
def columnOptions (tag : String) : List String :=
  match tagValue? "gorm" tag with
  | some options => splitAt ';' options
  | none => []

def hasUniqueIndex (tag : String) : Bool := (columnOptions tag).contains "uniqueIndex"

def tagColumn? (tag : String) : Option String :=
  (columnOptions tag).findSome? (behindStart? "column:")

theorem valueBehind?_cons {key k value : String} {rest : List String} :
    valueBehind? key (k :: value :: rest) =
      if trim k = key ++ ":" then some value else valueBehind? key rest := rfl

theorem tagValue?_tagFor {f : Field} {p : Plan} {validation : Bool} (hcolumn : '"' ∉ f.column.toList)
    (hdefault : '"' ∉ p.columnDefault.toList) : tagValue? "gorm" (f.tagFor p validation) =
      some ("column:" ++ f.column ++ ";" ++
        (p.columnDefault ++ if p.unique then ";uniqueIndex" else "")) := by
  let options := "column:" ++ f.column ++ ";" ++
    (p.columnDefault ++ if p.unique then ";uniqueIndex" else "")
  have hoptions : '"' ∉ options.toList := by
    simp only [options]
    split <;> simp [hcolumn, hdefault]
  let rest := match p.validationRule with
    | some rule => if validation && rule != "" then " validate:\"" ++ rule ++ "\"" else ""
    | none => ""
  have hchars : (f.tagFor p validation).toList = "json:".toList ++ '"' ::
      (f.column.toList ++ '"' :: (" gorm:".toList ++ '"' :: (options.toList ++ '"' :: rest.toList))) := by
    simp only [Field.tagFor, options, rest, String.toList_append, List.append_assoc]
    rfl
  have hkey : trim " gorm:" = "gorm" ++ ":" := by decide
  have hother : trim "json:" ≠ "gorm" ++ ":" := by decide
  rw [tagValue?, splitAt, hchars, piecesAt_append (by decide), piecesAt_append hcolumn,
    piecesAt_append (by decide), piecesAt_append hoptions]
  simp only [List.map_cons, String.ofList_toList]
  rw [valueBehind?_cons, if_neg hother, valueBehind?_cons, if_pos hkey]

theorem columnOptions_tagFor {f : Field} {t : FieldType} (ht : t ∈ FieldType.builtin)
    (hcolumn : Lacks ['"', ';'] f.column) (validation : Bool) :
    columnOptions (f.tagFor (t.plan f.name) validation) =
      ("column:" ++ f.column) :: splitAt ';' (t.columnDefault ++
        if (t.plan f.name).unique then ";uniqueIndex" else "") := by
  have hdefault : ∀ t ∈ FieldType.builtin, '"' ∉ t.columnDefault.toList := by decide
  have hfirst : ';' ∉ ("column:" ++ f.column).toList := by simp [hcolumn ';' (by simp)]
  rw [columnOptions, tagValue?_tagFor (hcolumn '"' (by simp)) (hdefault t ht)]
  have hchars (rest : String) : ("column:" ++ f.column ++ ";" ++ rest).toList =
      ("column:" ++ f.column).toList ++ ';' :: rest.toList := by simp
  simp only [splitAt, hchars, piecesAt_append hfirst, List.map_cons, String.ofList_toList]
  rfl

/-- The tag of a field names its column, and a unique index if the field is unique. -/
theorem tag_tagFor {f : Field} {t : FieldType} (ht : t ∈ FieldType.builtin)
    (hcolumn : Lacks ['"', ';'] f.column) (validation : Bool) :
    tagColumn? (f.tagFor (t.plan f.name) validation) = some f.column ∧
      hasUniqueIndex (f.tagFor (t.plan f.name) validation) = (t.plan f.name).unique := by
  have hall : ∀ t ∈ FieldType.builtin, ∀ unique : Bool,
      (splitAt ';' (t.columnDefault ++ if unique then ";uniqueIndex" else "")).contains "uniqueIndex" =
        unique := by decide +kernel
  have hother : "uniqueIndex" ≠ "column:" ++ f.column := fun he => by
    have hchars := congrArg String.toList he
    simp at hchars
  have hoptions := columnOptions_tagFor ht hcolumn validation
  constructor
  · rw [tagColumn?, hoptions, List.findSome?_cons, behindStart?_append]
  · rw [hasUniqueIndex, hoptions, List.contains_cons, hall t ht]
    simp [hother]

/-- A struct as it is declared: the names of its fields with their tags. -/
structure GoStruct where
  name : String
  fields : List (String × String)
  deriving Repr, DecidableEq

/-- The name of a field in JSON: the options behind a comma do not belong to it. -/
def jsonKey? (tag : String) : Option String := (tagValue? "json" tag).map (upTo ',')

namespace GoStruct

def fieldNames (s : GoStruct) : List String := s.fields.map (·.1)

/-- The JSON names of the fields, where a field without one counts as well. -/
def keys (s : GoStruct) : List (Option String) := s.fields.map fun f => jsonKey? f.2

/-- No two fields have one name, in Go or in JSON. -/
structure IsDistinct (s : GoStruct) : Prop where
  names : s.fieldNames.Nodup
  keys : s.keys.Nodup

end GoStruct

def structName? (l : String) : Option String :=
  (behindStart? "type " l).bind fun s => if endsWith s " struct \x7b" then some (upTo ' ' s) else none

/-- The structs that lines declare; the fields stand on the lines up to the closing brace. -/
def structsAmong : List String → List GoStruct
  | [] => []
  | l :: ls =>
    match structName? l with
    | some name =>
      { name, fields := (ls.takeWhile (· != "\x7d")).filterMap taggedField? } :: structsAmong ls
    | none => structsAmong ls

def structsOf (text : String) : List GoStruct := structsAmong (textLines text)

theorem behindStart?_of_head {start l : String} {c : Char} {cs : List Char}
    (hstart : start.toList = c :: cs) (h : l.toList.head? ≠ some c) : behindStart? start l = none := by
  have hnot : startsWith l start = false := by
    rw [← Bool.not_eq_true, startsWith, List.isPrefixOf_iff_prefix, hstart]
    rintro ⟨t, ht⟩
    simp [← ht] at h
  rw [behindStart?, hnot]
  rfl

theorem structName?_of_head {l : String} (h : l.toList.head? ≠ some 't') : structName? l = none := by
  rw [structName?, behindStart?_of_head rfl h]
  rfl

theorem structName?_typeLine {name : String} (h : ' ' ∉ name.toList) :
    structName? (Entity.typeLine name "struct") = some name := by
  have hline : Entity.typeLine name "struct" =
      "type " ++ (name ++ (String.singleton ' ' ++ "struct \x7b")) := by
    simp [Entity.typeLine, ← String.toList_inj]
  have hend : endsWith (name ++ (String.singleton ' ' ++ "struct \x7b")) " struct \x7b" = true := by
    rw [endsWith, List.isSuffixOf_iff_suffix]
    exact ⟨name.toList, by simp⟩
  rw [structName?, hline, behindStart?_append, Option.bind_some, if_pos hend, upTo_append h]

section Lines

variable {before body ls : List String}

theorem structsAmong_of_forall (h : ∀ l ∈ before, structName? l = none) (ls : List String) :
    structsAmong (before ++ ls) = structsAmong ls := by
  induction before with
  | nil => rfl
  | cons l before ih =>
    rw [List.forall_mem_cons] at h
    rw [List.cons_append, structsAmong, h.1]
    exact ih h.2

/-- Indented lines open no struct and close none. -/
theorem structsAmong_struct {name : String} (hname : ' ' ∉ name.toList)
    (hbody : ∀ l ∈ body, ['\t'] <+: l.toList) (ls : List String) :
    structsAmong (Entity.typeLine name "struct" :: (body ++ "\x7d" :: ls)) =
      { name, fields := body.filterMap taggedField? } :: structsAmong ls := by
  have hinner : ∀ l ∈ body, (l != "\x7d") = true := fun l hl => by
    simpa using fun he : l = "\x7d" => absurd (hbody l hl) (by rw [he]; decide)
  have hopen : ∀ l ∈ body ++ ["\x7d"], structName? l = none := fun l hl => by
    refine structName?_of_head fun hhead => ?_
    rcases List.mem_append.1 hl with hl | hl
    · obtain ⟨rest, hrest⟩ := hbody l hl
      simp [← hrest] at hhead
    · rw [List.mem_singleton.1 hl] at hhead
      simp at hhead
  have hrest := structsAmong_of_forall hopen ls
  rw [List.append_assoc, List.singleton_append] at hrest
  rw [structsAmong, structName?_typeLine hname, List.takeWhile_append_of_pos hinner,
    List.takeWhile_cons_of_neg (by simp), List.append_nil, hrest]

end Lines

def structLines (s : String × List String) : List String :=
  "" :: Entity.typeLine s.1 "struct" :: (s.2 ++ ["\x7d"])

theorem structsAmong_flatMap {structs : List (String × List String)}
    (h : ∀ s ∈ structs, ' ' ∉ s.1.toList ∧ ∀ l ∈ s.2, ['\t'] <+: l.toList) (ls : List String) :
    structsAmong (structs.flatMap structLines ++ ls) =
      structs.map (fun s => { name := s.1, fields := s.2.filterMap taggedField? }) ++ structsAmong ls := by
  induction structs with
  | nil => rfl
  | cons s structs ih =>
    rw [List.forall_mem_cons] at h
    obtain ⟨hname, hbody⟩ := h.1
    have hlines : (s :: structs).flatMap structLines ++ ls =
        [""] ++ Entity.typeLine s.1 "struct" :: (s.2 ++ "\x7d" :: (structs.flatMap structLines ++ ls)) := by
      simp [structLines]
    have hblank : ∀ l ∈ [""], structName? l = none := List.forall_mem_singleton.2 rfl
    rw [hlines, structsAmong_of_forall hblank, structsAmong_struct hname hbody, ih h.2, List.map_cons,
      List.cons_append]

/-- Without a comma the whole value is the name, with one the part in front of it. -/
theorem jsonKey?_of_toList {tag key : String} {options : List Char} (hkey : Lacks ['"', ','] key)
    (hoptions : '"' ∉ options) (hend : options = [] ∨ [','] <+: options) (rest : List Char)
    (htag : tag.toList = "json:\"".toList ++ (key.toList ++ (options ++ '"' :: rest))) :
    jsonKey? tag = some key := by
  have hvalue : '"' ∉ key.toList ++ options := by simp [hkey '"' (by simp), hoptions]
  have hchars : tag.toList = "json:".toList ++ '"' :: ((key.toList ++ options) ++ '"' :: rest) := by
    simp [htag]
  have hjson : tagValue? "json" tag = some (.ofList (key.toList ++ options)) := by
    rw [tagValue?, splitAt, hchars, piecesAt_append (by decide), piecesAt_append hvalue]
    simp only [List.map_cons]
    rw [valueBehind?_cons, if_pos (by decide)]
  have hcomma : ∀ c ∈ key.toList, (c != ',') = true := fun c hc => by
    simpa using fun he : c = ',' => hkey ',' (by simp) (he ▸ hc)
  have hstop : options.takeWhile (· != ',') = [] := by
    rcases hend with rfl | ⟨behind, rfl⟩
    · rfl
    · rfl
  rw [jsonKey?, hjson, Option.map_some, upTo, String.toList_ofList, List.takeWhile_append_of_pos hcomma,
    hstop, List.append_nil, String.ofList_toList]

def methodOn? (type l : String) : Option String :=
  (behindStart? "func (" l).bind fun s => (cutAt? '*' s.toList).bind fun p =>
    (behindStart? (type ++ ") ") (.ofList p.2)).map (upTo '(')

/-- The methods that the type has, whatever their receivers are called. -/
def methodsOn (type text : String) : List String := (textLines text).filterMap (methodOn? type)

theorem methodOn?_of_head {type l : String} (h : l.toList.head? ≠ some 'f') :
    methodOn? type l = none := by
  rw [methodOn?, behindStart?_of_head rfl h]
  rfl

end GoScaffold
