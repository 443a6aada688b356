import GoScaffold.Layer.Repository
import GoScaffold.Proofs.GoSource.Declared
import GoScaffold.Proofs.Naming.TypeName

/-!
# Methods in generated source

What a caller sees of the methods that an interface lists and of those that a type has: their names,
the types of their parameters, and their results. Of a lookup also the column that it asks for.
-/
namespace GoScaffold

open GoScaffold.Text GoScaffold.Naming

/-- A method as its callers see it, its parameters without their names. -/
structure MethodType where
  name : String
  parameters : List String
  results : String
  deriving Repr, DecidableEq

def Method.type (m : Method) : MethodType where
  name := m.name
  parameters := m.parameters.map Parameter.type
  results := m.results

def parameterType? (s : String) : Option String :=
  (cutAt? ' ' (s.toList.dropWhile (· == ' '))).map fun p => .ofList p.2

def parameterTypes? (s : String) : Option (List String) :=
  if s = "" then some [] else (splitAt ',' s).mapM parameterType?

def methodType? (signature : String) : Option MethodType := do
  let (name, rest) ← cutAt? '(' signature.toList
  let (parameters, rest) ← cutAt? ')' rest
  let types ← parameterTypes? (.ofList parameters)
  let results ← behindStart? " " (.ofList rest)
  return { name := .ofList name, parameters := types, results }

/-- A parameter whose text shows where its name ends, and which ends where the text does. -/
structure Parameter.IsReadable (p : Parameter) : Prop where
  name : p.name ≠ "" ∧ ' ' ∉ p.name.toList
  ends : Lacks [',', ')'] p.text

@[mk_iff]
structure Method.IsReadable (m : Method) : Prop where
  name : '(' ∉ m.name.toList
  parameters : ∀ p ∈ m.parameters, p.IsReadable

/-- The text of a parameter is cut behind its name, with a blank in front of it or without. -/
theorem Parameter.IsReadable.cut_eq {p : Parameter} (h : p.IsReadable) :
    cutAt? ' ' (p.text.toList.dropWhile (· == ' ')) = some (p.name.toList, p.type.toList) ∧
      cutAt? ' ' ((" " ++ p.text).toList.dropWhile (· == ' ')) =
        some (p.name.toList, p.type.toList) := by
  have htext : p.text.toList = p.name.toList ++ ' ' :: p.type.toList := by simp [Parameter.text]
  have hstart : p.text.toList.dropWhile (· == ' ') = p.text.toList := by
    cases hname : p.name.toList with
    | nil => exact absurd (String.toList_eq_nil_iff.1 hname) h.name.1
    | cons c cs =>
      have hc : c ≠ ' ' := fun he => h.name.2 (by simp [hname, he])
      rw [htext, hname, List.cons_append, List.dropWhile_cons_of_neg (by simpa using hc)]
  have hcut : cutAt? ' ' p.text.toList = some (p.name.toList, p.type.toList) :=
    cutAt?_eq_some_iff.2 ⟨htext, h.name.2⟩
  simp [hstart, hcut]

theorem Parameter.IsReadable.type_eq {p : Parameter} (h : p.IsReadable) :
    parameterType? p.text = some p.type ∧ parameterType? (" " ++ p.text) = some p.type := by
  simp [parameterType?, -String.toList_append, h.cut_eq]

/-- Joined with commas and blanks, texts are cut apart at the commas. -/
theorem splitAt_join_comma {s : String} {ss : List String} (h : ∀ t ∈ s :: ss, ',' ∉ t.toList) :
    splitAt ',' (join ", " (s :: ss)) = s :: ss.map (" " ++ ·) := by
  induction ss generalizing s with
  | nil => simp [splitAt, join, piecesAt_of_not_mem (h s (by simp))]
  | cons t ss ih =>
    have hs : ',' ∉ s.toList := h s (by simp)
    have ih := ih fun u hu => h u (List.mem_cons_of_mem _ hu)
    have hblank : piecesAt ',' (' ' :: (join ", " (t :: ss)).toList) =
        (' ' :: t.toList) :: (ss.map (" " ++ ·)).map String.toList := by
      have hpieces := congrArg (List.map String.toList) ih
      simp only [splitAt, List.map_map, Function.comp_def, String.toList_ofList, List.map_id',
        List.map_cons] at hpieces
      simp [piecesAt, hpieces, Function.comp_def]
    have hjoin : (join ", " (s :: t :: ss)).toList =
        s.toList ++ ',' :: ' ' :: (join ", " (t :: ss)).toList := by simp [join]
    rw [splitAt, hjoin, piecesAt_append hs, hblank]
    simp [Function.comp_def]

theorem mapM_of_forall₂ {α β : Type} {f : α → Option β} {xs : List α} {ys : List β}
    (h : List.Forall₂ (fun x y => f x = some y) xs ys) : xs.mapM f = some ys := by
  induction h with
  | nil => rfl
  | cons hx _ ih => simp [List.mapM_cons, hx, ih]

/-- What is read of each of the parameters is read of their list. -/
theorem mapM_parameters {α : Type} {f : String → Option α} {g : Parameter → α} {ps : List Parameter}
    (h : ∀ p ∈ ps, p.IsReadable)
    (hf : ∀ p ∈ ps, f p.text = some (g p) ∧ f (" " ++ p.text) = some (g p)) :
    (if join ", " (ps.map Parameter.text) = "" then some []
      else (splitAt ',' (join ", " (ps.map Parameter.text))).mapM f) = some (ps.map g) := by
  cases ps with
  | nil => rfl
  | cons p ps =>
    rw [List.forall_mem_cons] at h hf
    have hcomma : ∀ t ∈ p.text :: ps.map Parameter.text, ',' ∉ t.toList := by
      rw [List.forall_mem_cons, List.forall_mem_map]
      exact ⟨h.1.ends ',' (by simp), fun q hq => (h.2 q hq).ends ',' (by simp)⟩
    have hne : join ", " (p.text :: ps.map Parameter.text) ≠ "" := by
      intro he
      have hpieces := splitAt_join_comma hcomma
      rw [he] at hpieces
      have htext : "" = p.text := (List.cons.inj hpieces).1
      have hchars := congrArg String.toList htext
      simp [Parameter.text] at hchars
    rw [List.map_cons, if_neg hne, splitAt_join_comma hcomma]
    refine mapM_of_forall₂ (.cons hf.1.1 ?_)
    rw [List.map_map, List.forall₂_map_left_iff, List.forall₂_map_right_iff, List.forall₂_same]
    exact fun q hq => (hf.2 q hq).2

theorem parameterTypes?_join {ps : List Parameter} (h : ∀ p ∈ ps, p.IsReadable) :
    parameterTypes? (join ", " (ps.map Parameter.text)) = some (ps.map Parameter.type) :=
  mapM_parameters h fun p hp => (h p hp).type_eq

theorem Method.IsReadable.lacks_parameters {m : Method} (h : m.IsReadable) :
    ')' ∉ (join ", " (m.parameters.map Parameter.text)).toList := fun hmem => by
  rcases mem_join hmem with hcomma | ⟨t, ht, hmem⟩
  · exact absurd hcomma (by decide)
  · obtain ⟨p, hp, rfl⟩ := List.mem_map.1 ht
    exact (h.parameters p hp).ends ')' (by simp) hmem

/-- A signature is read as the type of its method. -/
theorem Method.IsReadable.type_eq {m : Method} (h : m.IsReadable) :
    methodType? m.signature = some m.type := by
  let texts := join ", " (m.parameters.map Parameter.text)
  have hname : cutAt? '(' m.signature.toList =
      some (m.name.toList, texts.toList ++ ')' :: (" " ++ m.results).toList) :=
    cutAt?_eq_some_iff.2 ⟨by simp [Method.signature, texts], h.name⟩
  have hparameters : cutAt? ')' (texts.toList ++ ')' :: (" " ++ m.results).toList) =
      some (texts.toList, (" " ++ m.results).toList) := cutAt?_eq_some_iff.2 ⟨rfl, h.lacks_parameters⟩
  have htypes : parameterTypes? texts = some (m.parameters.map Parameter.type) :=
    parameterTypes?_join h.parameters
  simp only [methodType?, hname, hparameters, Option.bind_eq_bind, Option.bind_some,
    String.ofList_toList, htypes, behindStart?_append]
  rfl

def beforeEnd? (ending s : String) : Option String :=
  if endsWith s ending then some (.ofList (s.toList.take (s.toList.length - ending.toList.length)))
  else none

theorem beforeEnd?_append (ending s : String) : beforeEnd? ending (s ++ ending) = some s := by
  have hend : endsWith (s ++ ending) ending = true := List.isSuffixOf_iff_suffix.2 (by simp)
  rw [beforeEnd?, if_pos hend]
  simp

/-- The types of the methods that the interface lists, if each of its lines is a method. -/
def interfaceMethods? (interface text : String) : Option (List MethodType) :=
  (bodyOf (· == "type " ++ interface ++ " interface \x7b") (textLines text)).mapM fun l =>
    (behindStart? "\t" l).bind methodType?

/-- How a line starts that opens a method of the type. -/
def methodStart (type : String) : String := "func (r *" ++ type ++ ") "

/-- The types of the methods that the type has, if each of them opens with a signature. -/
def implementedMethods? (type text : String) : Option (List MethodType) :=
  ((textLines text).filterMap (behindStart? (methodStart type))).mapM fun s =>
    (beforeEnd? " \x7b" s).bind methodType?

/-- The column that a line asks for. -/
def asked? (l : String) : Option String :=
  (behindStart? "\tresult := r.db.Where(\"" l).map (upTo ' ')

/-- The column by which the method of the type looks records up. -/
def askedColumn? (type method text : String) : Option String :=
  (bodyOf (startsWith · (methodStart type ++ method ++ "(")) (textLines text)).findSome? asked?

end GoScaffold
