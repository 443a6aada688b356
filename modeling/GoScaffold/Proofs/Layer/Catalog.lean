import GoScaffold.Proofs.Layer.Block
import GoScaffold.Proofs.Layer.Share
import GoScaffold.Proofs.Naming.TypeName
import GoScaffold.Proofs.SharedFile.Growth

/-!
# Catalogs of declarations

In four of the shared files every entity gives values to some names. The names of an entity are its
own, those of its fields or its plural between fixed affixes, and such a file declares the names of
all entities that have a share in it.
-/
namespace GoScaffold

open GoScaffold.Text GoScaffold.Naming GoScaffold.Template

theorem declared_of_toList {l : String} (x : String) (rest : List Char) (hx : ' ' ∉ x.toList)
    (hl : l.toList = '\t' :: (x.toList ++ ' ' :: rest)) :
    declared? l = if ['=', ' '] <+: rest then some x else none := by
  have hline : l = "\t" ++ .ofList (x.toList ++ ' ' :: rest) := by
    rw [← String.toList_inj, hl]
    simp
  rw [declared?, hline, behindStart?_append, Option.bind_some, String.toList_ofList,
    cutAt?_eq_some_iff.2 ⟨rfl, hx⟩]
  by_cases hp : ['=', ' '] <+: rest
  · simp [hp, Option.filter]
  · simp [hp, Option.filter]

section Block

variable {comment : String} {declarations : List (String × String)}

theorem start_blockLines (hcomment : '\n' ∉ comment.toList) (h : IsBlock declarations) :
    ∀ l ∈ blockLines comment declarations, '\n' ∉ l.toList ∧ (l = "" ∨ ['\t'] <+: l.toList) := by
  simp only [blockLines, List.forall_mem_cons, List.forall_mem_map]
  refine ⟨by decide, by simp [hcomment], fun d hd => ?_⟩
  simp [(isInline_of_isWord (h.names d hd)).2, (h.values d hd).2]

/-- A block declares its names, unless its comment looks like a declaration. -/
theorem declared_blockLines (hcomment : ¬ ['=', ' '] <+: comment.toList) (h : IsBlock declarations) :
    (blockLines comment declarations).filterMap declared? = declarations.map (·.1) := by
  have hfirst : declared? ("\t// " ++ comment) = none := by
    rw [declared_of_toList "//" comment.toList (by decide) (by simp), if_neg hcomment]
  have hdeclared : ∀ d ∈ declarations, declared? ("\t" ++ d.1 ++ " = " ++ d.2) = some d.1 := by
    intro d hd
    have hblank : ' ' ∉ d.1.toList := (h.names d hd).not_mem (by decide)
    rw [declared_of_toList d.1 ('=' :: ' ' :: d.2.toList) hblank (by simp)]
    simp
  rw [blockLines, List.filterMap_cons_none rfl, List.filterMap_cons_none hfirst, List.filterMap_map,
    ← List.filterMap_eq_map]
  exact List.filterMap_congr hdeclared

end Block

theorem declared_headerLines {package : String} (hpackage : declared? ("package " ++ package) = none)
    {imports : List String} (himports : ∀ i ∈ imports, declared? ("\t\"" ++ i ++ "\"") = none) :
    (headerLines package imports).filterMap declared? = [] := by
  rw [List.filterMap_eq_nil_iff]
  simp only [headerLines, importLines]
  split
  · simp +decide [hpackage]
  · simp only [List.cons_append, List.forall_mem_append, List.forall_mem_cons, List.forall_mem_map]
    exact ⟨hpackage, rfl, rfl, ⟨himports, by simp +decide⟩, by simp +decide⟩

namespace Piece

/-- The file of the piece consists of blocks of declarations. -/
def isCatalog : Piece → Bool
  | .errors | .errorMessages | .responseMessages | .constants => true
  | _ => false

/-- The names to which the entity gives values, with these. -/
def declarations (e : Entity) : Piece → List (String × String)
  | .errors => e.domainErrors
  | .errorMessages => e.errorMessages
  | .responseMessages => e.successMessages
  | .constants => e.constants
  | _ => []

/-- What stands around the name of the entity in the names that every entity declares. -/
def ownAffixes : Piece → List Affix
  | .errorMessages => [⟨"Err", "NotFound"⟩, ⟨"Err", "AlreadyExists"⟩, ⟨"ErrInvalid", "Data"⟩,
      ⟨"Err", "UpdateFailed"⟩, ⟨"Err", "DeleteFailed"⟩]
  | .responseMessages => [⟨"", "CreatedSuccessfully"⟩, ⟨"", "UpdatedSuccessfully"⟩,
      ⟨"", "DeletedSuccessfully"⟩, ⟨"", "FoundSuccessfully"⟩]
  | .constants => [⟨"", "TableName"⟩, ⟨"", "Endpoint"⟩, ⟨"", "CachePrefix"⟩, ⟨"Default", "PerPage"⟩,
      ⟨"Max", "PerPage"⟩]
  | _ => []

/-- What stands around the words of which the other names are made. -/
def wordAffix : Piece → Affix
  | .errors => ⟨"ErrInvalid", ""⟩
  | .errorMessages => ⟨"Err", "Required"⟩
  | .responseMessages => ⟨"", "ListedSuccessfully"⟩
  | .constants => ⟨"", "Column"⟩
  | _ => {}

end Piece

namespace Entity

/-- A field with the name of the entity before it, as in identifiers. -/
def fieldWord (e : Entity) (m : Member) : String := e.name ++ m.name

def fieldWords (e : Entity) : List String := e.userMembers.map e.fieldWord

def requiredWords (e : Entity) : List String :=
  (e.userMembers.filter Member.isRequired).map e.fieldWord

def errorWords (e : Entity) : List String := (e.name ++ "Data") :: e.fieldWords

end Entity

namespace Piece

def words (e : Entity) : Piece → List String
  | .errors => e.errorWords
  | .errorMessages => e.requiredWords
  | .responseMessages => [e.pluralName]
  | .constants => e.fieldWords
  | _ => []

variable {p : Piece} {e : Entity}

theorem unlike_affixes (p : Piece) : (p.wordAffix :: p.ownAffixes).Pairwise Affix.IsUnlike := by
  cases p <;> decide

/-- What an entity declares is its own name and its words between the affixes. -/
theorem names_perm (hp : p.isCatalog = true) (e : Entity) :
    ((p.declarations e).map (·.1)).Perm
      (p.ownAffixes.map (·.around e.name) ++ (p.words e).map p.wordAffix.around) := by
  cases p with
  | errors =>
    refine .of_eq ?_
    simp [declarations, Entity.domainErrors, Entity.recordError, Entity.fieldError, ownAffixes, words,
      Entity.errorWords, Entity.fieldWords, Entity.fieldWord, wordAffix, Affix.around,
      String.append_assoc]
  | errorMessages =>
    -- the names of the fields stand between the entity's own
    rw [declarations, Entity.errorMessages, List.map_append, List.map_append, List.append_assoc]
    refine (List.perm_append_comm.append_left _).trans (.of_eq ?_)
    simp [ownAffixes, words, Entity.requiredWords, Entity.fieldWord, wordAffix, Affix.around,
      String.append_assoc]
  | responseMessages =>
    refine .of_eq ?_
    simp [declarations, Entity.successMessages, ownAffixes, words, wordAffix, Affix.around]
  | constants =>
    refine .of_eq ?_
    simp [declarations, Entity.constants, ownAffixes, words, Entity.fieldWords, Entity.fieldWord,
      wordAffix, Affix.around]
  | entity | samples | dto | repositoryInterface | repositoryImplementation | handler => cases hp

/-- Entities of different names declare different names if their words are different. -/
theorem nodup_names_iff (hp : p.isCatalog = true) {es : List Entity}
    (hnames : (es.map Entity.name).Nodup) :
    (es.flatMap fun e => (p.declarations e).map (·.1)).Nodup ↔ (es.flatMap (words · p)).Nodup := by
  have hperm := List.Perm.flatMap_left es fun e _ => names_perm hp e
  exact hperm.nodup_iff.trans (Affix.nodup_identifiers_iff p.unlike_affixes hnames)

theorem isSome_marker_of_isCatalog (hp : p.isCatalog = true) (e : Entity) :
    (p.marker e).isSome = true := by
  cases p with
  | errors | errorMessages | responseMessages | constants => rfl
  | entity | samples | dto | repositoryInterface | repositoryImplementation | handler => cases hp

theorem isBlock_declarations (h : e.IsDescribed) (hp : p.isCatalog = true) :
    IsBlock (p.declarations e) := by
  cases p with
  | errors => exact h.isBlock_domainErrors
  | errorMessages => exact h.isBlock_errorMessages
  | responseMessages => exact h.isBlock_successMessages
  | constants => exact h.isBlock_constants
  | entity | samples | dto | repositoryInterface | repositoryImplementation | handler => cases hp

/-- The share of an entity is a block under a comment that starts with its name. -/
theorem exists_comment (h : e.IsDescribed) (hp : p.isCatalog = true) :
    ∃ comment, p.lines e = blockLines comment (p.declarations e) ∧ IsInline comment ∧
      ¬ ['=', ' '] <+: comment.toList := by
  have hcomment (rest : String) (hrest : IsInline rest) :
      IsInline (e.name ++ rest) ∧ ¬ ['=', ' '] <+: (e.name ++ rest).toList := by
    refine ⟨isInline_append.2 ⟨h.inline_name, hrest⟩, fun hprefix => ?_⟩
    obtain ⟨c, cs, hc, hupper⟩ := h.name.capital
    rw [String.toList_append, hc, List.cons_append, List.cons_prefix_cons] at hprefix
    rw [← hprefix.1] at hupper
    exact absurd hupper (by decide)
  cases p with
  | errors => exact ⟨_, rfl, hcomment " errors" (by decide)⟩
  | errorMessages => exact ⟨_, rfl, hcomment " errors" (by decide)⟩
  | responseMessages => exact ⟨_, rfl, hcomment " success messages" (by decide)⟩
  | constants => exact ⟨_, rfl, hcomment " constants" (by decide)⟩
  | entity | samples | dto | repositoryInterface | repositoryImplementation | handler => cases hp

theorem declared_lines (h : e.IsDescribed) (hp : p.isCatalog = true) :
    (p.lines e).filterMap declared? = (p.declarations e).map (·.1) := by
  obtain ⟨comment, hlines, -, hcomment⟩ := exists_comment h hp
  rw [hlines, declared_blockLines hcomment (isBlock_declarations h hp)]

theorem start_lines (h : e.IsDescribed) (hp : p.isCatalog = true) :
    ∀ l ∈ p.lines e, '\n' ∉ l.toList ∧ (l = "" ∨ ['\t'] <+: l.toList) := by
  obtain ⟨comment, hlines, hinline, -⟩ := exists_comment h hp
  rw [hlines]
  exact start_blockLines hinline.2 (isBlock_declarations h hp)

/-- The share of an entity consists of declarations. -/
theorem isDeclarative_share (h : e.IsDescribed) (hp : p.isCatalog = true) :
    (p.share e).IsDeclarative := by
  obtain ⟨comment, hlines, -⟩ := exists_comment h hp
  refine isDeclarative_textOf (rfl : _ = textOf (p.lines e)) (by simp [hlines, blockLines]) ?_
  refine fun l hl => ⟨(start_lines h hp l hl).1, fun hword => ?_⟩
  rcases (start_lines h hp l hl).2 with rfl | ⟨rest, hrest⟩
  · exact absurd hword (by decide)
  · simp [← hrest, importWord] at hword

/-- A catalog declares the names of the entities that have a share in it. -/
theorem declaredNames_textUnder (hp : p.isCatalog = true) {parts : List Entity}
    (hparts : ∀ b ∈ parts, b.IsDescribed) (hne : parts ≠ []) {f : SharedFile} {opening : String}
    (hopener : f.opener = textOf [opening]) (hopening : '\n' ∉ opening.toList)
    (hcloser : f.closer = textOf [")"]) (hpackage : Lacks ['\n'] ("package " ++ f.package))
    {head : List String} (hhead : ∀ i ∈ head, Lacks ['\n'] i)
    (hquiet : declared? ("package " ++ f.package) = none ∧ declared? opening = none)
    (himports : ∀ i ∈ head, declared? ("\t\"" ++ i ++ "\"") = none) :
    declaredNames (f.textUnder head (parts.map p.share)) =
      parts.flatMap fun b => (p.declarations b).map (·.1) := by
  have hlines : ∀ l ∈ headerLines f.package head ++ [opening] ++ (parts.flatMap p.lines).tail ++ [")"],
      '\n' ∉ l.toList := by
    have hheader : ∀ l ∈ headerLines f.package head, Lacks ['\n'] l :=
      lacks_headerLines (by decide) hpackage hhead
    simp only [List.forall_mem_append, List.forall_mem_cons]
    refine ⟨⟨⟨fun l hl => hheader l hl _ (by simp), hopening, by simp⟩, fun l hl => ?_⟩, by decide,
      by simp⟩
    obtain ⟨c, hc, hl⟩ := List.mem_flatMap.1 (List.mem_of_mem_tail hl)
    exact (start_lines (hparts c hc) hp l hl).1
  have hopens : [opening].filterMap declared? = [] := by simp [hquiet.2]
  have hshares : (parts.flatMap p.lines).tail.filterMap declared? =
      parts.flatMap fun b => (p.declarations b).map (·.1) := by
    obtain ⟨b, rest, rfl⟩ := List.exists_cons_of_ne_nil hne
    obtain ⟨l, ls, hb, -⟩ := exists_lines (isSome_marker_of_isCatalog hp b)
    have hcons : ((b :: rest).flatMap p.lines) = "" :: ((b :: rest).flatMap p.lines).tail := by
      rw [List.flatMap_cons, hb]
      rfl
    rw [← List.filterMap_cons_none (show declared? "" = none from rfl), ← hcons,
      List.filterMap_flatMap]
    exact List.flatMap_congr fun c hc => declared_lines (hparts c hc) hp
  have hcloses : [")"].filterMap declared? = [] := rfl
  have hlast : [""].filterMap declared? = [] := rfl
  rw [textUnder_shares (fun b _ => isSome_marker_of_isCatalog hp b) hopener hcloser, declaredNames,
    textLines_textOf hlines]
  simp only [List.filterMap_append, declared_headerLines hquiet.1 himports, hopens, hshares, hcloses,
    hlast, List.nil_append, List.append_nil]

end Piece

end GoScaffold
