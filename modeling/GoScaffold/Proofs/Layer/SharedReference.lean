import GoScaffold.Proofs.Layer.Repository
import GoScaffold.Proofs.Layer.Spelled

/-!
# References in the shares of an entity

What the lines refer to that an entity has in the shared files. The blocks refer to no package, the
domain errors apart. The types refer to the domain and to the packages of the fields that they list.
-/
namespace GoScaffold

open GoScaffold.Text GoScaffold.Naming GoScaffold.Template

/-- Further declarations that refer to nothing that the block does not refer to. -/
theorem reads_blockLines {comment : String} {declarations more : List (String × String)}
    {names : List String} (h : Reads .start (blockLines comment declarations) names .start)
    (hmore : ∀ d ∈ more, Reads .start ["\t" ++ d.1 ++ " = " ++ d.2] names .start) :
    Reads .start (blockLines comment (declarations ++ more)) names .start := by
  have hlines : blockLines comment (declarations ++ more) =
      blockLines comment declarations ++ more.map fun d => "\t" ++ d.1 ++ " = " ++ d.2 := by
    simp [blockLines]
  rw [hlines]
  refine (h.append (.map hmore)).congr fun name => ?_
  simp only [List.mem_append, List.mem_flatMap]
  constructor
  · rintro (hmem | ⟨_, _, hmem⟩)
    · exact hmem
    · exact hmem
  · exact Or.inl

namespace Entity

variable {e : Entity}

set_option maxRecDepth 4000 in
theorem reads_errorsLines (h : e.IsDescribed) : Reads .start e.errorsLines ["errors"] .start := by
  have hname := outlined_typeName h.name
  have hlabel : Outlined e.label [.gap .phrase] := outlined_label h.name.word
  refine @reads_blockLines _ [_] _ _ ?_ (List.forall_mem_map.2 fun m hm => ?_)
  · simp only [blockLines, List.map_cons, List.map_nil, recordError, newError, goLiteral]
    exact reads_of_outlines (by decide)
  · have hmember := outlined_typeName (h.fieldName m (h.userMembers ▸ hm))
    have hlabel := outlined_label (h.word_member hm)
    simp only [fieldError, newError, goLiteral]
    exact reads_of_outlines (by decide)

set_option maxRecDepth 4000 in
theorem reads_constantsLines (h : e.IsDescribed) : Reads .start e.constantsLines [] .start := by
  have hname := outlined_typeName h.name
  have hsnake := outlined_snake h.name.word
  have htable := outlined_table h
  have hroute := outlined_route h
  refine reads_blockLines ?_ (List.forall_mem_map.2 fun m hm => ?_)
  · simp only [blockLines, List.map_cons, List.map_nil, goLiteral]
    exact reads_of_outlines (by decide)
  · have hmember := outlined_typeName (h.fieldName m (h.userMembers ▸ hm))
    have hcolumn : Outlined m.column [.gap .phrase] := outlined_snake (h.word_member hm)
    simp only [goLiteral]
    exact reads_of_outlines (by decide)

set_option maxRecDepth 4000 in
theorem reads_responseMessagesLines (h : e.IsDescribed) :
    Reads .start e.responseMessagesLines [] .start := by
  have hname := outlined_typeName h.name
  have hplural : Outlined e.pluralName [.gap .word] := outlined_plural h.name
  have hlabel : Outlined e.label [.gap .phrase] := outlined_label h.name.word
  have hpluralLabel : Outlined e.pluralLabel [.gap .phrase] :=
    .phrase (lacks_plural (lacks_joined h.name.word (by decide)))
  simp only [responseMessagesLines, blockLines, successMessages, List.map_cons, List.map_nil, goLiteral]
  exact reads_of_outlines (by decide)

set_option maxRecDepth 4000 in
theorem reads_errorMessagesLines (h : e.IsDescribed) :
    Reads .start e.errorMessagesLines [] .start := by
  have hname := outlined_typeName h.name
  have hlabel : Outlined e.label [.gap .phrase] := outlined_label h.name.word
  refine reads_blockLines (reads_blockLines ?_ (List.forall_mem_map.2 fun m hm => ?_)) ?_
  · simp only [blockLines, List.map_cons, List.map_nil, goLiteral]
    exact reads_of_outlines (by decide)
  · have hm := List.mem_of_mem_filter hm
    have hmember := outlined_typeName (h.fieldName m (h.userMembers ▸ hm))
    have hcolumn : Outlined (replace "_" " " m.column) [.gap .phrase] :=
      .phrase (lacks_replace (by decide) (by decide) (lacks_joined (h.word_member hm) (by decide)))
    simp only [goLiteral]
    exact reads_of_outlines (by decide)
  · simp only [List.forall_mem_cons, List.not_mem_nil, false_implies, implies_true, and_true, goLiteral]
    exact ⟨reads_of_outlines (by decide), reads_of_outlines (by decide)⟩

theorem outlined_ruleTag (e : Entity) (m : Member) :
    Outlined (e.ruleTag m m.rule) [.gap .tag] ∧
      Outlined (e.ruleTag m (FieldType.optionalRule m.rule)) [.gap .tag] := by
  have hrules : ∀ t ∈ FieldType.builtin, Lacks ['\x60', '\n'] (t.validationRule.getD "") ∧
      Lacks ['\x60', '\n'] (FieldType.optionalRule (t.validationRule.getD "")) := by decide
  have htag (rule : String) (h : Lacks ['\x60', '\n'] rule) :
      Outlined (e.ruleTag m rule) [.gap .tag] := by
    refine .tag ?_
    rw [ruleTag]
    split
    · simp +decide only [lacks_append, h, and_self]
    · decide
  obtain ⟨hrule, hoptional⟩ := hrules m.type (mem_builtin m)
  exact ⟨htag _ hrule, htag _ hoptional⟩

/-- The line of a field in an input, whatever stands between its name and its type. -/
theorem reads_inputField (h : e.IsDescribed) {m : Member} (hm : m ∈ e.userMembers) :
    Reads .start ["\t" ++ m.name ++ " " ++ m.goType ++ " " ++ e.fieldTag m "\"" m.rule]
        m.type.imports .start ∧
      Reads .start ["\t" ++ m.name ++ " *" ++ m.goType ++ " " ++
        e.fieldTag m ",omitempty\"" (FieldType.optionalRule m.rule)] m.type.imports .start := by
  have hname := outlined_typeName (h.fieldName m (h.userMembers ▸ hm))
  have hcolumn : Outlined m.column [.gap .phrase] := outlined_snake (h.word_member hm)
  obtain ⟨hrule, hoptional⟩ := outlined_ruleTag e m
  have ht := mem_builtin m
  simp only [fieldTag, Member.goType]
  constructor
  all_goals
    refine reads_of_outlines ?_
    generalize m.field.nullable = nullable
    generalize m.type = t at ht
    revert nullable t
    decide

set_option maxRecDepth 4000 in
theorem reads_dtoLines (h : e.IsDescribed) : Reads .start e.dtoLines
    ("domain" :: e.userMembers.flatMap fun m => m.type.imports) .start := by
  have hname := outlined_typeName h.name
  have hplural : Outlined e.pluralName [.gap .word] := outlined_plural h.name
  have hsnake := outlined_snake h.name.word
  have hpluralSnake : Outlined (snake e.pluralName) [.gap .phrase] := outlined_snake h.name.word.plural
  simp only [dtoLines, typeLine]
  have hcreate := Reads.map fun m hm => (reads_inputField h hm).1
  have hupdate := Reads.map fun m hm => (reads_inputField h hm).2
  refine Reads.congr (.append (.append (.append (.append (?_ : Reads .start _ [] .start) hcreate)
    (?_ : Reads .start _ ["domain"] .start)) hupdate) (?_ : Reads .start _ ["domain"] .start))
    fun name => ?_
  · exact reads_of_outlines (by decide)
  · exact reads_of_outlines (by decide)
  · exact reads_of_outlines (by decide)
  · simp only [List.mem_append, List.mem_cons, List.not_mem_nil]
    tauto

theorem reads_accessorLine (h : e.IsDescribed) {m : Member} (hm : m ∈ e.userMembers)
    (unique : Bool) :
    Reads .start ["\t" ++ ("FindBy" ++ m.name) ++ "(" ++ goIdentifier m.name ++ " " ++
      m.type.goType ++ ") " ++ if unique then "(*domain." ++ e.name ++ ", error)"
        else "([]domain." ++ e.name ++ ", error)"] ("domain" :: m.type.imports) .start := by
  have hname := outlined_typeName h.name
  have hfield := h.fieldName m (h.userMembers ▸ hm)
  have hmember := outlined_typeName hfield
  have hparameter := outlined_goIdentifier (isIdentifier_of_isTypeName hfield)
  have ht := mem_builtin m
  refine reads_of_outlines ?_
  generalize m.type = t at ht
  revert unique t
  decide

theorem reads_accessorLines (h : e.IsDescribed) :
    Reads .start (e.accessors.map fun a => "\t" ++ a.method ++ "(" ++ goIdentifier a.field ++ " " ++
      a.goType ++ ") " ++ a.results e.name)
      (e.searchableMembers.flatMap fun m => "domain" :: m.type.imports) .start := by
  rw [accessors_eq h, List.map_map]
  refine Reads.map fun m hm => ?_
  have hline := reads_accessorLine h (List.mem_of_mem_filter hm) m.plan.unique
  cases hunique : m.plan.unique <;> rw [hunique] at hline <;>
    simpa [Accessor.results, Accessor.isUnique, hunique] using hline

set_option maxRecDepth 4000 in
theorem reads_transactionLines (h : e.IsDescribed) : Reads .start e.transactionLines
    (if e.settings.transactions.truthy then ["domain", "gorm"] else []) .start := by
  have hname := outlined_typeName h.name
  have hvariable := outlined_variableName h
  exact Reads.ite fun _ => reads_of_outlines (by decide)

set_option maxRecDepth 4000 in
theorem reads_interfaceLines (h : e.IsDescribed) : Reads .start e.interfaceLines
    ("domain" :: (e.searchableMembers.flatMap fun m => m.type.imports) ++
      if e.settings.transactions.truthy then ["gorm"] else []) .start := by
  have hname := outlined_typeName h.name
  have hvariable := outlined_variableName h
  simp only [interfaceLines, typeLine]
  refine Reads.congr (.append (.append (.append (.append (?_ : Reads .start _ ["domain"] .start)
    (reads_accessorLines h)) (?_ : Reads .start _ ["domain"] .start)) (reads_transactionLines h))
    (?_ : Reads .start _ [] .start)) fun name => ?_
  · exact reads_of_outlines (by decide)
  · exact reads_of_outlines (by decide)
  · exact reads_of_outlines (by decide)
  · by_cases hdomain : name = "domain"
    · simp [hdomain]
    · split <;> simp [hdomain]

end Entity

end GoScaffold
