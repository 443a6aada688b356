import GoScaffold.Proofs.FieldType.Sample
import GoScaffold.Proofs.Layer.Implementation
import GoScaffold.Proofs.Layer.Spelled

/-!
# References in sample records

Of the literals in the records only dates refer to a package. The statements of the SQL form stand in
a raw literal, which no value and no column ends.
-/
namespace GoScaffold

open GoScaffold.Text GoScaffold.Naming GoScaffold.Template GoScaffold.FieldType

variable {name : String} {index : Nat}

theorem exists_quoted (h : IsWord name) (index : Nat) :
    ∃ content, textSample name index = doubleQuoted content ∧ Lacks literalEnds content := by
  obtain ⟨content, hsample, hcontent⟩ := exists_textSample h
  exact ⟨content index, hcontent index, fun c hc => hsample.lacks index c (List.mem_cons_of_mem _ hc)⟩

/-- Other samples depend on the name of the field by two terms only. -/
theorem exists_literal_eq {rule : SampleRule} (hrule : rule ≠ .text) (name : String) (index : Nat) :
    ∃ known ∈ ["age", "price", ""], rule.literal name index = rule.literal known index := by
  have hknown : isCalled (snake "age") ["age"] = true ∧ isCalled (snake "") ["age"] = false ∧
      isCalled (snake "price") ["price"] = true ∧ isCalled (snake "") ["price"] = false := by
    decide
  obtain ⟨hage, hnoAge, hprice, hnoPrice⟩ := hknown
  cases rule with
  | text => exact absurd rfl hrule
  | integer =>
    by_cases h : isCalled (snake name) ["age"] = true
    · refine ⟨"age", by simp, ?_⟩
      rw [literal_integer, literal_integer, integerSample, integerSample, if_pos h, if_pos hage]
    · refine ⟨"", by simp, ?_⟩
      rw [literal_integer, literal_integer, integerSample, integerSample, if_neg h, hnoAge]
      rfl
  | fraction =>
    by_cases h : isCalled (snake name) ["price"] = true
    · refine ⟨"price", by simp, ?_⟩
      rw [literal_fraction, literal_fraction, fractionSample, fractionSample, if_pos h, if_pos hprice]
    · refine ⟨"", by simp, ?_⟩
      rw [literal_fraction, literal_fraction, fractionSample, fractionSample, if_neg h, hnoPrice]
      rfl
  | flag | date | bytes | constant => exact ⟨"", by simp, rfl⟩

/-- No sample ends a raw literal or a line. -/
theorem lacks_literal (h : IsWord name) (hindex : index < sampleCount) {t : FieldType}
    (ht : t ∈ FieldType.builtin) : Lacks ['\x60', '\n'] (t.sample.literal name index) := by
  by_cases hrule : t.sample = .text
  · obtain ⟨content, hcontent, hlacks⟩ := exists_quoted h index
    rw [hrule, literal_text, hcontent, doubleQuoted]
    have hends : ['\x60', '\n'] ⊆ literalEnds := by simp [literalEnds]
    simp only [lacks_append]
    exact ⟨⟨by decide, fun c hc => hlacks c (hends hc)⟩, by decide⟩
  · obtain ⟨known, hknown, hliteral⟩ := exists_literal_eq hrule name index
    have hclosed : ∀ t ∈ FieldType.builtin, t.sample ≠ .text → ∀ known ∈ ["age", "price", ""],
        ∀ index < sampleCount, Lacks ['\x60', '\n'] (t.sample.literal known index) := by
      decide
    rw [hliteral]
    exact hclosed t ht hrule known hknown index hindex

theorem lacks_sqlLiteral {m : Member} (h : IsWord m.name) (hindex : index < sampleCount) :
    Lacks ['\x60', '\n'] (sqlLiteral m (m.type.sample.literal m.name index) index) := by
  have hliteral := lacks_literal h hindex (mem_builtin m)
  have hday : ∀ index < sampleCount, Lacks ['\x60', '\n'] (zeroPadded 2 (index + 1)) := by
    decide
  rw [sqlLiteral]
  split
  · simp only [lacks_append]
    exact ⟨⟨by decide, lacks_replace (by decide) (by decide) (lacks_trimmed hliteral)⟩, by decide⟩
  · simp only [lacks_append]
    exact ⟨⟨by decide, hday index hindex⟩, by decide⟩
  · exact hliteral

namespace Entity

variable {e : Entity}

theorem reads_sampleLine (h : e.IsDescribed) {m : Member} (hm : m ∈ e.userMembers)
    (hindex : index < sampleCount) :
    Reads .start ["\t\t\t" ++ (m.name ++ ": " ++ m.type.sample.literal m.name index ++ ",")]
      m.type.imports .start := by
  have hname := outlined_typeName (h.fieldName m (h.userMembers ▸ hm))
  have ht := mem_builtin m
  by_cases hrule : m.type.sample = .text
  · obtain ⟨content, hcontent, hlacks⟩ := exists_quoted (h.word_member hm) index
    have hcontent' := Outlined.phrase hlacks
    rw [hrule, literal_text, hcontent, doubleQuoted]
    refine reads_of_outlines ?_
    generalize m.type = t at ht hrule
    revert t
    decide
  · obtain ⟨known, hknown, hliteral⟩ := exists_literal_eq hrule m.name index
    rw [hliteral]
    refine reads_of_outlines ?_
    clear hliteral
    generalize m.type = t at ht hrule
    revert t known index
    decide

theorem reads_recordLines (h : e.IsDescribed) (hindex : index < sampleCount) :
    Reads .start (Source.linesAt 2 (recordSource (e.sampleRow index)))
      (e.userMembers.flatMap fun m => m.type.imports) .start := by
  have hopening : Reads .start ["\t\t\x7b"] [] .start := reads_of_outlines (by decide)
  have hclosing : Reads .start ["\t\t\x7d,"] [] .start := reads_of_outlines (by decide)
  have hfields := Reads.map fun m hm => reads_sampleLine h (m := m) hm hindex
  have hlines : Source.linesAt 2 (recordSource (e.sampleRow index)) = ["\t\t\x7b"] ++
      (e.userMembers.map fun m =>
        "\t\t\t" ++ (m.name ++ ": " ++ m.type.sample.literal m.name index ++ ",")) ++
      ["\t\t\x7d,"] := by
    simp [recordSource, sampleRow, Source.linesAt, Source.allLinesAt_eq, Source.indentedLine, times,
      concat, List.flatMap_map, Function.comp_def]
    rw [List.map_eq_flatMap]
  rw [hlines]
  exact ((hopening.append hfields).append hclosing).congr (by simp)

theorem outlined_values {row : List (Member × String)} {f : Member × String → String}
    (h : ∀ p ∈ row, Lacks ['\x60', '\n'] (f p)) : Outlined (join ", " (row.map f)) [.gap .tag] :=
  .tag (lacks_join (by decide) (List.forall_mem_map.2 h))

/-- The statement that inserts a record stays in the literal around it. -/
theorem reads_insertLine (h : e.IsDescribed) (hindex : index < sampleCount) :
    Reads .raw (Source.linesAt 1 (e.insertLine index)) [] .raw := by
  have hpair : ∀ p ∈ (e.sampleRow index).filter fun p => !p.1.type.isOpaque, IsWord p.1.name ∧
      p.2 = p.1.type.sample.literal p.1.name index := fun p hp => by
    obtain ⟨m, hm, rfl⟩ := List.mem_map.1 (List.mem_of_mem_filter hp)
    exact ⟨h.word_member hm, rfl⟩
  have hcolumns := outlined_values (f := fun p => snake p.1.name) fun p hp =>
    lacks_join_lowerWords (hpair p hp).1 (by decide) (by decide)
  have hvalues := outlined_values (f := fun p => sqlLiteral p.1 p.2 index) fun p hp =>
    (hpair p hp).2 ▸ lacks_sqlLiteral (hpair p hp).1 hindex
  have htable := outlined_table h
  rw [insertLine, Source.linesAt]
  exact reads_of_outlines (by decide)

theorem reads_sqlBody (h : e.IsDescribed) :
    Reads .start (Source.allLinesAt 1 e.sqlBody) [] .start := by
  have htable := outlined_table h
  have hopening : Reads .start ["\treturn `-- Sample data for table " ++ e.table] [] .raw :=
    reads_of_outlines (by decide)
  have hclosing : Reads .raw ["`"] [] .start := reads_of_outlines (by decide)
  have hinserts := Reads.flatMap_nil fun i hi => reads_insertLine h (List.mem_range.1 hi)
  rw [sqlBody]
  split
  · have hempty : Reads .start ["\treturn \"\""] [] .start := reads_of_outlines (by decide)
    exact hempty
  · simpa [Source.allLinesAt_eq, Source.linesAt, Source.indentedLine, times, concat, List.flatMap_map,
      ← String.append_assoc] using (hopening.append hinserts).append hclosing

set_option maxRecDepth 4000 in
theorem reads_samplesSource (h : e.IsDescribed) : Reads .start (Source.allLinesAt 0 e.samplesSource)
    (e.userMembers.flatMap fun m => m.type.imports) .start := by
  have hname := outlined_typeName h.name
  have hlabel : Outlined e.label [.gap .phrase] := outlined_label h.name.word
  have hrecords := Reads.flatMap fun i hi => reads_recordLines h (List.mem_range.1 hi)
  have hopening : Reads .start ["// Get" ++ e.name ++ "Seeds returns sample " ++ e.label ++ " records.",
      "func Get" ++ e.name ++ "Seeds() []" ++ e.name ++ " \x7b", "\treturn []" ++ e.name ++ "\x7b"] []
      .start := reads_of_outlines (by decide)
  have hbetween : Reads .start ["\t\x7d", "\x7d", "", "// GetSQL" ++ e.name ++
      "Seeds returns SQL INSERT statements for " ++ e.label ++ ".",
      "func GetSQL" ++ e.name ++ "Seeds() string" ++ " \x7b"] [] .start :=
    reads_of_outlines (by decide)
  have hclosing : Reads .start ["\x7d"] [] .start := reads_of_outlines (by decide)
  have hall := (((hopening.append hrecords).append hbetween).append (reads_sqlBody h)).append hclosing
  have hnames : ∀ name, name ∈ [] ++ ((List.range sampleCount).flatMap fun _ =>
      e.userMembers.flatMap fun m => m.type.imports) ++ [] ++ [] ++ [] ↔
        name ∈ e.userMembers.flatMap fun m => m.type.imports := by
    simp only [sampleCount, List.append_nil, List.nil_append, List.mem_flatMap, List.mem_range]
    exact fun name => ⟨fun ⟨_, _, hmem⟩ => hmem, fun hmem => ⟨0, by decide, hmem⟩⟩
  simpa [samplesSource, sampleRows, Source.allLinesAt_eq, Source.linesAt, Source.braces,
    Source.funcOpening, Source.indentedLine, times, concat, List.flatMap_map,
    ← String.append_assoc] using hall.congr hnames

end Entity

end GoScaffold
