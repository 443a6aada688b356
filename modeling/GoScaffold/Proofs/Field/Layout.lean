import GoScaffold.Proofs.Field.RoundTrip

/-!
# Layouts of a descriptor

The fields of a descriptor and the fields that the flags manage make one struct: names and columns
are all different, and the struct can be taken apart again into the fields it was made of.
-/
namespace GoScaffold

open GoScaffold.Text GoScaffold.Naming

def isColumnChar (c : Char) : Bool := c.isLower || c.isDigit

/-- Words of small letters and digits behind a small letter, joined by single underscores. -/
def IsColumnName (s : String) : Prop :=
  ∃ c cs rest, s = join "_" (.ofList (c :: cs) :: rest) ∧ c.isLower = true ∧
    (∀ d ∈ cs, isColumnChar d = true) ∧
    ∀ w ∈ rest, w ≠ "" ∧ ∀ d ∈ w.toList, isColumnChar d = true

theorem isColumnChar_toLower {c : Char} (h : c.isAlphanum = true) :
    isColumnChar c.toLower = true := by
  by_cases halpha : c.isAlpha = true
  · simp [isColumnChar, halpha]
  · have hupper : ¬ c.isUpper = true := fun hupper => halpha (by simp [Char.isAlpha, hupper])
    have hdigit : c.isDigit = true := by simpa [Char.isAlphanum, halpha] using h
    simp [isColumnChar, Char.toLower_eq_of_not_isUpper hupper, hdigit]

/-- A word of a name in lower case is a word of a column. -/
theorem isColumnWord_lower {name : String} (h : IsWord name) {w : List Char}
    (hw : w ∈ wordsOf name.toList) :
    lower (.ofList w) ≠ "" ∧ ∀ d ∈ (lower (.ofList w)).toList, isColumnChar d = true := by
  have hlower : (lower (.ofList w)).toList = w.map Char.toLower := by
    rw [lower, String.toList_ofList, String.toList_ofList, lower_of_mem_words h hw]
  have hne : w ≠ [] := by
    have hkept := (List.mem_filter.1 hw).2
    simpa using hkept
  refine ⟨fun hempty => hne ?_, fun d hd => ?_⟩
  · simpa [hempty] using hlower.symm
  · rw [hlower, List.mem_map] at hd
    obtain ⟨c, hc, rfl⟩ := hd
    exact isColumnChar_toLower (h c (mem_of_mem_wordsOf hw hc).1)

theorem isColumnName_snake {name : String} (h : IsTypeName name) : IsColumnName (snake name) := by
  obtain ⟨c, cs, hname, hc⟩ := h.capital
  have halnum : c.isAlphanum = true := h.word c (by simp [hname])
  obtain ⟨w, ws, hwords⟩ := wordsOf_cons (not_isSeparator halnum) cs
  rw [← hname] at hwords
  have hword (v : List Char) (hv : v ∈ (c :: w) :: ws) := isColumnWord_lower h.word (hwords ▸ hv)
  have hfirst : lower (.ofList (c :: w)) = .ofList (c.toLower :: w.map Char.toLower) := by
    rw [lower, String.toList_ofList, lower_of_mem_words h.word (w := c :: w) (by simp [hwords]),
      List.map_cons]
  refine ⟨c.toLower, w.map Char.toLower, ws.map fun v => lower (.ofList v), ?_,
    by simp [Char.isAlpha, hc],
    fun d hd => (hword (c :: w) (by simp)).2 d ?_, fun s hs => ?_⟩
  · simp only [snake, lowerWords, words, hwords, List.map_cons, List.map_map, hfirst]
    rfl
  · rw [hfirst, String.toList_ofList]
    exact List.mem_cons_of_mem _ hd
  · obtain ⟨v, hv, rfl⟩ := List.mem_map.1 hs
    exact hword v (by simp [hv])

def managedFields (timestamps softDelete : Bool) : List Field :=
  (if timestamps then timestampFields else []) ++ if softDelete then [softDeleteField] else []

variable {user : List Field} {timestamps softDelete : Bool}

theorem layout_eq (user : List Field) (timestamps softDelete : Bool) :
    layout user timestamps softDelete = idField :: (user ++ managedFields timestamps softDelete) := by
  rw [layout, managedFields, List.append_assoc, List.cons_append]

theorem system_of_mem_managedFields {f : Field} (hf : f ∈ managedFields timestamps softDelete) :
    f.system = true := by
  have hall : ∀ timestamps softDelete, (managedFields timestamps softDelete).all (·.system) = true :=
    by decide
  exact List.all_eq_true.1 (hall timestamps softDelete) f hf

/-- The columns of the managed fields are the ones no user field may have, each once. -/
theorem systemColumns_managedFields (timestamps softDelete : Bool) :
    ((idField :: managedFields timestamps softDelete).map Field.column).Nodup ∧
      ∀ f ∈ idField :: managedFields timestamps softDelete, f.column ∈ Descriptor.systemColumns := by
  revert timestamps softDelete
  decide +kernel

/-- Fields whose columns are their own keep them beside the managed fields. -/
theorem nodup_columns_layout (hnodup : (user.map Field.column).Nodup)
    (hfree : ∀ f ∈ user, f.column ∉ Descriptor.systemColumns) (timestamps softDelete : Bool) :
    ((layout user timestamps softDelete).map Field.column).Nodup := by
  obtain ⟨hmanaged, hcolumns⟩ := systemColumns_managedFields timestamps softDelete
  have hperm : (layout user timestamps softDelete).Perm
      (user ++ idField :: managedFields timestamps softDelete) := by
    rw [layout_eq]
    exact List.perm_middle.symm
  rw [(hperm.map Field.column).nodup_iff, List.map_append, List.nodup_append]
  refine ⟨hnodup, hmanaged, fun c hc d hd hcd => ?_⟩
  obtain ⟨f, hf, rfl⟩ := List.mem_map.1 hc
  obtain ⟨g, hg, rfl⟩ := List.mem_map.1 hd
  exact hfree f hf (hcd ▸ hcolumns g hg)

theorem columns_eq (fields : List Field) :
    fields.map Field.column = (fields.map Field.name).map snake := by
  simp [Field.column]

theorem nodup_names_of_columns {fields : List Field} (h : (fields.map Field.column).Nodup) :
    (fields.map Field.name).Nodup :=
  (columns_eq fields ▸ h).of_map _

theorem names_of_annotateAll {validation : Bool} {fields annotated : List Field}
    (h : annotateAll validation fields = .ok annotated) :
    annotated.map Field.name = fields.map Field.name := by
  have hkept := (forall₂_of_mapM h).imp fun _ _ hg => (Field.annotate_ok hg).1
  clear h
  induction hkept with
  | nil => rfl
  | cons hg _ ih => rw [List.map_cons, List.map_cons, hg, ih]

theorem userFields_layout (h : ∀ f ∈ user, f.system = false) (timestamps softDelete : Bool) :
    userFields (layout user timestamps softDelete) = user := by
  have huser : user.filter (!·.system) = user := List.filter_eq_self.2 fun f hf => by simp [h f hf]
  have hmanaged : (managedFields timestamps softDelete).filter (!·.system) = [] :=
    List.filter_eq_nil_iff.2 fun f hf => by simp [system_of_mem_managedFields hf]
  rw [userFields, layout_eq, List.filter_cons_of_neg (by decide), List.filter_append, huser, hmanaged,
    List.append_nil]

theorem systemFields_layout (h : ∀ f ∈ user, f.system = false) (timestamps softDelete : Bool) :
    systemFields (layout user timestamps softDelete) =
      idField :: managedFields timestamps softDelete := by
  have huser : user.filter (·.system) = [] := List.filter_eq_nil_iff.2 fun f hf => by simp [h f hf]
  have hmanaged : (managedFields timestamps softDelete).filter (·.system) =
      managedFields timestamps softDelete :=
    List.filter_eq_self.2 fun f hf => system_of_mem_managedFields hf
  rw [systemFields, layout_eq, List.filter_cons_of_pos (by rfl), List.filter_append, huser, hmanaged,
    List.nil_append]

namespace Descriptor

theorem Declares.column {catalog : Catalog} {segment : String} {f : Field}
    (h : Declares catalog segment f) : f.column ∉ systemColumns := by
  obtain ⟨name, token, hnames, type, -, rfl⟩ := h
  exact hnames.column

/-- Whatever the flags are, the fields that were read can be annotated, and with the managed fields
around them they make a struct without two fields of one name or column. -/
theorem layout_of_read {text : Option String} {fields : List Field}
    (h : read .builtin text = .ok fields) (validation : Bool) :
    ∃ annotated, annotateAll validation fields = .ok annotated ∧
      annotated.map Field.name = fields.map Field.name ∧
      (∀ f ∈ annotated, IsTypeName f.name ∧ IsColumnName f.column) ∧
      ∀ timestamps softDelete,
        let struct := layout annotated timestamps softDelete
        (struct.map Field.name).Nodup ∧ (struct.map Field.column).Nodup ∧
        struct = idField :: (annotated ++ managedFields timestamps softDelete) ∧
        userFields struct = annotated ∧
        systemFields struct = idField :: managedFields timestamps softDelete := by
  obtain ⟨segments, hsegments⟩ := exists_declareAll_of_read h
  obtain ⟨annotated, hannotated, hsystem, -⟩ :=
    annotateAll_of_declares validation hsegments.declares
  have hnames := names_of_annotateAll hannotated
  have hcolumns : annotated.map Field.column = fields.map Field.column := by
    rw [columns_eq, columns_eq, hnames]
  have hread (f : Field) (hf : f ∈ annotated) : ∃ g ∈ fields, g.name = f.name := by
    have hmem : f.name ∈ annotated.map Field.name := List.mem_map_of_mem hf
    simpa [hnames] using hmem
  have hname (f : Field) (hf : f ∈ annotated) : IsTypeName f.name := by
    obtain ⟨g, hg, hgf⟩ := hread f hf
    exact hgf ▸ ((read_ok h).1 g hg).1
  have hfree (f : Field) (hf : f ∈ annotated) : f.column ∉ systemColumns := by
    obtain ⟨g, hg, hgf⟩ := hread f hf
    obtain ⟨segment, -, hdeclares⟩ := exists_of_forall₂ hsegments.declares hg
    rw [Field.column, ← hgf]
    exact hdeclares.column
  refine ⟨annotated, hannotated, hnames, fun f hf => ⟨hname f hf, isColumnName_snake (hname f hf)⟩,
    fun timestamps softDelete => ?_⟩
  have hnodup := nodup_columns_layout (hcolumns ▸ hsegments.columns) hfree timestamps softDelete
  exact ⟨nodup_names_of_columns hnodup, hnodup, layout_eq _ _ _,
    userFields_layout hsystem timestamps softDelete, systemFields_layout hsystem timestamps softDelete⟩

theorem layout_of_read_customer :
    let fields : List Field :=
      [{ name := "CustomerName", type := "string" }, { name := "HTTPStatus", type := "int" }]
    read .builtin (some "customer_name: string, HTTPStatus:int") = .ok fields ∧
      ∃ annotated, annotateAll true fields = .ok annotated ∧
        ((layout annotated true true).map Field.column).Nodup := by
  intro fields
  have hread : read .builtin (some "customer_name: string, HTTPStatus:int") = .ok fields := by
    decide +kernel
  obtain ⟨annotated, hannotated, -, -, hstruct⟩ := layout_of_read hread true
  exact ⟨hread, annotated, hannotated, (hstruct true true).2.1⟩

end Descriptor

end GoScaffold
