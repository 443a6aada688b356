import GoScaffold.Field.Layout
import GoScaffold.Proofs.Entity.Described
import GoScaffold.Proofs.OrderedMap
import GoScaffold.Proofs.Text.Trim

/-!
# Written descriptors

The canonical spelling of a field declares the same field again, so what was read and then written
reads back as it was. For that the types must have names that can stand in a descriptor.
-/
namespace GoScaffold

open GoScaffold.Text GoScaffold.Naming

/-- A descriptor can give the name as a type. -/
structure IsNameable (name : String) : Prop where
  ne_empty : name ≠ ""
  comma : ',' ∉ name.toList
  trimmed : trim name = name

instance (name : String) : Decidable (IsNameable name) :=
  decidable_of_iff (name ≠ "" ∧ ',' ∉ name.toList ∧ trim name = name)
    ⟨fun ⟨hne, hcomma, htrim⟩ => ⟨hne, hcomma, htrim⟩, fun ⟨hne, hcomma, htrim⟩ => ⟨hne, hcomma, htrim⟩⟩

namespace Catalog

/-- The empty catalog or the built-in one, after registrations of types with such names. -/
inductive IsRegistered : Catalog → Prop
  | empty : IsRegistered .empty
  | builtin : IsRegistered .builtin
  | register {c : Catalog} (h : IsRegistered c) {t : FieldType} (ht : IsNameable t.name)
      (aliases : List String) : IsRegistered (c.register t aliases)

/-- Every type has such a name, and every alias stands for a type. -/
structure IsClosed (c : Catalog) : Prop where
  nameable : ∀ name, OrderedMap.contains name c.types = true → IsNameable name
  target : ∀ token name, OrderedMap.get? token c.aliases = some name →
    OrderedMap.contains name c.types = true

theorem isClosed_empty : IsClosed .empty where
  nameable name h := by simp [Catalog.empty, OrderedMap.contains, OrderedMap.get?] at h
  target token name h := by simp [Catalog.empty, OrderedMap.get?] at h

theorem contains_insert {ν : Type} {k k' : String} {v : ν} {m : List (String × ν)} :
    OrderedMap.contains k' (OrderedMap.insert k v m) = true ↔
      k = k' ∨ OrderedMap.contains k' m = true := by
  simp only [OrderedMap.contains, OrderedMap.get?_insert]
  split <;> simp_all

theorem IsClosed.register {c : Catalog} (h : c.IsClosed) {t : FieldType} (ht : IsNameable t.name)
    (aliases : List String) : (c.register t aliases).IsClosed where
  nameable name hname := by
    rcases contains_insert.1 hname with rfl | hname
    · exact ht
    · exact h.nameable name hname
  target token name htoken := by
    rw [Catalog.register, OrderedMap.get?_foldl_insert] at htoken
    split at htoken
    · exact contains_insert.2 (Or.inl (Option.some.inj htoken))
    · exact contains_insert.2 (Or.inr (h.target token name htoken))

theorem isClosed_foldl_register {c : Catalog} (h : c.IsClosed) (aliases : FieldType → List String)
    {types : List FieldType} (htypes : ∀ t ∈ types, IsNameable t.name) :
    (types.foldl (fun c t => c.register t (aliases t)) c).IsClosed := by
  induction types generalizing c with
  | nil => exact h
  | cons t types ih =>
    exact ih (h.register (htypes t (by simp)) (aliases t)) fun u hu => htypes u (by simp [hu])

theorem isClosed_builtin : IsClosed .builtin :=
  isClosed_foldl_register isClosed_empty _ (by decide +kernel)

theorem IsRegistered.isClosed {c : Catalog} (h : c.IsRegistered) : c.IsClosed := by
  induction h with
  | empty => exact isClosed_empty
  | builtin => exact isClosed_builtin
  | register _ ht aliases ih => exact ih.register ht aliases

/-- What a token stands for is the name of a type. -/
theorem IsClosed.contains_of_resolve {c : Catalog} (h : c.IsClosed) {token name : String}
    (hname : c.resolve token = some name) : OrderedMap.contains name c.types = true := by
  unfold resolve at hname
  split at hname
  · next htoken => exact Option.some.inj hname ▸ htoken
  · exact h.target token name hname

theorem resolve_of_contains {c : Catalog} {name : String}
    (h : OrderedMap.contains name c.types = true) : c.resolve name = some name := by
  rw [resolve, if_pos h]

end Catalog

namespace Descriptor

variable {catalog : Catalog} {fields : List Field}

def written (f : Field) : String := f.name ++ ":" ++ f.type

theorem declares_written (hcatalog : catalog.IsClosed) {segment : String} {f : Field}
    (h : Declares catalog segment f) : Declares catalog (written f) f := by
  obtain ⟨name, token, hnames, type, htype, rfl⟩ := h
  have hname : IsTypeName (pascal name) := isTypeName_pascal hnames.identifier
  have hcontains := hcatalog.contains_of_resolve htype
  have hnameable : IsNameable type := hcatalog.nameable type hcontains
  have hkept (c : Char) (hc : c ∈ (pascal name).toList) : isBlank c = false := by
    have hsep := not_isSeparator (hname.word c hc)
    simp only [isSeparator, Bool.or_eq_false_iff] at hsep
    exact hsep.1.1
  obtain ⟨c, cs, hcs, hc⟩ := hname.capital
  have htrim : trimWhile isBlank type.toList = type.toList := by
    have h := congrArg String.toList hnameable.trimmed
    rwa [trim, String.toList_ofList] at h
  have hpair : (trim (pascal name ++ ":" ++ type)).toList =
      (pascal name).toList ++ ':' :: type.toList := by
    have hne : type.toList ≠ [] := by simpa using hnameable.ne_empty
    have hchars : (pascal name ++ ":" ++ type).toList = c :: ((cs ++ [':']) ++ type.toList) := by
      simp [hcs]
    rw [trim, String.toList_ofList, hchars,
      trimWhile_cons_append (hkept c (by simp [hcs])) htrim hne, hcs]
    simp
  refine ⟨pascal name, type, ⟨⟨_, _, hpair, hname.word.not_mem (by decide), ?_, ?_⟩,
    isIdentifier_of_isTypeName hname, hnameable.ne_empty, ?_⟩, type,
    Catalog.resolve_of_contains hcontains, ?_⟩
  · rw [String.ofList_toList, trim, trimWhile_of_forall_not hkept, String.ofList_toList]
  · rw [String.ofList_toList, hnameable.trimmed]
  · rw [pascal_of_isTypeName hname]
    exact hnames.column
  · rw [pascal_of_isTypeName hname]

theorem declareAll_written (hcatalog : catalog.IsClosed) {segments : List String}
    (h : DeclareAll catalog segments fields) : DeclareAll catalog (fields.map written) fields where
  declares := List.forall₂_map_left_iff.2 <| List.forall₂_same.2 fun f hf => by
    obtain ⟨segment, -, hdeclares⟩ := exists_of_forall₂ h.declares hf
    exact declares_written hcatalog hdeclares
  columns := h.columns

theorem comma_not_mem_written (hcatalog : catalog.IsClosed) {segment : String} {f : Field}
    (h : Declares catalog segment f) : ',' ∉ (written f).toList := by
  have hname := h.isTypeName.1
  obtain ⟨name, token, -, type, htype, rfl⟩ := h
  have htype := hcatalog.nameable type (hcatalog.contains_of_resolve htype)
  have hcomma := hname.word.not_mem (c := ',') (by decide)
  simp [written, hcomma, htype.comma]

theorem not_isBlankText_written {segment : String} {f : Field} (h : Declares catalog segment f)
    (rest : String) : isBlankText (written f ++ rest) = false := by
  obtain ⟨c, cs, hcs, hc⟩ := h.isTypeName.1.capital
  have hsep := not_isSeparator (h.isTypeName.1.word c (by simp [hcs]))
  simp only [isSeparator, Bool.or_eq_false_iff] at hsep
  simp [isBlankText, written, hcs, hsep.1.1]

/-- Fields that segments declare are read from their own pairs. -/
theorem read_join_written (hcatalog : catalog.IsClosed) {segments : List String}
    (h : DeclareAll catalog segments fields) :
    read catalog (some (join "," (fields.map written))) = .ok fields := by
  have hfield (f : Field) (hf : f ∈ fields) : ∃ segment, Declares catalog segment f :=
    (exists_of_forall₂ h.declares hf).imp fun _ h => h.2
  cases fields with
  | nil => rfl
  | cons f rest =>
    have hcomma : ∀ s ∈ (f :: rest).map written, ',' ∉ s.toList := fun s hs => by
      obtain ⟨g, hg, rfl⟩ := List.mem_map.1 hs
      obtain ⟨segment, hdeclares⟩ := hfield g hg
      exact comma_not_mem_written hcatalog hdeclares
    have hsplit : splitAt ',' (join "," ((f :: rest).map written)) = (f :: rest).map written :=
      splitAt_join (by simp) hcomma
    have hblank : isBlankText (join "," ((f :: rest).map written)) = false := by
      obtain ⟨segment, hdeclares⟩ := hfield f (by simp)
      cases rest with
      | nil => simpa [join] using not_isBlankText_written hdeclares ""
      | cons g rest =>
        simp only [List.map_cons, join, String.append_assoc]
        exact not_isBlankText_written hdeclares _
    rw [read_of_not_blank catalog hblank, hsplit]
    exact readPairs_eq_ok_iff.2 ⟨declareAll_written hcatalog h, by simp⟩

theorem write_of_user (h : ∀ f ∈ fields, f.system = false) :
    write fields = join "," (fields.map written) := by
  rw [write, List.filter_eq_self.2 fun f hf => by simp [h f hf]]
  rfl

/-- A field of a built-in type can be annotated, and it is written as before. -/
theorem annotate_of_declares {segment : String} {f : Field} (validation : Bool)
    (h : Declares .builtin segment f) :
    ∃ g, f.annotate validation = .ok g ∧ g.system = false ∧ written g = written f := by
  obtain ⟨name, token, -, type, htype, rfl⟩ := h
  have hcontains := Catalog.isClosed_builtin.contains_of_resolve htype
  obtain ⟨t, ht⟩ := Option.isSome_iff_exists.1 hcontains
  have hlookup : Catalog.builtin.lookup type = some t := by
    rw [Catalog.lookup, Catalog.resolve_of_contains hcontains]
    exact ht
  simp [Field.annotate, Field.plan, Field.fieldType, Catalog.get, hlookup, Except.map, written]

theorem annotateAll_of_declares {segments : List String} (validation : Bool)
    (h : List.Forall₂ (Declares .builtin) segments fields) :
    ∃ annotated, annotateAll validation fields = .ok annotated ∧
      (∀ f ∈ annotated, f.system = false) ∧ annotated.map written = fields.map written := by
  induction h with
  | nil => exact ⟨[], rfl, by simp, rfl⟩
  | cons hf _ ih =>
    obtain ⟨g, hg, hsystem, hwritten⟩ := annotate_of_declares validation hf
    obtain ⟨rest, hrest, hsystems, hwrittens⟩ := ih
    refine ⟨g :: rest, ?_, by simpa [hsystem] using hsystems, by simp [hwritten, hwrittens]⟩
    rw [annotateAll] at hrest
    rw [annotateAll, List.mapM_cons, hg, hrest]
    rfl

theorem write_layout (user : List Field) (timestamps softDelete : Bool) :
    write (layout user timestamps softDelete) = write user := by
  cases timestamps <;> cases softDelete <;>
    simp [write, layout, idField, timestampFields, createdAtField, updatedAtField, softDeleteField]

/-- Fields that were read are read again from what they are written as, and with the built-in
types also from what they are written as once they are annotated and laid out. -/
theorem read_write {catalog : Catalog} {text : Option String} {fields : List Field}
    (hcatalog : catalog.IsRegistered) (hread : read catalog text = .ok fields) :
    read catalog (some (write fields)) = .ok fields ∧
    (read catalog (some (write fields))).map write = .ok (write fields) ∧
    (catalog = .builtin → ∀ validation timestamps softDelete, ∃ annotated,
      annotateAll validation fields = .ok annotated ∧
      read .builtin (some (write (layout annotated timestamps softDelete))) = .ok fields) := by
  obtain ⟨segments, hsegments⟩ := exists_declareAll_of_read hread
  have hwrite := write_of_user fun f hf => ((read_ok hread).1 f hf).2
  have hagain : read catalog (some (write fields)) = .ok fields := by
    rw [hwrite]
    exact read_join_written hcatalog.isClosed hsegments
  refine ⟨hagain, by rw [hagain]; rfl, ?_⟩
  rintro rfl validation timestamps softDelete
  obtain ⟨annotated, hannotated, hsystem, hwritten⟩ :=
    annotateAll_of_declares validation hsegments.declares
  refine ⟨annotated, hannotated, ?_⟩
  rw [write_layout, write_of_user hsystem, hwritten, ← hwrite]
  exact hagain

theorem read_write_alias :
    let catalog := Catalog.builtin.register { FieldType.bool with name := "a:b" } ["int", "flag"]
    let fields : List Field := [{ name := "IsOn", type := "a:b" }, { name := "AB", type := "int" }]
    read catalog (some " is_on: flag ,a_b:int") = .ok fields ∧
      read catalog (some (write fields)) = .ok fields := by
  intro catalog fields
  have hread : read catalog (some " is_on: flag ,a_b:int") = .ok fields := by decide +kernel
  exact ⟨hread, (read_write (.register .builtin (by decide +kernel) _) hread).1⟩

end Descriptor

end GoScaffold
