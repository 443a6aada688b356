import GoScaffold.Proofs.FieldType.Sample
import GoScaffold.Proofs.GoSource.Literal
import GoScaffold.Proofs.Layer.Accepted

/-!
# Samples that meet their constraints

The records that are generated for a descriptor can be stored as they are. Where a field identifies
a record, no two of them have the same value in it, and no value is one that the check of the field
refuses.
-/
namespace GoScaffold

open GoScaffold.Text GoScaffold.Naming GoScaffold.FieldType

namespace FieldType

/-- How the types of texts and numbers write their samples, and what they refuse. -/
theorem sample_builtin : ∀ t ∈ builtin,
    (t.kind = .string → t.sample = .text) ∧
    (t.kind = .integer ∨ t.kind = .unsigned → t.sample = .integer) ∧
    (t.kind = .float → t.sample = .fraction) ∧
    (t.kind = .string → t.check = some emptyTextCheck) ∧
    (t.isNumeric = true → t.check = none ∨ t.check = some negativeCheck) := by decide

/-- A check of texts or numbers refuses the empty text or the negative numbers. -/
theorem checkExpression_of_check {t : FieldType} {template behind : String}
    (hcheck : t.check = some template) (ref : String)
    (h : checkFor template ref = .ok (ref ++ behind)) :
    t.checkExpression ref = .ok (some (ref ++ behind)) := by
  rw [checkExpression, hcheck]
  simp only [h, Except.map]

end FieldType

namespace Member

def sample (m : Member) (i : Nat) : String := m.type.sample.literal m.name i

variable {m : Member}

/-- What the classification marks as unique is a text or an integer, and its column is called by a
term that identifies a record. -/
theorem of_isUnique (h : m.type.isUnique m.name = true) :
    (m.type.kind = .string ∨ m.type.kind = .integer ∨ m.type.kind = .unsigned) ∧
      isCalled (snake m.name) uniqueTerms = true := by
  simp only [isUnique, Bool.and_eq_true] at h
  exact ⟨by simpa [uniqueKinds] using h.1.2, h.2⟩

theorem exists_texts (hname : IsWord m.name) (hkind : m.type.kind = .string) : ∃ content,
    IsSample (snake m.name) content ∧ ∀ i, m.sample i = doubleQuoted (content i) := by
  obtain ⟨content, hsample, hcontent⟩ := exists_textSample hname
  refine ⟨content, hsample, fun i => ?_⟩
  rw [sample, (sample_builtin m.type (mem_builtin m)).1 hkind, literal_text, hcontent]

theorem ofLiteral?_text {content : Nat → String} {column : String} (h : IsSample column content)
    (i : Nat) : GoValue.ofLiteral? (doubleQuoted (content i)) = some (.text (content i)) :=
  GoValue.ofLiteral?_doubleQuoted fun c hc => h.lacks i c (by
    simp only [List.mem_cons, List.not_mem_nil, or_false] at hc
    rcases hc with rfl | rfl | rfl <;> decide)

theorem sqlLiteral_text (hkind : m.type.kind = .string) {s : String} (hs : Lacks sampleEnds s)
    (i : Nat) : sqlLiteral m (doubleQuoted s) i = "'" ++ s ++ "'" := by
  have hquotes : ∀ c ∈ s.toList, (c == '"') = false := fun c hc => by
    rw [beq_eq_false_iff_ne]
    rintro rfl
    exact hs _ (by decide) hc
  have htrimmed : trimWhile (· == '"') (doubleQuoted s).toList = s.toList := by
    rw [doubleQuoted, String.toList_append, String.toList_append]
    exact trimWhile_enclosed rfl hquotes
  have hreplaced : replace "'" "''" s = s := replace_of_not_mem rfl (hs '\'' (by decide))
  rw [sqlLiteral, hkind, htrimmed, String.ofList_toList]
  simp only [hreplaced]

theorem exists_integers (hkind : m.type.kind = .integer ∨ m.type.kind = .unsigned) (i : Nat) :
    ∃ n : Nat, GoValue.ofLiteral? (m.sample i) = some (.number n) ∧
      (isCalled (snake m.name) ["age"] = false → n = (i + 1) * 10) := by
  obtain ⟨n, hn, hage⟩ := exists_integerSample m.name i
  refine ⟨n, ?_, hage⟩
  rw [sample, (sample_builtin m.type (mem_builtin m)).2.1 hkind, literal_integer, hn,
    GoValue.ofLiteral?_natural]

theorem exists_numbers (hnumeric : m.type.isNumeric = true) (i : Nat) :
    ∃ q : ℚ, 0 ≤ q ∧ GoValue.ofLiteral? (m.sample i) = some (.number q) := by
  have hkinds : (m.type.kind = .integer ∨ m.type.kind = .unsigned) ∨ m.type.kind = .float := by
    simpa [isNumeric] using hnumeric
  rcases hkinds with hkind | hkind
  · obtain ⟨n, hn, -⟩ := exists_integers hkind i
    exact ⟨n, by positivity, hn⟩
  · obtain ⟨n, k, width, hsample⟩ := exists_fractionSample m.name i
    have hvalue := GoValue.ofLiteral?_fraction n k width
    rw [← hsample, ← literal_fraction, ← (sample_builtin m.type (mem_builtin m)).2.2.1 hkind] at hvalue
    exact ⟨_, by positivity, hvalue⟩

/-- Different records have different samples of a unique member, in Go and in SQL. -/
theorem samples_ne (hname : IsWord m.name) (hunique : m.type.isUnique m.name = true) {i j : Nat}
    (hij : i ≠ j) : GoValue.ofLiteral? (m.sample i) ≠ GoValue.ofLiteral? (m.sample j) ∧
      sqlLiteral m (m.sample i) i ≠ sqlLiteral m (m.sample j) j := by
  obtain ⟨hkind | hkind, hterms⟩ := of_isUnique hunique
  · obtain ⟨content, hsample, hcontent⟩ := exists_texts hname hkind
    have hne : content i ≠ content j := fun heq => hij (hsample.injective hterms heq)
    rw [hcontent, hcontent, ofLiteral?_text hsample, ofLiteral?_text hsample,
      sqlLiteral_text hkind (hsample.lacks i), sqlLiteral_text hkind (hsample.lacks j)]
    exact ⟨by simpa using hne, by simpa [String.append_left_inj, String.append_right_inj] using hne⟩
  · have hage : isCalled (snake m.name) ["age"] = false := isCalled_eq_false hterms (by decide)
    obtain ⟨n, hn, hi⟩ := exists_integers hkind i
    obtain ⟨k, hk, hj⟩ := exists_integers hkind j
    have hvalue : GoValue.ofLiteral? (m.sample i) ≠ GoValue.ofLiteral? (m.sample j) := by
      rw [hn, hk, hi hage, hj hage]
      simpa using hij
    have hsql (i : Nat) : sqlLiteral m (m.sample i) i = m.sample i := by
      rcases hkind with hkind | hkind <;> rw [sqlLiteral, hkind]
    rw [hsql, hsql]
    exact ⟨hvalue, fun heq => hvalue (congrArg GoValue.ofLiteral? heq)⟩

/-- No sample of a text or a number meets the condition under which a value is refused. -/
theorem exists_refused (hname : IsWord m.name)
    (hkind : m.type.kind = .string ∨ m.type.isNumeric = true) (hcheck : m.type.check.isSome = true)
    (ref : String) (i : Nat) : ∃ condition value,
      m.type.checkExpression ref = .ok (some condition) ∧
      GoValue.ofLiteral? (m.sample i) = some value ∧ value.meets? ref condition = some false := by
  obtain ⟨-, -, -, htext, hnumber⟩ := sample_builtin m.type (mem_builtin m)
  rcases hkind with hkind | hnumeric
  · obtain ⟨content, hsample, hcontent⟩ := exists_texts hname hkind
    refine ⟨_, _, checkExpression_of_check (htext hkind) ref (checkFor_emptyText ref),
      (hcontent i).symm ▸ ofLiteral?_text hsample i, ?_⟩
    rw [GoValue.meets?_emptyText, decide_eq_false (hsample.ne_empty i)]
  · obtain ⟨q, hq, hvalue⟩ := exists_numbers hnumeric i
    have hnegative : m.type.check = some negativeCheck :=
      (hnumber hnumeric).resolve_left fun hnone => by simp [hnone] at hcheck
    refine ⟨_, _, checkExpression_of_check hnegative ref (checkFor_negative ref), hvalue, ?_⟩
    rw [GoValue.meets?_negative, decide_eq_false (not_lt.2 hq)]

end Member

namespace Descriptor

theorem exists_member {text : Option String} {fields : List Field}
    (hread : read .builtin text = .ok fields) (validation : Bool) {f : Field} (hf : f ∈ fields) :
    ∃ m : Member, f.annotate validation = .ok m.field := by
  obtain ⟨segments, hsegments⟩ := exists_declareAll_of_read hread
  obtain ⟨segment, -, hdeclares⟩ := exists_of_forall₂ hsegments.declares hf
  obtain ⟨g, hg, hsystem, -⟩ := annotate_of_declares validation hdeclares
  obtain ⟨p, hp, -⟩ := Field.annotate_tag hg hsystem
  obtain ⟨m, hm⟩ := Member.exists_ofField hp
  exact ⟨m, Member.ofField_ok hm ▸ hg⟩

/-- A field of a descriptor has samples as soon as its type is known, as all the built-in ones are.
If it is marked as unique, different records have different values in it, in Go and in SQL. The
samples of a text are not empty and those of a number not negative, so none is a value that the check
of the type refuses. -/
theorem samples_of_read {catalog : Catalog} {text : Option String} {fields : List Field}
    (hread : read catalog text = .ok fields) (validation : Bool) {f : Field} (hf : f ∈ fields) :
    (catalog = .builtin → ∃ m : Member, f.annotate validation = .ok m.field) ∧
    ∀ m : Member, f.annotate validation = .ok m.field →
      (m.field.unique = true → ∀ i j, i ≠ j → m.sample i ≠ m.sample j ∧
        GoValue.ofLiteral? (m.sample i) ≠ GoValue.ofLiteral? (m.sample j) ∧
        sqlLiteral m (m.sample i) i ≠ sqlLiteral m (m.sample j) j) ∧
      (m.type.kind = .string → ∀ i, ∃ s, s ≠ "" ∧
        GoValue.ofLiteral? (m.sample i) = some (.text s)) ∧
      (m.type.isNumeric = true → ∀ i, ∃ q, 0 ≤ q ∧
        GoValue.ofLiteral? (m.sample i) = some (.number q)) ∧
      (m.type.kind = .string ∨ m.type.isNumeric = true → m.type.check.isSome = true →
        ∀ ref i, ∃ condition value, m.type.checkExpression ref = .ok (some condition) ∧
          GoValue.ofLiteral? (m.sample i) = some value ∧
          value.meets? ref condition = some false) := by
  refine ⟨fun hcatalog => exists_member (hcatalog ▸ hread) validation hf, fun m hm => ?_⟩
  obtain ⟨htype, huser⟩ := (read_ok hread).1 f hf
  obtain ⟨hname, hsystem⟩ := Field.annotate_ok hm
  have hword : IsWord m.field.name := hname ▸ htype.word
  refine ⟨fun hunique i j hij => ?_, fun hkind i => ?_, fun hnumeric i => Member.exists_numbers hnumeric i,
    fun hkind hcheck ref i => Member.exists_refused hword hkind hcheck ref i⟩
  · obtain ⟨p, hp, -, hmark⟩ := Field.annotate_tag hm (hsystem.trans huser)
    rw [Member.plan_field, Except.ok.injEq] at hp
    subst hp
    obtain ⟨hvalue, hsql⟩ := Member.samples_ne hword (hmark.symm.trans hunique) hij
    exact ⟨fun heq => hvalue (congrArg GoValue.ofLiteral? heq), hvalue, hsql⟩
  · obtain ⟨content, hsample, hcontent⟩ := Member.exists_texts hword hkind
    exact ⟨content i, hsample.ne_empty i, (hcontent i).symm ▸ Member.ofLiteral?_text hsample i⟩

/-- Mail addresses of one user in two records. -/
theorem samples_of_read_email :
    let m : Member := ⟨
      { name := "UserEmail", type := "string", searchable := true, unique := true,
        tag := "json:\"user_email\" gorm:\"column:user_email;type:varchar(255);uniqueIndex\"" },
      .string, by decide +kernel⟩
    m.sample 0 = "\"john1@example.com\"" ∧ m.sample 5 = "\"john6@example.com\"" ∧
      sqlLiteral m (m.sample 0) 0 ≠ sqlLiteral m (m.sample 5) 5 ∧
      ∃ condition value, m.type.checkExpression "u.UserEmail" = .ok (some condition) ∧
        GoValue.ofLiteral? (m.sample 5) = some value ∧
        value.meets? "u.UserEmail" condition = some false := by
  intro m
  have hread : read .builtin (some "user_email:string, tax_code:int") =
      .ok [{ name := "UserEmail", type := "string" }, { name := "TaxCode", type := "int" }] := by
    decide +kernel
  have hfield : Field.annotate false { name := "UserEmail", type := "string" } = .ok m.field := by
    decide +kernel
  obtain ⟨hunique, -, -, hrefused⟩ :=
    (samples_of_read hread false (List.mem_cons_self ..)).2 m hfield
  exact ⟨by decide +kernel, by decide +kernel, (hunique rfl 0 5 (by decide)).2.2,
    hrefused (Or.inl rfl) rfl "u.UserEmail" 5⟩

end Descriptor

end GoScaffold
