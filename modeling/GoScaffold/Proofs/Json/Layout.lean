import GoScaffold.Proofs.Json.Plain
import GoScaffold.Proofs.Json.Scalar
import GoScaffold.Proofs.Text.Numeral
import GoScaffold.Proofs.Text.Pieces

/-!
# The layout of a file

A value in a file as its characters: the breaks between its items or fields, the character that
each part starts with, and that no return stands in it.
-/
namespace GoScaffold.Json

open GoScaffold.Text

theorem toList_lineBreak (level : Nat) :
    (Layout.file.lineBreak level).toList = '\n' :: List.replicate (level * 2) ' ' := by
  rw [← toList_times (s := " ") (c := ' ') rfl, Layout.lineBreak]
  exact String.toList_append

theorem toList_separator (level : Nat) :
    (Layout.file.separator level).toList = ',' :: (Layout.file.lineBreak level).toList :=
  String.toList_append

theorem skipSpace_lineBreak (level : Nat) (rest : List Char) :
    skipSpace ((Layout.file.lineBreak level).toList ++ rest) = skipSpace rest := by
  rw [skipSpace, List.dropWhile_append_of_pos]
  · rfl
  · intro c hc
    rw [toList_lineBreak, List.mem_cons, List.mem_replicate] at hc
    rcases hc with rfl | ⟨-, rfl⟩ <;> rfl

theorem skipSpace_cons {c : Char} (hc : isSpace c = false) (rest : List Char) :
    skipSpace (c :: rest) = c :: rest := by
  simp [skipSpace, hc]

section Parts

attribute [local simp] write writeItems writeFields

/-- The items or fields of a value as they stand in it, up to the closing bracket. -/
def between (level : Nat) (parts : List String) : List Char :=
  (join (Layout.file.separator level) parts).toList

theorem toList_write_array (level : Nat) (x : Json) (xs : List Json) :
    (write .file level (.array (x :: xs))).toList =
      '[' :: ((Layout.file.lineBreak (level + 1)).toList ++
        (between (level + 1) (writeItems .file (level + 1) (x :: xs)) ++
          ((Layout.file.lineBreak level).toList ++ [']']))) := by
  simp [between]

theorem toList_write_object (level : Nat) (f : String × Json) (fs : List (String × Json)) :
    (write .file level (.object (f :: fs))).toList =
      '\x7b' :: ((Layout.file.lineBreak (level + 1)).toList ++
        (between (level + 1) (writeFields .file (level + 1) (f :: fs)) ++
          ((Layout.file.lineBreak level).toList ++ ['\x7d']))) := by
  simp [between]

theorem between_singleton (level : Nat) (s : String) : between level [s] = s.toList := rfl

theorem between_cons_cons (level : Nat) (s t : String) (parts : List String) :
    between level (s :: t :: parts) =
      s.toList ++ ',' :: ((Layout.file.lineBreak level).toList ++ between level (t :: parts)) := by
  simp [between, join, toList_separator]

theorem between_writeItems (level : Nat) (x y : Json) (xs : List Json) :
    between level (writeItems .file level (x :: y :: xs)) =
      (write .file level x).toList ++ ',' :: ((Layout.file.lineBreak level).toList ++
        between level (writeItems .file level (y :: xs))) := by
  simp only [writeItems, between_cons_cons]

theorem between_writeField (level : Nat) (f : String × Json) :
    between level (writeFields .file level [f]) =
      (writtenString false f.1).toList ++ ':' :: ' ' :: (write .file level f.2).toList := by
  simp [between_singleton, Layout.file]

theorem between_writeFields (level : Nat) (f g : String × Json) (fs : List (String × Json)) :
    between level (writeFields .file level (f :: g :: fs)) =
      (writtenString false f.1).toList ++ ':' :: ' ' :: ((write .file level f.2).toList ++
        ',' :: ((Layout.file.lineBreak level).toList ++
          between level (writeFields .file level (g :: fs)))) := by
  simp [between_cons_cons, Layout.file]

end Parts

theorem isSpace_of_isDigit {c : Char} (hc : c.isDigit = true) : isSpace c = false := by
  simp [isSpace, ne_of_isDigit hc]

/-- A value starts with no space and no byte order mark, and closes nothing. -/
theorem exists_cons_write {j : Json} (h : j.isPlain = true) (level : Nat) :
    ∃ c cs, (write .file level j).toList = c :: cs ∧ isSpace c = false ∧ c ≠ ']' ∧
      c ≠ '\ufeff' := by
  cases j with
  | null => exact ⟨'n', "ull".toList, by simp [write], rfl, by decide⟩
  | bool b =>
    cases b with
    | false => exact ⟨'f', "alse".toList, by simp [write], rfl, by decide⟩
    | true => exact ⟨'t', "rue".toList, by simp [write], rfl, by decide⟩
  | int n =>
    rw [write]
    obtain ⟨c, cs, hc, hcs | hcs⟩ := toString_cases n
    · exact ⟨c, cs, hcs, isSpace_of_isDigit hc, ne_of_isDigit hc rfl, ne_of_isDigit hc rfl⟩
    · exact ⟨'-', c :: cs, hcs, rfl, by decide⟩
  | float x => simp [isPlain] at h
  | str s =>
    rw [write]
    exact ⟨'"', _, toList_writtenString s, rfl, by decide⟩
  | array xs =>
    cases xs with
    | nil => exact ⟨'[', [']'], by simp [write], rfl, by decide⟩
    | cons x xs => exact ⟨'[', _, toList_write_array level x xs, rfl, by decide⟩
  | object fs =>
    cases fs with
    | nil => exact ⟨'\x7b', ['\x7d'], by simp [write], rfl, by decide⟩
    | cons f fs => exact ⟨'\x7b', _, toList_write_object level f fs, rfl, by decide⟩

theorem skipSpace_write {j : Json} (h : j.isPlain = true) (level : Nat) (rest : List Char) :
    skipSpace ((write .file level j).toList ++ rest) = (write .file level j).toList ++ rest := by
  obtain ⟨c, cs, hcs, hc, -⟩ := exists_cons_write h level
  rw [hcs, List.cons_append, skipSpace_cons hc]

theorem exists_cons_between (level : Nat) {s : String} {c : Char} {cs : List Char}
    (hs : s.toList = c :: cs) (parts : List String) :
    ∃ ds, between level (s :: parts) = c :: ds := by
  cases parts with
  | nil => exact ⟨cs, hs⟩
  | cons t parts =>
    rw [between_cons_cons, hs]
    exact ⟨_, rfl⟩

theorem exists_cons_items {x : Json} (h : x.isPlain = true) (level : Nat) (xs : List Json) :
    ∃ c cs, between level (writeItems .file level (x :: xs)) = c :: cs ∧ isSpace c = false ∧
      c ≠ ']' := by
  obtain ⟨c, cs, hcs, hspace, hclose, -⟩ := exists_cons_write h level
  obtain ⟨ds, hds⟩ := exists_cons_between level hcs (writeItems .file level xs)
  rw [writeItems]
  exact ⟨c, ds, hds, hspace, hclose⟩

theorem exists_cons_fields (level : Nat) (f : String × Json) (fs : List (String × Json)) :
    ∃ cs, between level (writeFields .file level (f :: fs)) = '"' :: cs := by
  rw [writeFields]
  apply exists_cons_between
  rw [String.toList_append, String.toList_append, Layout.file, toList_writtenString]
  rfl

theorem skipSpace_items {x : Json} (h : x.isPlain = true) (level : Nat) (xs : List Json)
    (rest : List Char) :
    skipSpace (between level (writeItems .file level (x :: xs)) ++ rest) =
      between level (writeItems .file level (x :: xs)) ++ rest := by
  obtain ⟨c, cs, hcs, hc, -⟩ := exists_cons_items h level xs
  rw [hcs, List.cons_append, skipSpace_cons hc]

theorem skipSpace_fields (level : Nat) (f : String × Json) (fs : List (String × Json))
    (rest : List Char) :
    skipSpace (between level (writeFields .file level (f :: fs)) ++ rest) =
      between level (writeFields .file level (f :: fs)) ++ rest := by
  obtain ⟨cs, hcs⟩ := exists_cons_fields level f fs
  rw [hcs, List.cons_append, skipSpace_cons rfl]

theorem ends_lineBreak (level : Nat) (rest : List Char) :
    Ends ((Layout.file.lineBreak level).toList ++ rest) := by
  rw [toList_lineBreak]
  exact ends_newline _

theorem writeItems_eq_map (l : Layout) (level : Nat) (xs : List Json) :
    writeItems l level xs = xs.map (write l level) := by
  induction xs with
  | nil => rw [writeItems, List.map_nil]
  | cons x xs ih => rw [writeItems, ih, List.map_cons]

theorem writeFields_eq_map (l : Layout) (level : Nat) (fs : List (String × Json)) :
    writeFields l level fs =
      fs.map fun f => writtenString l.asciiOnly f.1 ++ ": " ++ write l level f.2 := by
  induction fs with
  | nil => rw [writeFields, List.map_nil]
  | cons f fs ih => rw [writeFields, ih, List.map_cons]

theorem return_not_mem_lineBreak (level : Nat) : '\r' ∉ (Layout.file.lineBreak level).toList := by
  simp [toList_lineBreak]

theorem return_not_mem_between {level : Nat} {parts : List String}
    (h : ∀ s ∈ parts, '\r' ∉ s.toList) : '\r' ∉ between level parts := by
  intro hmem
  rcases mem_join hmem with hsep | ⟨s, hs, hmem⟩
  · rw [toList_separator, List.mem_cons] at hsep
    rcases hsep with hcomma | hbreak
    · cases hcomma
    · exact return_not_mem_lineBreak level hbreak
  · exact h s hs hmem

/-- Only a floating point number could hold a return. -/
theorem return_not_mem_write {j : Json} (hplain : j.isPlain = true) (level : Nat) :
    '\r' ∉ (write .file level j).toList := by
  induction j using memberwise generalizing level with
  | null => simp [write]
  | bool b => cases b <;> simp [write]
  | int n => simpa only [write] using return_not_mem_toString n
  | float x => simp [isPlain] at hplain
  | str s => simpa only [write, Layout.file] using return_not_mem_writtenString s
  | array xs ih =>
    rw [isPlain, arePlain_iff] at hplain
    cases xs with
    | nil => simp [write]
    | cons x xs =>
      have hparts : '\r' ∉ between (level + 1) (writeItems .file (level + 1) (x :: xs)) := by
        apply return_not_mem_between
        rw [writeItems_eq_map, List.forall_mem_map]
        intro y hy
        exact ih y hy (hplain y hy) (level + 1)
      simp [toList_write_array, return_not_mem_lineBreak, hparts]
  | object fs ih =>
    rw [isPlain, Bool.and_eq_true, haveFieldsPlain_iff] at hplain
    cases fs with
    | nil => simp [write]
    | cons f fs =>
      have hparts : '\r' ∉ between (level + 1) (writeFields .file (level + 1) (f :: fs)) := by
        apply return_not_mem_between
        rw [writeFields_eq_map, List.forall_mem_map]
        intro g hg
        simp only [String.toList_append, List.mem_append, not_or]
        exact ⟨⟨return_not_mem_writtenString g.1, by simp⟩, ih g hg (hplain.2 g hg) (level + 1)⟩
      simp [toList_write_object, return_not_mem_lineBreak, hparts]

theorem return_not_mem_toFile {j : Json} (hplain : j.isPlain = true) : '\r' ∉ (toFile j).toList :=
  return_not_mem_write hplain 0

end GoScaffold.Json
