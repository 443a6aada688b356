import GoScaffold.Proofs.GoSource.Block
import GoScaffold.Proofs.GoSource.Imports

/-!
# References in Go source

The names by which Go source refers to other packages. A reader goes through the source character by
character and keeps comments and the literals of texts and characters apart from code. In code, a
word with a dot and another word behind it qualifies that word, unless a dot stands in front of it as
well: then it is selected itself.
-/
namespace GoScaffold

open GoScaffold.Text GoScaffold.Template

/-- Letters, the underscore, and what is not ASCII. -/
def startsName (c : Char) : Bool := c.isAlpha || c == '_' || decide (128 ≤ c.toNat)

def continuesName (c : Char) : Bool := startsName c || c.isDigit

/-- Where the reader stands. In code it knows the word that it is in, empty between words, and how
many dots stand in front of that word. -/
inductive Mode where
  | code (dots : Nat) (word : List Char)
  | qualifier (word : List Char)
  | slash
  | comment
  | block (star : Bool)
  | quoted (quote : Char)
  | escaped (quote : Char)
  deriving Repr, DecidableEq

namespace Mode

def start : Mode := .code 0 []

def raw : Mode := .quoted '\x60'

/-- A character of code. A number with a dot behind it qualifies nothing. -/
def inCode (dots : Nat) (word : List Char) (c : Char) : Mode :=
  if continuesName c then .code dots (word ++ [c])
  else if c = '.' then
    if word = [] then .code (dots + 1) []
    else if dots ≠ 1 ∧ word.head?.any startsName then .qualifier word
    else .code 1 []
  else if c = '/' then .slash
  else if c = '"' ∨ c = '\'' ∨ c = '\x60' then .quoted c
  else .start

/-- Nothing is escaped in a raw literal. -/
def next : Mode → Char → Mode
  | .code dots word, c => inCode dots word c
  | .qualifier _, c => inCode 1 [] c
  | .slash, c => if c = '/' then .comment else if c = '*' then .block false else inCode 0 [] c
  | .comment, c => if c = '\n' then .start else .comment
  | .block star, c => if star ∧ c = '/' then .start else .block (c = '*')
  | .quoted q, c =>
    if c = q then .start else if c = '\\' ∧ q ≠ '\x60' then .escaped q else .quoted q
  | .escaped q, _ => .quoted q

/-- The name that turns out to qualify another one at a character. -/
def found? : Mode → Char → Option (List Char)
  | .qualifier word, c => if startsName c then some word else none
  | _, _ => none

def after (m : Mode) (cs : List Char) : Mode := cs.foldl next m

def found (m : Mode) : List Char → List (List Char)
  | [] => []
  | c :: cs => (m.found? c).toList ++ found (m.next c) cs

theorem after_append (m : Mode) (xs ys : List Char) : m.after (xs ++ ys) = (m.after xs).after ys :=
  List.foldl_append

theorem found_append (m : Mode) (xs ys : List Char) :
    m.found (xs ++ ys) = m.found xs ++ (m.after xs).found ys := by
  induction xs generalizing m with
  | nil => rfl
  | cons c xs ih => rw [List.cons_append, found, found, ih, List.append_assoc]; rfl

theorem after_cons (m : Mode) (c : Char) (cs : List Char) : m.after (c :: cs) = (m.next c).after cs :=
  rfl

end Mode

/-- The names by which the source refers to other packages. -/
def qualifiers (source : String) : List String := (Mode.start.found source.toList).map .ofList

example : qualifiers "func f(t time.Time) string \x7b return \"a.b\" + r.db.Name \x7d // x.y" =
    ["time", "r"] := by decide +kernel

/-- The name that code knows a package by: the last part of its path. -/
def packageName (path : String) : String := (splitAt '/' path).getLastD ""

def packageNames : List String :=
  ["time", "strings", "errors", "domain", "usecase", "gorm", "mux", "json", "http", "strconv"]

/-- A line that stays one, and is no import. -/
def IsPlainLine (l : String) : Prop := '\n' ∉ l.toList ∧ ¬ importWord <+: l.toList

theorem noImportLine_textOf {ls : List String} (h : ∀ l ∈ ls, IsPlainLine l) :
    NoImportLine (textOf ls).toList := by
  rw [NoImportLine, lines_textOf fun l hl => (h l hl).1, List.forall_mem_map]
  intro l hl hword
  rcases List.prefix_concat_iff.1 hword with he | hword
  · exact absurd (congrArg List.getLast? he) (by simp [importWord])
  · exact (h l hl).2 hword

/-- From a mode to a mode, the lines refer to certain packages, and to no other that generated code
uses. -/
structure Scans (m : Mode) (ls : List String) (names : List String) (m' : Mode) : Prop where
  after : m.after (textOf ls).toList = m'
  names : ∀ name ∈ packageNames, name.toList ∈ m.found (textOf ls).toList ↔ name ∈ names

/-- The lines are those of declarations: none of them is an import. -/
structure Reads (m : Mode) (ls : List String) (names : List String) (m' : Mode) : Prop
    extends Scans m ls names m' where
  plain : ∀ l ∈ ls, IsPlainLine l

section Scanned

variable {m m' m'' : Mode} {ls ls' names names' : List String}

theorem Scans.append (h : Scans m ls names m') (h' : Scans m' ls' names' m'') :
    Scans m (ls ++ ls') (names ++ names') m'' where
  after := by
    rw [textOf_append, String.toList_append, Mode.after_append, h.after, h'.after]
  names name hname := by
    rw [textOf_append, String.toList_append, Mode.found_append, h.after, List.mem_append,
      List.mem_append, h.names name hname, h'.names name hname]

theorem Scans.congr (h : Scans m ls names m') (hnames : ∀ name, name ∈ names ↔ name ∈ names') :
    Scans m ls names' m' where
  after := h.after
  names name hname := (h.names name hname).trans (hnames name)

/-- The names in code that starts between words. -/
theorem Scans.mem_qualifiers (h : Scans .start ls names m') {name : String}
    (hname : name ∈ packageNames) : name ∈ qualifiers (textOf ls) ↔ name ∈ names := by
  rw [← h.names name hname, qualifiers, List.mem_map]
  refine ⟨fun ⟨cs, hcs, he⟩ => ?_, fun hmem => ⟨_, hmem, String.ofList_toList⟩⟩
  rwa [← he, String.toList_ofList]

end Scanned

namespace Reads

variable {m m' m'' : Mode} {ls ls' names names' : List String}

theorem nil (m : Mode) : Reads m [] [] m where
  after := rfl
  names := by simp [textOf, concat, Mode.found]
  plain := by simp

theorem append (h : Reads m ls names m') (h' : Reads m' ls' names' m'') :
    Reads m (ls ++ ls') (names ++ names') m'' where
  toScans := h.toScans.append h'.toScans
  plain := List.forall_mem_append.2 ⟨h.plain, h'.plain⟩

theorem congr (h : Reads m ls names m') (hnames : ∀ name, name ∈ names ↔ name ∈ names') :
    Reads m ls names' m' where
  toScans := h.toScans.congr hnames
  plain := h.plain

/-- What each of several things has lines for, all of them have. -/
theorem flatMap {α : Type} {xs : List α} {f g : α → List String}
    (h : ∀ x ∈ xs, Reads m (f x) (g x) m) : Reads m (xs.flatMap f) (xs.flatMap g) m := by
  induction xs with
  | nil => exact .nil m
  | cons x xs ih =>
    rw [List.flatMap_cons, List.flatMap_cons]
    exact (h x (by simp)).append (ih fun y hy => h y (by simp [hy]))

theorem map {α : Type} {xs : List α} {f : α → String} {g : α → List String}
    (h : ∀ x ∈ xs, Reads m [f x] (g x) m) : Reads m (xs.map f) (xs.flatMap g) m := by
  rw [← List.flatMap_pure_eq_map]
  exact flatMap h

theorem flatMap_nil {α : Type} {xs : List α} {f : α → List String}
    (h : ∀ x ∈ xs, Reads m (f x) [] m) : Reads m (xs.flatMap f) [] m :=
  (flatMap h).congr (by simp)

theorem ite {p : Bool} (h : p = true → Reads m ls names m) :
    Reads m (if p then ls else []) (if p then names else []) m := by
  cases p with
  | false => exact .nil m
  | true => exact h rfl

end Reads

/-- Read between words, the text ends in code, and in no literal or comment. -/
def EndsInCode (s : String) : Prop := ∃ dots word, Mode.start.after s.toList = .code dots word

/-- The packages, of those that generated code uses, which the text refers to. -/
def referencesIn (s : String) : List String := packageNames.filter (qualifiers s).contains

theorem mem_referencesIn {s name : String} :
    name ∈ referencesIn s ↔ name ∈ packageNames ∧ name.toList ∈ Mode.start.found s.toList := by
  rw [referencesIn, List.mem_filter, List.contains_iff_mem, qualifiers, List.mem_map]
  refine and_congr_right fun _ => ⟨fun ⟨cs, hcs, he⟩ => ?_, fun h => ⟨_, h, String.ofList_toList⟩⟩
  rwa [← he, String.toList_ofList]

/-- What ends a word in code without a dot. -/
def endsWord (c : Char) : Bool := !continuesName c && c != '.'

/-- Behind a word of code it does not matter which one it was. -/
theorem Mode.after_endsWord {c : Char} (hc : endsWord c = true) (cs : List Char) (dots dots' : Nat)
    (word word' : List Char) :
    (code dots word).after (c :: cs) = (code dots' word').after (c :: cs) ∧
      (code dots word).found (c :: cs) = (code dots' word').found (c :: cs) := by
  simp only [endsWord, Bool.and_eq_true, Bool.not_eq_true', bne_iff_ne] at hc
  have hnext (dots : Nat) (word : List Char) : (code dots word).next c = inCode 0 [] c := by
    simp [next, inCode, hc.1, hc.2]
  rw [after_cons, after_cons, found, found, hnext, hnext]
  exact ⟨rfl, rfl⟩

/-- A text in a line is read like a word there that refers to nothing, and besides by itself. -/
theorem Reads.replace {before s behind : String} {ls names : List String} {m : Mode}
    (h : Reads .start ((before ++ "X" ++ behind) :: ls) names m)
    (hbefore : Mode.start.after before.toList = .start)
    (hfirst : before.toList.head?.any (· != 'i') = true)
    (hbehind : behind.toList.head?.any endsWord = true) (hs : EndsInCode s) (hline : '\n' ∉ s.toList) :
    Reads .start ((before ++ s ++ behind) :: ls) (names ++ referencesIn s) m := by
  obtain ⟨dots, word, hword⟩ := hs
  obtain ⟨c, cs, hcs, hc⟩ : ∃ c cs, behind.toList = c :: cs ∧ endsWord c = true := by
    cases hb : behind.toList with
    | nil => simp [hb] at hbehind
    | cons c cs => exact ⟨c, cs, rfl, by simpa [hb] using hbehind⟩
  have htext (s : String) : (textOf ((before ++ s ++ behind) :: ls)).toList =
      before.toList ++ (s.toList ++ c :: (cs ++ '\n' :: (textOf ls).toList)) := by
    simp [textOf, concat, hcs]
  obtain ⟨hafter, hfound⟩ := Mode.after_endsWord hc (cs ++ '\n' :: (textOf ls).toList) dots 0 word ['X']
  have hX : Mode.start.after "X".toList = .code 0 ['X'] ∧ Mode.start.found "X".toList = [] := ⟨rfl, rfl⟩
  obtain ⟨⟨hm, hnames⟩, hplain⟩ := h
  rw [htext, Mode.after_append, hbefore, Mode.after_append, hX.1] at hm
  simp only [htext, Mode.found_append, hbefore, hX.1, hX.2, List.nil_append] at hnames
  obtain ⟨⟨hmid, -⟩, hbelow⟩ := List.forall_mem_cons.1 hplain
  refine ⟨⟨?_, fun name hname => ?_⟩, List.forall_mem_cons.2 ⟨⟨?_, fun himport => ?_⟩, hbelow⟩⟩
  · rw [htext, Mode.after_append, hbefore, Mode.after_append, hword, hafter, hm]
  · rw [htext, Mode.found_append, hbefore, Mode.found_append, hword, hfound, List.mem_append,
      List.mem_append, List.mem_append, mem_referencesIn, ← hnames name hname, List.mem_append]
    simp only [hname, true_and]
    tauto
  · simp only [String.toList_append, List.mem_append, not_or] at hmid ⊢
    exact ⟨⟨hmid.1.1, hline⟩, hmid.2⟩
  · cases hb : before.toList with
    | nil => simp [hb] at hfirst
    | cons d ds =>
      simp only [String.toList_append, hb, importWord, List.cons_append, List.cons_prefix_cons] at himport
      simp [hb, ← himport.1] at hfirst

end GoScaffold
