import GoScaffold.Json.Writer
import GoScaffold.Proofs.OrderedMap

/-!
# Values member by member

A value is reached from those without members by way of arrays and objects. Values without floating
point numbers, and why one of them is not written, are told from their members.
-/
namespace GoScaffold.Json

/-- What holds of a value once it holds of its members holds of every value. -/
@[elab_as_elim]
theorem memberwise {P : Json → Prop} (null : P .null) (bool : ∀ b, P (.bool b))
    (int : ∀ n, P (.int n)) (float : ∀ x, P (.float x)) (str : ∀ s, P (.str s))
    (array : ∀ xs, (∀ x ∈ xs, P x) → P (.array xs))
    (object : ∀ fs, (∀ f ∈ fs, P f.2) → P (.object fs)) (j : Json) : P j :=
  match j with
  | .null => null
  | .bool b => bool b
  | .int n => int n
  | .float x => float x
  | .str s => str s
  | .array xs => array xs fun x _ => memberwise null bool int float str array object x
  | .object fs => object fs fun f _ => memberwise null bool int float str array object f.2
termination_by sizeOf j
decreasing_by
  · next hx =>
    have hlt := List.sizeOf_lt_of_mem hx
    simp only [Json.array.sizeOf_spec]
    omega
  · next hf =>
    have hlt := List.sizeOf_lt_of_mem hf
    cases f
    simp only [Json.object.sizeOf_spec, Prod.mk.sizeOf_spec] at hlt ⊢
    omega

mutual

/-- No number is a floating point one, and no object has a field twice. -/
def isPlain : Json → Bool
  | .float _ => false
  | .array xs => arePlain xs
  | .object fs => decide (OrderedMap.keys fs).Nodup && haveFieldsPlain fs
  | _ => true

def arePlain : List Json → Bool
  | [] => true
  | x :: xs => isPlain x && arePlain xs

def haveFieldsPlain : List (String × Json) → Bool
  | [] => true
  | (_, x) :: xs => isPlain x && haveFieldsPlain xs

end

theorem arePlain_iff {xs : List Json} : arePlain xs = true ↔ ∀ x ∈ xs, x.isPlain = true := by
  induction xs with
  | nil => simp [arePlain]
  | cons x xs ih => simp [arePlain, ih]

theorem haveFieldsPlain_iff {fs : List (String × Json)} :
    haveFieldsPlain fs = true ↔ ∀ f ∈ fs, f.2.isPlain = true := by
  induction fs with
  | nil => simp [haveFieldsPlain]
  | cons f fs ih => rw [haveFieldsPlain, Bool.and_eq_true, ih, List.forall_mem_cons]

theorem unwritableItem?_eq_none {room : Nat} {xs : List Json} :
    unwritableItem? room xs = none ↔ ∀ x ∈ xs, x.unwritable? room = none := by
  induction xs with
  | nil => simp [unwritableItem?]
  | cons x xs ih => simp [unwritableItem?, ih]

theorem unwritableField?_eq_none {room : Nat} {fs : List (String × Json)} :
    unwritableField? room fs = none ↔ ∀ f ∈ fs, f.2.unwritable? room = none := by
  induction fs with
  | nil => simp [unwritableField?]
  | cons f fs ih => simp [unwritableField?, ih]

end GoScaffold.Json

/-! ## The same value

A value without floating point numbers is the same as itself. A value is never the same as one that
stands in it, since it has the greater height. -/

namespace GoScaffold.Json

theorem sameItems_self {xs : List Json} (h : ∀ x ∈ xs, x.same x = true) :
    sameItems xs xs = true := by
  induction xs with
  | nil => simp [sameItems]
  | cons x xs ih =>
    obtain ⟨hx, hxs⟩ := List.forall_mem_cons.1 h
    rw [sameItems, hx, ih hxs, Bool.and_self]

theorem sameFields_iff {fs gs : List (String × Json)} :
    sameFields fs gs = true ↔
      ∀ f ∈ fs, ∃ y, OrderedMap.get? f.1 gs = some y ∧ f.2.same y = true := by
  induction fs with
  | nil => simp [sameFields]
  | cons f fs ih =>
    rw [sameFields, Bool.and_eq_true, ih, List.forall_mem_cons]
    cases hy : OrderedMap.get? f.1 gs with
    | none => simp
    | some y => simp

theorem sameFields_self {fs : List (String × Json)} (hkeys : (OrderedMap.keys fs).Nodup)
    (h : ∀ f ∈ fs, f.2.same f.2 = true) : sameFields fs fs = true := by
  rw [sameFields_iff]
  intro f hf
  exact ⟨f.2, OrderedMap.get?_of_mem hkeys hf, h f hf⟩

theorem same_self {j : Json} (h : j.isPlain = true) : j.same j = true := by
  induction j using memberwise with
  | null => simp [same]
  | bool b => simp [same, toInt?]
  | int n => simp [same, toInt?]
  | float x => simp [isPlain] at h
  | str s => simp [same]
  | array xs ih =>
    rw [isPlain, arePlain_iff] at h
    rw [same]
    apply sameItems_self
    intro x hx
    exact ih x hx (h x hx)
  | object fs ih =>
    rw [isPlain, Bool.and_eq_true, decide_eq_true_iff, haveFieldsPlain_iff] at h
    rw [same, Bool.and_eq_true]
    constructor
    · simp
    · apply sameFields_self h.1
      intro f hf
      exact ih f hf (h.2 f hf)

mutual

/-- How many arrays and objects stand in each other. -/
def height : Json → Nat
  | .array xs => itemsHeight xs + 1
  | .object fs => fieldsHeight fs + 1
  | _ => 0

def itemsHeight : List Json → Nat
  | [] => 0
  | x :: xs => max x.height (itemsHeight xs)

def fieldsHeight : List (String × Json) → Nat
  | [] => 0
  | (_, x) :: xs => max x.height (fieldsHeight xs)

end

theorem itemsHeight_le {xs : List Json} {n : Nat} :
    itemsHeight xs ≤ n ↔ ∀ x ∈ xs, x.height ≤ n := by
  induction xs with
  | nil => simp [itemsHeight]
  | cons x xs ih => rw [itemsHeight, Nat.max_le, ih, List.forall_mem_cons]

theorem fieldsHeight_le {fs : List (String × Json)} {n : Nat} :
    fieldsHeight fs ≤ n ↔ ∀ f ∈ fs, f.2.height ≤ n := by
  induction fs with
  | nil => simp [fieldsHeight]
  | cons f fs ih => rw [fieldsHeight, Nat.max_le, ih, List.forall_mem_cons]

theorem height_lt_array {xs : List Json} {x : Json} (h : x ∈ xs) :
    x.height < (array xs).height := by
  rw [height]
  exact Nat.lt_succ_of_le (itemsHeight_le.1 (Nat.le_refl _) x h)

theorem height_lt_object {fs : List (String × Json)} {f : String × Json} (h : f ∈ fs) :
    f.2.height < (object fs).height := by
  rw [height]
  exact Nat.lt_succ_of_le (fieldsHeight_le.1 (Nat.le_refl _) f h)

theorem itemsHeight_le_of_sameItems {xs ys : List Json} (h : sameItems xs ys = true)
    (ih : ∀ x ∈ xs, ∀ {y : Json}, x.same y = true → x.height ≤ y.height) :
    itemsHeight xs ≤ itemsHeight ys := by
  induction xs generalizing ys with
  | nil => exact Nat.zero_le _
  | cons x xs ihxs =>
    cases ys with
    | nil => simp [sameItems] at h
    | cons y ys =>
      rw [sameItems, Bool.and_eq_true] at h
      have hfirst := ih x (List.mem_cons_self ..) h.1
      have hrest := ihxs h.2 fun z hz => ih z (List.mem_cons_of_mem _ hz)
      rw [itemsHeight, itemsHeight]
      omega

theorem height_le_of_same {x y : Json} (h : x.same y = true) : x.height ≤ y.height := by
  induction x using memberwise generalizing y with
  | null => simp [height]
  | bool b => simp [height]
  | int n => simp [height]
  | float x => simp [height]
  | str s => simp [height]
  | array xs ih =>
    cases y with
    | array ys =>
      rw [same] at h
      rw [height, height]
      exact Nat.succ_le_succ (itemsHeight_le_of_sameItems h ih)
    | _ => simp [same, toInt?] at h
  | object fs ih =>
    cases y with
    | object gs =>
      rw [same, Bool.and_eq_true, sameFields_iff] at h
      rw [height, height, Nat.add_le_add_iff_right, fieldsHeight_le]
      intro f hf
      obtain ⟨y, hy, hsame⟩ := h.2 f hf
      exact Nat.le_trans (ih f hf hsame)
        (Nat.le_of_lt_succ (height_lt_object (OrderedMap.mem_of_get? hy)))
    | _ => simp [same, toInt?] at h

end GoScaffold.Json
