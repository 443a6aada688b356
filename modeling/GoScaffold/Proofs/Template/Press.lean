import GoScaffold.Proofs.OrderedMap
import GoScaffold.Template.Shelf

/-!
# Presses of built-in templates

A press without a template directory reads nothing but the built-in templates, so a name comes to
the same text in every render, whatever has been rendered before and whatever the files are.
-/
namespace GoScaffold.Template

namespace Press

section Keep

variable {p : Press} {name name' : String} {l l' : Loaded}

theorem get?_withoutOldest {m : List (String × Loaded)}
    (h : OrderedMap.get? name (withoutOldest m) = some l) : OrderedMap.get? name m = some l := by
  cases m with
  | nil => exact h
  | cons e m =>
    rw [withoutOldest, OrderedMap.get?_erase] at h
    split at h
    · cases h
    · exact h

/-- What a press has after one more template is that one or what it had. -/
theorem loaded_keep (h : OrderedMap.get? name' (p.keep name l).loaded = some l') :
    name' = name ∧ l' = l ∨ OrderedMap.get? name' p.loaded = some l' := by
  have hothers (h : OrderedMap.get? name' (OrderedMap.erase name p.loaded) = some l') :
      OrderedMap.get? name' p.loaded = some l' := by
    rw [OrderedMap.get?_erase] at h
    split at h
    · cases h
    · exact h
  simp only [keep, OrderedMap.get?_append, Option.or_eq_some_iff] at h
  rcases h with h | ⟨-, h⟩
  · right
    split at h
    · exact hothers h
    · exact hothers (get?_withoutOldest h)
  · left
    rw [OrderedMap.get?] at h
    split at h
    · next hname =>
      exact ⟨hname.symm, (Option.some.inj h).symm⟩
    · cases h

theorem get?_keep : OrderedMap.get? name (p.keep name l).loaded = some l := by
  apply OrderedMap.get?_append_cons
  intro hmem
  have hothers : name ∉ OrderedMap.keys (OrderedMap.erase name p.loaded) := by
    simp [OrderedMap.mem_keys_erase]
  apply hothers
  split at hmem
  · exact hmem
  · rw [← OrderedMap.contains_iff_mem_keys, OrderedMap.contains, Option.isSome_iff_exists] at hmem ⊢
    obtain ⟨l', hl'⟩ := hmem
    exact ⟨l', get?_withoutOldest hl'⟩

theorem loaded_touch (h : OrderedMap.get? name' (p.touch name).loaded = some l') :
    OrderedMap.get? name' p.loaded = some l' := by
  unfold touch at h
  split at h
  · next hl =>
    rcases loaded_keep h with ⟨rfl, rfl⟩ | h
    · exact hl
    · exact h
  · exact h

@[simp]
theorem shelf_keep : (p.keep name l).shelf = p.shelf := rfl

@[simp]
theorem shelf_touch : (p.touch name).shelf = p.shelf := by
  unfold touch
  split <;> rfl

end Keep

/-- The press has no template directory, and all that it has read is built in. -/
structure IsBuiltin (p : Press) : Prop where
  shelf : p.shelf = {}
  loaded : ∀ name l, OrderedMap.get? name p.loaded = some l → l.source = none ∧
    ∃ text, OrderedMap.get? name builtins = some text ∧ compile (some name) text = .ok l.nodes

theorem isBuiltin_create : (create none).IsBuiltin where
  shelf := rfl
  loaded _ _ h := by simp [create, OrderedMap.get?] at h

theorem load_builtin {name text : String} {nodes : Nodes} (t : Tree)
    (htext : OrderedMap.get? name builtins = some text)
    (hnodes : compile (some name) text = .ok nodes) :
    load {} t name = .ok { source := none, nodes } := by
  have hcustom : Shelf.custom {} t = .ok [] := rfl
  simp [load, hcustom, htext, OrderedMap.get?, compiled, hnodes]

/-- The press gives the statements of a built-in template, and goes on as one of built-in
templates. -/
theorem IsBuiltin.fetch {p : Press} (h : p.IsBuiltin) {name text : String} {nodes : Nodes} (t : Tree)
    (htext : OrderedMap.get? name builtins = some text)
    (hnodes : compile (some name) text = .ok nodes) :
    ∃ p' : Press, p.fetch t name = (p', .ok nodes) ∧ p'.IsBuiltin := by
  cases hl : OrderedMap.get? name p.loaded with
  | some l =>
    obtain ⟨hsource, text', htext', hnodes'⟩ := h.loaded name l hl
    have hsame : l.nodes = nodes := by
      rw [htext, Option.some.injEq] at htext'
      rw [← htext', hnodes] at hnodes'
      exact (Except.ok.inj hnodes').symm
    have hcurrent : p.current? t name = some l := by
      simp [current?, hl, Loaded.isCurrent, hsource]
    refine ⟨p.touch name, by simp only [Press.fetch, hcurrent, hsame], by simp [h.shelf], ?_⟩
    intro name' l' hl'
    exact h.loaded name' l' (loaded_touch hl')
  | none =>
    have hcurrent : p.current? t name = none := by simp [current?, hl]
    have hload : load p.shelf t name = .ok { source := none, nodes } := by
      rw [h.shelf]
      exact load_builtin t htext hnodes
    refine ⟨p.keep name { source := none, nodes }, by simp only [Press.fetch, hcurrent, hload],
      h.shelf, ?_⟩
    intro name' l' hl'
    rcases loaded_keep hl' with ⟨rfl, rfl⟩ | hl'
    · exact ⟨rfl, text, htext, hnodes⟩
    · exact h.loaded name' l' hl'

/-- A built-in template comes to what its statements say. -/
theorem IsBuiltin.render {p : Press} (h : p.IsBuiltin) {name text s : String} {nodes : Nodes}
    {scope : Scope} (t : Tree) (htext : OrderedMap.get? name builtins = some text)
    (hnodes : compile (some name) text = .ok nodes) (hs : nodes.textFor scope = .ok s) :
    ∃ p' : Press, p.render t name scope = (p', .ok s) ∧ p'.IsBuiltin := by
  obtain ⟨p', hfetch, hp'⟩ := h.fetch t htext hnodes
  exact ⟨p', by simp [Press.render, hfetch, hs], hp'⟩

end Press

end GoScaffold.Template
