import GoScaffold.Layer.Roster
import GoScaffold.Proofs.OrderedMap

/-!
# Rosters stay coherent

A roster keeps its layers, their aliases and the order of generation apart. Whatever is registered
and struck, and wherever a registration stops, the three agree: the order lists the layers, and
every alias leads to one. So a name that is supported has a layer, and no other name has one.
-/
namespace GoScaffold

open GoScaffold.Text

/-- What can be done to a roster. -/
inductive RosterStep
  | register (name generator : String) (aliases : List String) (replace : Bool)
  | unregister (name : String)
  deriving Repr, DecidableEq

namespace Roster

/-- The roster after a step, one that stops halfway included. -/
def step (r : Roster) : RosterStep → Roster
  | .register name generator aliases replace =>
    (r.registerGenerator name generator aliases replace).1
  | .unregister name => r.unregister name

def steps (r : Roster) (ss : List RosterStep) : Roster := ss.foldl step r

/-- The order lists the layers, each once, and the aliases lead to layers. -/
structure IsCoherent (r : Roster) : Prop where
  once : r.order.Nodup
  listed : ∀ key, key ∈ r.order ↔ key ∈ OrderedMap.keys r.layers
  led : ∀ other target, (other, target) ∈ r.aliases → target ∈ OrderedMap.keys r.layers

theorem isCoherent_empty : empty.IsCoherent where
  once := List.nodup_nil
  listed _ := Iff.rfl
  led _ _ h := by cases h

section Steps

variable {r : Roster}

/-- Aliases of a layer leave the layers alone, also those in front of one that is refused. -/
theorem IsCoherent.addAliases (h : r.IsCoherent) {key : String}
    (hkey : key ∈ OrderedMap.keys r.layers) (replace : Bool) (aliases : List String) :
    (addAliases replace key r aliases).1.IsCoherent := by
  induction aliases generalizing r with
  | nil => exact h
  | cons other rest ih =>
    rw [Roster.addAliases]
    split
    · exact ih h hkey
    · split
      · exact h
      · apply ih
        · refine ⟨h.once, h.listed, ?_⟩
          intro byname target hmem
          rcases OrderedMap.eq_or_mem_of_mem_insert hmem with heq | hmem
          · rw [(Prod.mk.inj heq).2]
            exact hkey
          · exact h.led byname target hmem
        · exact hkey

theorem IsCoherent.addLayer (h : r.IsCoherent) (key : String) (layer : Layer) :
    IsCoherent { r with
      layers := OrderedMap.insert key layer r.layers
      order := if r.order.contains key then r.order else r.order ++ [key] } := by
  have horder : ∀ k, k ∈ (if r.order.contains key then r.order else r.order ++ [key]) ↔
      k = key ∨ k ∈ r.order := by
    intro k
    split
    · next hc =>
      constructor
      · exact Or.inr
      · rintro (rfl | hk)
        · exact List.contains_iff_mem.1 hc
        · exact hk
    · simp [or_comm]
  constructor
  · show (if r.order.contains key then r.order else r.order ++ [key]).Nodup
    split
    · exact h.once
    · next hc =>
      rw [List.contains_iff_mem] at hc
      apply List.nodup_append.2 ⟨h.once, by simp, _⟩
      intro k hk k' hk' heq
      apply hc
      rw [← List.mem_singleton.1 hk', ← heq]
      exact hk
  · intro k
    rw [horder, OrderedMap.mem_keys_insert, h.listed]
  · intro other target hmem
    exact OrderedMap.mem_keys_insert.2 (Or.inr (h.led other target hmem))

theorem IsCoherent.register (h : r.IsCoherent) (name : String) (layer : Layer)
    (aliases : List String) (replace : Bool) :
    (r.register name layer aliases replace).1.IsCoherent := by
  rw [Roster.register]
  split
  · exact h
  · apply (h.addLayer (lower name) layer).addAliases
    exact OrderedMap.mem_keys_insert.2 (Or.inl rfl)

theorem IsCoherent.unregister (h : r.IsCoherent) (name : String) :
    (r.unregister name).IsCoherent := by
  constructor
  · exact h.once.erase _
  · intro key
    show key ∈ r.order.erase (lower name) ↔ _
    rw [h.once.mem_erase_iff, h.listed]
    exact OrderedMap.mem_keys_erase.symm
  · intro other target hmem
    have hmem : (other, target) ∈ r.aliases ∧ target ≠ lower name := by
      simpa [Roster.unregister] using hmem
    exact OrderedMap.mem_keys_erase.2 ⟨hmem.2, h.led other target hmem.1⟩

/-- No step makes a roster incoherent. -/
theorem IsCoherent.step (h : r.IsCoherent) (s : RosterStep) : (r.step s).IsCoherent := by
  cases s with
  | register name generator aliases replace =>
    show (r.registerGenerator name generator aliases replace).1.IsCoherent
    rw [registerGenerator]
    split
    · exact h.register name _ aliases replace
    · exact h
  | unregister name => exact h.unregister name

theorem IsCoherent.steps (h : r.IsCoherent) (ss : List RosterStep) : (r.steps ss).IsCoherent := by
  induction ss generalizing r with
  | nil => exact h
  | cons s ss ih => exact ih (h.step s)

theorem primary_of_mem {key : String} (h : key ∈ OrderedMap.keys r.layers) :
    ∃ layer, OrderedMap.get? key r.layers = some layer ∧ r.primary key = .ok layer := by
  rw [← OrderedMap.contains_iff_mem_keys, OrderedMap.contains, Option.isSome_iff_exists] at h
  obtain ⟨layer, hlayer⟩ := h
  exact ⟨layer, hlayer, by rw [primary, hlayer]⟩

theorem IsCoherent.resolve_ok (h : r.IsCoherent) {name : String} (hname : r.isSupported name = true) :
    ∃ key, r.resolve name = .ok key ∧ key ∈ r.order := by
  rw [resolve]
  split
  · next hlayer =>
    exact ⟨lower name, rfl, (h.listed _).2 (OrderedMap.contains_iff_mem_keys.1 hlayer)⟩
  · next hlayer =>
    have halias : OrderedMap.contains (lower name) r.aliases = true := by
      simpa [isSupported, hlayer] using hname
    obtain ⟨target, htarget⟩ := Option.isSome_iff_exists.1 halias
    rw [htarget]
    exact ⟨target, rfl, (h.listed _).2 (h.led _ _ (OrderedMap.mem_of_get? htarget))⟩

theorem resolve_error {name : String} (hname : r.isSupported name = false) :
    r.resolve name = .error (.unknown name r.names) := by
  simp only [isSupported, OrderedMap.contains, Bool.or_eq_false_iff, Option.isSome_eq_false_iff,
    Option.isNone_iff_eq_none] at hname
  simp [resolve, OrderedMap.contains, hname.1, hname.2]

end Steps

/-- Whatever is done to a new roster, its order lists each layer once and nothing else, its aliases
lead to layers, and of the names exactly the supported ones have a layer; any other is refused as
unknown. -/
theorem steps_coherent (ss : List RosterStep) :
    (empty.steps ss).IsCoherent ∧ ∀ name,
      ((empty.steps ss).isSupported name = true → ∃ key layer,
        (empty.steps ss).resolve name = .ok key ∧ key ∈ (empty.steps ss).names ∧
        OrderedMap.get? key (empty.steps ss).layers = some layer ∧
        (empty.steps ss).layer name = .ok layer) ∧
      ((empty.steps ss).isSupported name = false →
        (empty.steps ss).resolve name = .error (.unknown name (empty.steps ss).names) ∧
        (empty.steps ss).layer name = .error (.unknown name (empty.steps ss).names)) := by
  have h := isCoherent_empty.steps ss
  refine ⟨h, fun name => ⟨?_, ?_⟩⟩
  · intro hname
    obtain ⟨key, hresolve, hkey⟩ := h.resolve_ok hname
    obtain ⟨layer, hget, hprimary⟩ := primary_of_mem ((h.listed key).1 hkey)
    exact ⟨key, layer, hresolve, hkey, hget, by rw [Roster.layer, hresolve]; exact hprimary⟩
  · intro hname
    have hresolve := resolve_error hname
    exact ⟨hresolve, by rw [Roster.layer, hresolve]; rfl⟩

/-- A registration that stops at its second alias has left its layer and its first alias. -/
example : empty.steps [.register "domain" "DomainGenerator" [] false,
      .register "DTO" "DTOGenerator" ["dtos", "Domain", "usecase"] false] =
    { layers := [("domain", .domain), ("dto", .dto)], aliases := [("dtos", "dto")],
      order := ["domain", "dto"] } := by
  decide +kernel

end Roster

end GoScaffold
