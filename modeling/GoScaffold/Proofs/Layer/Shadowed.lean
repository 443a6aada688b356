import GoScaffold.Proofs.Layer.Roster
import GoScaffold.Proofs.Text.LowerCase

/-!
# Aliases behind layers

A new alias may not be the name of a layer, but a new layer may have the name of an alias. From then
on the alias is reported for its layer and stands for the other one. Without replacements that is
the only way for a reported alias to stand for anything else than its layer.
-/
namespace GoScaffold

open GoScaffold.Text

/-- The step may put a layer in the place of another one. -/
def RosterStep.replaces : RosterStep → Bool
  | .register _ _ _ replace => replace
  | .unregister _ => false

namespace Roster

/-- An alias that a registration may enter: it is in lower case, it is not the name of its layer,
and no layer has it for a name unless there are replacements. -/
structure IsEntry (layers : List (String × Layer)) (key : String) (replace : Bool)
    (e : String × String) : Prop where
  target : e.2 = key
  apart : e.1 ≠ key
  small : lower e.1 = e.1
  free : replace = false → e.1 ∉ OrderedMap.keys layers

section Steps

variable {r : Roster}

theorem exists_addAliases (replace : Bool) (key : String) (r : Roster) (aliases : List String) :
    ∃ entries, (addAliases replace key r aliases).1 =
        { r with aliases := OrderedMap.insertAll r.aliases entries } ∧
      ∀ e ∈ entries, IsEntry r.layers key replace e := by
  induction aliases generalizing r with
  | nil => exact ⟨[], rfl, by simp⟩
  | cons other rest ih =>
    rw [addAliases]
    by_cases hown : lower other = key
    · rw [if_pos hown]
      exact ih r
    · rw [if_neg hown]
      split
      · exact ⟨[], rfl, by simp⟩
      · next hfault =>
        obtain ⟨entries, hresult, hentries⟩ :=
          ih { r with aliases := OrderedMap.insert (lower other) key r.aliases }
        refine ⟨(lower other, key) :: entries, hresult, List.forall_mem_cons.2 ⟨?_, hentries⟩⟩
        refine ⟨rfl, hown, lower_lower other, fun hreplace hmem => ?_⟩
        rw [hreplace, if_neg Bool.false_ne_true, aliasFault?,
          if_pos (OrderedMap.contains_iff_mem_keys.2 hmem)] at hfault
        cases hfault

/-- A step leaves the roster as it is, or enters a layer with some aliases, or strikes one. -/
theorem step_cases (r : Roster) (s : RosterStep) : r.step s = r ∨
    (∃ name generator aliases replace layer order entries,
      s = .register name generator aliases replace ∧
      (replace = false → lower name ∉ OrderedMap.keys r.layers) ∧
      r.step s = ⟨OrderedMap.insert (lower name) layer r.layers,
        OrderedMap.insertAll r.aliases entries, order⟩ ∧
      ∀ e ∈ entries,
        IsEntry (OrderedMap.insert (lower name) layer r.layers) (lower name) replace e) ∨
    ∃ name, s = .unregister name ∧ r.step s = r.unregister name := by
  cases s with
  | unregister name => exact Or.inr (Or.inr ⟨name, rfl, rfl⟩)
  | register name generator aliases replace =>
    by_cases hnew : OrderedMap.contains (lower name) r.layers = true ∧ replace = false
    · left
      simp only [step, registerGenerator, register, hnew.1, hnew.2, Bool.not_false, Bool.and_self,
        if_true]
      split <;> rfl
    · cases hlayer : Layer.ofGenerator? generator with
      | none => simp [step, registerGenerator, hlayer]
      | some layer =>
        right; left
        have hguard : (OrderedMap.contains (lower name) r.layers && !replace) = false := by
          simpa using hnew
        have hstep : r.step (.register name generator aliases replace) = (addAliases replace
            (lower name) ⟨OrderedMap.insert (lower name) layer r.layers, r.aliases,
              if r.order.contains (lower name) then r.order else r.order ++ [lower name]⟩
            aliases).1 := by
          simp only [step, registerGenerator, hlayer, register, hguard, Bool.false_eq_true, if_false]
        generalize (if r.order.contains (lower name) then _ else _) = order at hstep
        obtain ⟨entries, hresult, hentries⟩ := exists_addAliases replace (lower name)
          ⟨OrderedMap.insert (lower name) layer r.layers, r.aliases, order⟩ aliases
        refine ⟨name, generator, aliases, replace, layer, order, entries, rfl, ?_,
          hstep.trans hresult, hentries⟩
        exact fun hreplace hmem => hnew ⟨OrderedMap.contains_iff_mem_keys.2 hmem, hreplace⟩

end Steps

/-- Names and aliases are in lower case, no alias is the name of its layer, and none is there
twice. -/
structure IsTidy (r : Roster) : Prop where
  names : ∀ key ∈ OrderedMap.keys r.layers, lower key = key
  small : ∀ e ∈ r.aliases, lower e.1 = e.1
  apart : ∀ e ∈ r.aliases, e.1 ≠ e.2
  once : (OrderedMap.keys r.aliases).Nodup

theorem isTidy_empty : empty.IsTidy where
  names := by simp [empty, OrderedMap.keys]
  small := by simp [empty]
  apart := by simp [empty]
  once := List.nodup_nil

section Tidy

variable {r : Roster}

theorem IsTidy.step (h : r.IsTidy) (s : RosterStep) : (r.step s).IsTidy := by
  obtain hstep | ⟨name, generator, aliases, replace, layer, order, entries, -, -, hstep, hentries⟩ |
    ⟨name, -, hstep⟩ := step_cases r s
  · rw [hstep]
    exact h
  · rw [hstep]
    constructor
    · intro key hkey
      rcases OrderedMap.mem_keys_insert.1 hkey with rfl | hkey
      · exact lower_lower name
      · exact h.names key hkey
    · intro e he
      rcases OrderedMap.mem_or_mem_of_mem_insertAll he with he | he
      · exact h.small e he
      · exact (hentries e he).small
    · intro e he
      rcases OrderedMap.mem_or_mem_of_mem_insertAll he with he | he
      · exact h.apart e he
      · rw [(hentries e he).target]
        exact (hentries e he).apart
    · exact OrderedMap.nodup_keys_insertAll h.once
  · rw [hstep]
    constructor
    · intro key hkey
      exact h.names key (OrderedMap.mem_keys_erase.1 hkey).2
    · intro e he
      exact h.small e (List.mem_filter.1 he).1
    · intro e he
      exact h.apart e (List.mem_filter.1 he).1
    · exact h.once.sublist (List.filter_sublist.map _)

theorem IsTidy.steps (h : r.IsTidy) (ss : List RosterStep) : (r.steps ss).IsTidy := by
  induction ss generalizing r with
  | nil => exact h
  | cons s ss ih => exact ih (h.step s)

/-- What an alias stands for: the layer of its name if there is one, and its own layer if not. -/
theorem IsTidy.resolve_alias (h : r.IsTidy) (hcoherent : r.IsCoherent) {other target : String}
    (halias : (other, target) ∈ r.aliases) :
    r.resolve other = if other ∈ r.names then .ok other else .ok target := by
  have hsmall : lower other = other := h.small (other, target) halias
  rw [resolve, hsmall, OrderedMap.get?_of_mem h.once halias]
  by_cases hname : other ∈ r.names
  · rw [if_pos hname,
      if_pos (OrderedMap.contains_iff_mem_keys.2 ((hcoherent.listed other).1 hname))]
  · have hlayers : ¬ OrderedMap.contains other r.layers = true := fun hcontains =>
      hname ((hcoherent.listed other).2 (OrderedMap.contains_iff_mem_keys.1 hcontains))
    rw [if_neg hname, if_neg hlayers]

/-- An alias stands for its own layer again once the layer of its name is struck. -/
theorem IsTidy.resolve_alias_unregister (h : r.IsTidy) (hcoherent : r.IsCoherent)
    {other target : String} (halias : (other, target) ∈ r.aliases) :
    (r.unregister other).resolve other = .ok target := by
  have hsmall : lower other = other := h.small (other, target) halias
  have hkept : (other, target) ∈ (r.unregister other).aliases := by
    have hne : target ≠ other := Ne.symm (h.apart (other, target) halias)
    simp [unregister, halias, hsmall, hne]
  have hstruck : other ∉ (r.unregister other).names := by
    intro hmem
    have hmem : other ∈ r.order.erase (lower other) := hmem
    rw [hsmall] at hmem
    exact absurd hmem hcoherent.once.not_mem_erase
  have htidy : (r.unregister other).IsTidy := h.step (.unregister other)
  rw [htidy.resolve_alias (hcoherent.unregister other) hkept, if_neg hstruck]

theorem mem_aliasesFor {name other : String} :
    other ∈ r.aliasesFor name ↔ (other, lower name) ∈ r.aliases := by
  simp [aliasesFor]

end Tidy

/-- In the course of the steps a layer is registered under a name that is an alias of the target at
that time. -/
def TakesAlias (ss : List RosterStep) (other target : String) : Prop :=
  ∃ before name generator aliases after,
    ss = before ++ .register name generator aliases false :: after ∧ lower name = other ∧
    (other, target) ∈ (empty.steps before).aliases ∧ other ∉ (empty.steps before).names

theorem TakesAlias.append {ss : List RosterStep} {other target : String}
    (h : TakesAlias ss other target) (more : List RosterStep) :
    TakesAlias (ss ++ more) other target := by
  obtain ⟨before, name, generator, aliases, after, rfl, hname, halias, hnew⟩ := h
  exact ⟨before, name, generator, aliases, after ++ more, by simp, hname, halias, hnew⟩

/-- If a step without replacement leaves an alias that is the name of a layer, then it was so
before, or the step has registered that layer. -/
theorem IsCoherent.hidden_step {r : Roster} (h : r.IsCoherent) {s : RosterStep}
    (hs : s.replaces = false) {other target : String} (halias : (other, target) ∈ (r.step s).aliases)
    (hname : other ∈ (r.step s).names) : (other, target) ∈ r.aliases ∧ (other ∈ r.names ∨
      other ∉ r.names ∧ ∃ name generator aliases,
        s = .register name generator aliases false ∧ lower name = other) := by
  have hlayer : other ∈ OrderedMap.keys (r.step s).layers := ((h.step s).listed other).1 hname
  obtain hstep | ⟨name, generator, aliases, replace, layer, order, entries, rfl, hfree, hstep,
    hentries⟩ | ⟨name, -, hstep⟩ := step_cases r s
  · rw [hstep] at halias hname
    exact ⟨halias, Or.inl hname⟩
  · obtain rfl : replace = false := hs
    rw [hstep] at halias hlayer
    have halias : (other, target) ∈ r.aliases :=
      (OrderedMap.mem_or_mem_of_mem_insertAll halias).resolve_right fun hmem =>
        (hentries _ hmem).free rfl hlayer
    refine ⟨halias, ?_⟩
    rcases OrderedMap.mem_keys_insert.1 hlayer with rfl | hlayer
    · exact Or.inr ⟨fun hmem => hfree rfl ((h.listed _).1 hmem), name, generator, aliases, rfl, rfl⟩
    · exact Or.inl ((h.listed other).2 hlayer)
  · rw [hstep] at halias hname
    exact ⟨(List.mem_filter.1 halias).1, Or.inl (List.mem_of_mem_erase hname)⟩

/-- Without replacements an alias is the name of a layer only where the layer came later. -/
theorem takesAlias_of_mem {ss : List RosterStep} (hss : ∀ s ∈ ss, s.replaces = false)
    {other target : String} (halias : (other, target) ∈ (empty.steps ss).aliases)
    (hname : other ∈ (empty.steps ss).names) : TakesAlias ss other target := by
  induction ss using List.reverseRecOn with
  | nil => cases halias
  | append_singleton ss s ih =>
    rw [steps, List.foldl_append] at halias hname
    obtain ⟨hbefore, hold | ⟨hnew, name, generator, aliases, rfl, rfl⟩⟩ :=
      (isCoherent_empty.steps ss).hidden_step (hss s (by simp)) halias hname
    · exact (ih (fun s hs => hss s (by simp [hs])) hbefore hold).append [s]
    · exact ⟨ss, name, generator, aliases, [], rfl, rfl, hbefore, hnew⟩

/-- Where nothing is ever replaced, an alias that is reported for a layer stands for that layer,
unless another layer has been registered under the alias since. In that case the alias stands for
the other layer, and for its own again once the other one is struck. -/
theorem resolve_reported {ss : List RosterStep} (hss : ∀ s ∈ ss, s.replaces = false)
    {name other : String} (h : other ∈ (empty.steps ss).aliasesFor name) :
    lower name ∈ (empty.steps ss).names ∧
    (other ∉ (empty.steps ss).names ∧ (empty.steps ss).resolve other = .ok (lower name) ∨
      other ∈ (empty.steps ss).names ∧ (empty.steps ss).resolve other = .ok other ∧
      other ≠ lower name ∧ TakesAlias ss other (lower name) ∧
      ((empty.steps ss).unregister other).resolve other = .ok (lower name)) := by
  have hcoherent := isCoherent_empty.steps ss
  have htidy := isTidy_empty.steps ss
  have halias := mem_aliasesFor.1 h
  have hresolve := htidy.resolve_alias hcoherent halias
  refine ⟨(hcoherent.listed _).2 (hcoherent.led _ _ halias), ?_⟩
  by_cases hname : other ∈ (empty.steps ss).names
  · rw [if_pos hname] at hresolve
    exact Or.inr ⟨hname, hresolve, htidy.apart _ halias, takesAlias_of_mem hss halias hname,
      htidy.resolve_alias_unregister hcoherent halias⟩
  · rw [if_neg hname] at hresolve
    exact Or.inl ⟨hname, hresolve⟩

/-- The second layer has the name of an alias of the first. -/
theorem resolve_reported_dto :
    let ss : List RosterStep := [.register "domain" "DomainGenerator" ["dto"] false,
      .register "DTO" "DTOGenerator" [] false]
    "dto" ∈ (empty.steps ss).aliasesFor "domain" ∧ (empty.steps ss).resolve "dto" = .ok "dto" ∧
      ((empty.steps ss).unregister "dto").resolve "dto" = .ok "domain" := by
  intro ss
  have hreported : "dto" ∈ (empty.steps ss).aliasesFor "domain" := by
    rw [mem_aliasesFor]
    decide +kernel
  have hlower : lower "domain" = "domain" := by decide +kernel
  have hss : ∀ s ∈ ss, s.replaces = false := by decide
  obtain ⟨-, ⟨hfree, -⟩ | ⟨-, hresolve, -, -, hstruck⟩⟩ := resolve_reported hss hreported
  · exact absurd (by decide +kernel) hfree
  · exact ⟨hreported, hresolve, hlower ▸ hstruck⟩

end Roster

end GoScaffold
