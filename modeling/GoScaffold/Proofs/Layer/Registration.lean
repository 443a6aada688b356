import GoScaffold.Proofs.Layer.Roster

/-!
# Refused registrations

A registration is refused for its generator before anything is entered, and for an alias after the
layer and the aliases in front of that one have been. Of the second kind the layer stays in the
roster: a further registration without replacement changes nothing, and one with it leaves the
aliases that were entered. Striking the layer takes everything back.
-/
namespace GoScaffold

open GoScaffold.Text

namespace Roster

/-- The entries for the aliases of a layer; its own name is none. -/
def aliasEntries (key : String) (aliases : List String) : List (String × String) :=
  ((aliases.map lower).filter (· != key)).map fun other => (other, key)

/-- The roster with a layer behind all others, and its aliases. -/
def enter (r : Roster) (key : String) (layer : Layer) (aliases : List String) : Roster where
  layers := r.layers ++ [(key, layer)]
  aliases := OrderedMap.insertAll r.aliases (aliasEntries key aliases)
  order := r.order ++ [key]

/-- Nothing speaks against an alias of a layer: it is the layer's name, or free, or its alias. -/
def AcceptsAlias (r : Roster) (key other : String) : Prop :=
  lower other = key ∨ r.aliasFault? key other = none

section Aliases

variable {r r' : Roster} {key other : String} {aliases : List String} {fault : RosterFault}

theorem aliasEntries_cons (key other : String) (rest : List String) :
    aliasEntries key (other :: rest) =
      if lower other = key then aliasEntries key rest
      else (lower other, key) :: aliasEntries key rest := by
  by_cases h : lower other = key <;> simp [aliasEntries, h]

theorem insertAll_aliasEntries_append (m : List (String × String)) (key : String)
    (as bs : List String) :
    OrderedMap.insertAll m (aliasEntries key (as ++ bs)) =
      OrderedMap.insertAll (OrderedMap.insertAll m (aliasEntries key as)) (aliasEntries key bs) := by
  simp [aliasEntries, OrderedMap.insertAll]

theorem aliasFault?_eq_none_iff : r.aliasFault? key other = none ↔
    OrderedMap.contains (lower other) r.layers = false ∧
      ∀ target, OrderedMap.get? (lower other) r.aliases = some target → target = key := by
  rw [aliasFault?]
  split
  · next h => simp [h]
  · next h =>
    rw [Bool.not_eq_true] at h
    cases htarget : OrderedMap.get? (lower other) r.aliases with
    | none => simp [h]
    | some target => by_cases hkey : target = key <;> simp [h, hkey]

/-- An alias that the layer has been given changes nothing about the others. -/
theorem aliasFault?_insert (h : r.aliasFault? key other = none) (another : String) :
    aliasFault? { r with aliases := OrderedMap.insert (lower other) key r.aliases } key another =
      r.aliasFault? key another := by
  by_cases hsame : lower other = lower another
  · rw [aliasFault?_eq_none_iff, hsame] at h
    rw [aliasFault?_eq_none_iff.2 h, aliasFault?_eq_none_iff]
    simpa [OrderedMap.get?_insert, hsame] using h.1
  · simp [aliasFault?, OrderedMap.get?_insert, hsame]

/-- The layer that has been entered is in the way of its own name alone. -/
theorem aliasFault?_addLayer (h : lower other ≠ key) (layer : Layer) (order : List String) :
    aliasFault? { r with layers := OrderedMap.insert key layer r.layers, order } key other =
      r.aliasFault? key other := by
  have hlayers : OrderedMap.contains (lower other) (OrderedMap.insert key layer r.layers) =
      OrderedMap.contains (lower other) r.layers := by
    rw [OrderedMap.contains, OrderedMap.get?_insert, if_neg (Ne.symm h), OrderedMap.contains]
  simp only [aliasFault?, hlayers]

/-- Aliases are given up to the first that is refused, and none is refused to a layer that replaces
another. -/
theorem addAliases_refused {replace : Bool}
    (h : addAliases replace key r aliases = (r', some fault)) :
    replace = false ∧ ∃ before other after, aliases = before ++ other :: after ∧
      (∀ a ∈ before, r.AcceptsAlias key a) ∧ lower other ≠ key ∧
      r.aliasFault? key other = some fault ∧
      r' = { r with aliases := OrderedMap.insertAll r.aliases (aliasEntries key before) } := by
  induction aliases generalizing r with
  | nil => cases h
  | cons first rest ih =>
    rw [addAliases] at h
    split at h
    · next hown =>
      obtain ⟨hreplace, before, other, after, rfl, hbefore, hother, hfault, rfl⟩ := ih h
      refine ⟨hreplace, first :: before, other, after, rfl, ?_, hother, hfault, ?_⟩
      · exact List.forall_mem_cons.2 ⟨Or.inl hown, hbefore⟩
      · rw [aliasEntries_cons, if_pos hown]
    · next hown =>
      split at h
      · next fault' hfault =>
        cases h
        cases replace with
        | true => cases hfault
        | false => exact ⟨rfl, [], first, rest, rfl, by simp, hown, hfault, rfl⟩
      · next hnone =>
        obtain ⟨rfl, before, other, after, rfl, hbefore, hother, hfault, rfl⟩ := ih h
        have hfirst : r.aliasFault? key first = none := hnone
        refine ⟨rfl, first :: before, other, after, rfl, ?_, hother, ?_, ?_⟩
        · refine List.forall_mem_cons.2 ⟨Or.inr hfirst, fun a ha => (hbefore a ha).imp_right ?_⟩
          intro haccepted
          rwa [aliasFault?_insert hfirst] at haccepted
        · rwa [aliasFault?_insert hfirst] at hfault
        · rw [aliasEntries_cons, if_neg hown]
          rfl

/-- Where no alias is refused, all are given. -/
theorem addAliases_accepted {replace : Bool}
    (h : replace = true ∨ ∀ a ∈ aliases, r.AcceptsAlias key a) :
    addAliases replace key r aliases =
      ({ r with aliases := OrderedMap.insertAll r.aliases (aliasEntries key aliases) }, none) := by
  induction aliases generalizing r with
  | nil => rfl
  | cons first rest ih =>
    have hrest : replace = true ∨ ∀ a ∈ rest, r.AcceptsAlias key a :=
      h.imp_right fun h a ha => h a (List.mem_cons_of_mem _ ha)
    rw [addAliases, aliasEntries_cons]
    by_cases hown : lower first = key
    · rw [if_pos hown, if_pos hown, ih hrest]
    · rw [if_neg hown, if_neg hown]
      cases replace with
      | true => exact ih (Or.inl rfl)
      | false =>
        have hall := h.resolve_left (by simp)
        have hfirst : r.aliasFault? key first = none :=
          (hall first (List.mem_cons_self ..)).resolve_left hown
        simp only [Bool.false_eq_true, if_false, hfirst]
        refine ih (Or.inr fun a ha => ?_)
        rw [AcceptsAlias, aliasFault?_insert hfirst]
        exact hall a (List.mem_cons_of_mem _ ha)

/-- Aliases of a layer that were free, or its own before, are struck with it. -/
theorem filter_insertAll_aliasEntries (h : ∀ a ∈ aliases, r.AcceptsAlias key a) :
    (OrderedMap.insertAll r.aliases (aliasEntries key aliases)).filter (·.2 != key) =
      r.aliases.filter (·.2 != key) := by
  have hinsert {m : List (String × String)} {k : String}
      (hk : ∀ target, OrderedMap.get? k m = some target → target = key) :
      (OrderedMap.insert k key m).filter (·.2 != key) = m.filter (·.2 != key) := by
    induction m with
    | nil => simp [OrderedMap.insert]
    | cons e m ih =>
      rw [OrderedMap.get?] at hk
      rw [OrderedMap.insert]
      split
      · next hsame => simp [hk e.2 (if_pos hsame)]
      · next hne =>
        rw [if_neg hne] at hk
        rw [List.filter_cons, List.filter_cons, ih hk]
  induction aliases generalizing r with
  | nil => rfl
  | cons first rest ih =>
    obtain ⟨hfirst, hrest⟩ := List.forall_mem_cons.1 h
    rw [aliasEntries_cons]
    by_cases hown : lower first = key
    · rw [if_pos hown, ih hrest]
    · have hnone := hfirst.resolve_left hown
      have hrest' : ∀ a ∈ rest, AcceptsAlias
          { r with aliases := OrderedMap.insert (lower first) key r.aliases } key a := fun a ha => by
        rw [AcceptsAlias, aliasFault?_insert hnone]
        exact hrest a ha
      rw [if_neg hown, OrderedMap.insertAll, List.foldl_cons]
      exact (ih hrest').trans (hinsert (aliasFault?_eq_none_iff.1 hnone).2)

end Aliases

section Register

variable {r : Roster} {name : String} {key : String} {aliases : List String}

theorem AcceptsAlias.addLayer {a : String} (h : r.AcceptsAlias key a) (layer : Layer)
    (order : List String) :
    AcceptsAlias { r with layers := OrderedMap.insert key layer r.layers, order } key a := by
  by_cases hown : lower a = key
  · exact Or.inl hown
  · exact Or.inr ((aliasFault?_addLayer hown layer order).trans (h.resolve_left hown))

theorem IsCoherent.addLayer_eq (h : r.IsCoherent) (hnew : key ∉ r.names) (layer : Layer) :
    ({ r with
      layers := OrderedMap.insert key layer r.layers
      order := if r.order.contains key then r.order else r.order ++ [key] } : Roster) =
      { r with layers := r.layers ++ [(key, layer)], order := r.order ++ [key] } := by
  have hlayers : key ∉ OrderedMap.keys r.layers := fun hmem => hnew ((h.listed key).2 hmem)
  have horder : r.order.contains key = false := by
    rw [Bool.eq_false_iff, ne_eq, List.contains_iff_mem]
    exact hnew
  rw [OrderedMap.insert_of_not_mem hlayers, horder]
  rfl

theorem register_new (hnew : OrderedMap.contains (lower name) r.layers = false) (layer : Layer)
    (aliases : List String) (replace : Bool) :
    r.register name layer aliases replace = addAliases replace (lower name) { r with
      layers := OrderedMap.insert (lower name) layer r.layers
      order := if r.order.contains (lower name) then r.order else r.order ++ [lower name] }
      aliases := by
  simp [register, hnew]

theorem IsCoherent.contains_eq_false (h : r.IsCoherent) (hnew : key ∉ r.names) :
    OrderedMap.contains key r.layers = false := by
  rw [Bool.eq_false_iff, ne_eq, OrderedMap.contains_iff_mem_keys]
  exact fun hmem => hnew ((h.listed key).2 hmem)

/-- A new layer with aliases that nothing speaks against is entered with all of them. -/
theorem IsCoherent.register_accepted (h : r.IsCoherent) (hnew : lower name ∉ r.names)
    (layer : Layer) (haliases : ∀ a ∈ aliases, r.AcceptsAlias (lower name) a) :
    r.register name layer aliases = (r.enter (lower name) layer aliases, none) := by
  rw [register_new (h.contains_eq_false hnew),
    addAliases_accepted (Or.inr fun a ha => (haliases a ha).addLayer layer _), h.addLayer_eq hnew]
  rfl

theorem contains_enter (r : Roster) (key : String) (layer : Layer) (aliases : List String) :
    OrderedMap.contains key (r.enter key layer aliases).layers = true := by
  rw [OrderedMap.contains_iff_mem_keys]
  simp [enter, OrderedMap.keys]

theorem register_enter (r : Roster) (name : String) (layer layer' : Layer)
    (aliases again : List String) :
    (r.enter (lower name) layer aliases).register name layer' again =
      (r.enter (lower name) layer aliases, none) := by
  simp [register, contains_enter]

/-- A layer takes the place of one that has been entered, whose aliases it keeps. -/
theorem IsCoherent.replace_enter (h : r.IsCoherent) (hnew : lower name ∉ r.names)
    (layer layer' : Layer) (aliases again : List String) :
    (r.enter (lower name) layer aliases).register name layer' again true =
      (r.enter (lower name) layer' (aliases ++ again), none) := by
  have hfree : lower name ∉ OrderedMap.keys r.layers := fun hmem => hnew ((h.listed _).2 hmem)
  have hlayers : OrderedMap.insert (lower name) layer' (r.enter (lower name) layer aliases).layers =
      r.layers ++ [(lower name, layer')] := by
    rw [enter, ← OrderedMap.insert_of_not_mem hfree layer, OrderedMap.insert_insert,
      OrderedMap.insert_of_not_mem hfree]
  have horder : (r.enter (lower name) layer aliases).order.contains (lower name) = true := by
    simp [enter]
  rw [Roster.register, Bool.not_true, Bool.and_false, if_neg Bool.false_ne_true,
    addAliases_accepted (Or.inl rfl), hlayers, if_pos horder]
  simp only [enter, insertAll_aliasEntries_append]

/-- Striking a layer takes back that it was entered. -/
theorem IsCoherent.unregister_enter (h : r.IsCoherent) (hnew : lower name ∉ r.names)
    (layer : Layer) (haliases : ∀ a ∈ aliases, r.AcceptsAlias (lower name) a) :
    (r.enter (lower name) layer aliases).unregister name = r := by
  have hfree : lower name ∉ OrderedMap.keys r.layers := fun hmem => hnew ((h.listed _).2 hmem)
  have hlayers : OrderedMap.erase (lower name) (r.layers ++ [(lower name, layer)]) = r.layers := by
    rw [OrderedMap.erase_append, OrderedMap.erase_of_not_mem hfree]
    simp [OrderedMap.erase]
  have hothers : r.aliases.filter (·.2 != lower name) = r.aliases := by
    rw [List.filter_eq_self]
    rintro ⟨other, target⟩ hmem
    rw [bne_iff_ne]
    rintro rfl
    exact hfree (h.led other _ hmem)
  have horder : (r.order ++ [lower name]).erase (lower name) = r.order := by
    rw [List.erase_append_right _ (show lower name ∉ r.order from hnew), List.erase_cons_head,
      List.append_nil]
  have haliases' := (filter_insertAll_aliasEntries haliases).trans hothers
  calc (r.enter (lower name) layer aliases).unregister name
    _ = ⟨r.layers, r.aliases, r.order⟩ := Roster.mk.injEq .. |>.mpr ⟨hlayers, haliases', horder⟩
    _ = r := rfl

end Register

/-- A refused registration leaves the roster as it was if its generator is none. Otherwise it was
refused an alias: then the layer has been entered with the aliases in front of that one, and stays.
What would have entered it with other aliases now changes nothing; a replacement gives it those
besides the ones that it has; striking it takes everything back. -/
theorem registerGenerator_refused (ss : List RosterStep) {name generator : String}
    {aliases : List String} {replace : Bool} {r' : Roster} {fault : RosterFault}
    (h : (empty.steps ss).registerGenerator name generator aliases replace = (r', some fault)) :
    (Layer.ofGenerator? generator = none ∧ fault = .notGenerator ∧ r' = empty.steps ss) ∨
    ∃ layer before other after, Layer.ofGenerator? generator = some layer ∧ replace = false ∧
      lower name ∉ (empty.steps ss).names ∧ aliases = before ++ other :: after ∧
      (∀ a ∈ before, (empty.steps ss).AcceptsAlias (lower name) a) ∧ lower other ≠ lower name ∧
      (empty.steps ss).aliasFault? (lower name) other = some fault ∧
      r' = (empty.steps ss).enter (lower name) layer before ∧ r' ≠ empty.steps ss ∧
      (∀ layer' again, (∀ a ∈ again, (empty.steps ss).AcceptsAlias (lower name) a) →
        (empty.steps ss).register name layer' again =
          ((empty.steps ss).enter (lower name) layer' again, none)) ∧
      (∀ layer' again, r'.register name layer' again = (r', none)) ∧
      (∀ layer' again, r'.register name layer' again true =
        ((empty.steps ss).enter (lower name) layer' (before ++ again), none)) ∧
      r'.unregister name = empty.steps ss := by
  have hcoherent := isCoherent_empty.steps ss
  generalize empty.steps ss = r at *
  rw [registerGenerator] at h
  split at h
  · next layer hlayer =>
    right
    rw [register] at h
    split at h
    · cases h
    · next hpresent =>
      obtain ⟨rfl, before, other, after, rfl, hbefore, hother, hfault, rfl⟩ := addAliases_refused h
      have hnew : lower name ∉ r.names := by
        intro hmem
        apply hpresent
        simp [OrderedMap.contains_iff_mem_keys, (hcoherent.listed _).1 hmem]
      have haccepted : ∀ a ∈ before, r.AcceptsAlias (lower name) a := fun a ha => by
        by_cases hown : lower a = lower name
        · exact Or.inl hown
        · exact Or.inr ((aliasFault?_addLayer hown layer _).symm.trans
            ((hbefore a ha).resolve_left hown))
      rw [aliasFault?_addLayer hother] at hfault
      rw [hcoherent.addLayer_eq hnew]
      refine ⟨layer, before, other, after, hlayer, rfl, hnew, rfl, haccepted, hother, hfault, rfl,
        ?_, ?_, ?_, ?_, ?_⟩
      · intro hsame
        have hlength := congrArg (fun r : Roster => r.order.length) hsame
        simp at hlength
      · exact fun layer' again hagain => hcoherent.register_accepted hnew layer' hagain
      · exact fun layer' again => register_enter r name layer layer' before again
      · exact fun layer' again => hcoherent.replace_enter hnew layer layer' before again
      · exact hcoherent.unregister_enter hnew layer haccepted
  · next hnone =>
    cases h
    exact Or.inl ⟨hnone, rfl, rfl⟩

/-- The second layer is refused the alias of the first and is there with the one before it. -/
theorem registerGenerator_refused_entity :
    let domain := RosterStep.register "domain" "DomainGenerator" ["entity"] false
    let left : Roster :=
      { layers := [("domain", .domain), ("dto", .dto)]
        aliases := [("entity", "domain"), ("dtos", "dto")], order := ["domain", "dto"] }
    (empty.steps [domain]).registerGenerator "dto" "DTOGenerator" ["dtos", "Entity"] =
      (left, some (.takenAlias "Entity" "domain")) ∧
    left ≠ empty.steps [domain] ∧ left.register "dto" .dto ["usecase"] = (left, none) ∧
    left.unregister "dto" = empty.steps [domain] := by
  intro domain left
  have hrefused : (empty.steps [domain]).registerGenerator "dto" "DTOGenerator" ["dtos", "Entity"] =
      (left, some (.takenAlias "Entity" "domain")) := by
    decide +kernel
  obtain ⟨-, hfault, -⟩ | ⟨_, _, _, _, -, -, -, -, -, -, -, -, hne, -, hagain, -, hstruck⟩ :=
    registerGenerator_refused [domain] hrefused
  · cases hfault
  · exact ⟨hrefused, hne, hagain .dto ["usecase"], hstruck⟩

end Roster

end GoScaffold
