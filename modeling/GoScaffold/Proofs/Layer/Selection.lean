import GoScaffold.Proofs.Layer.Shadowed
import GoScaffold.Proofs.Sequence

/-!
# Selections of layers

Which layers a list of names selects depends only on the layers that the names stand for. So the
order and the number of the names, the case of their letters and the choice between a name and its
aliases make no difference. A list with an unknown name selects nothing.
-/
namespace GoScaffold

open GoScaffold.Text

namespace Roster

section Names

variable {r : Roster} {name key : String}

/-- The primary name that a name stands for, if it is supported. -/
def standsFor? (r : Roster) (name : String) : Option String := (r.resolve name).toOption

theorem standsFor?_eq_some_iff : r.standsFor? name = some key ↔ r.resolve name = .ok key := by
  cases h : r.resolve name <;> simp [standsFor?, h, Except.toOption]

theorem standsFor?_congr {name' : String} (h : name.toLower = name'.toLower) :
    r.standsFor? name = r.standsFor? name' := by
  have hlower := lower_congr h
  rw [standsFor?, standsFor?, resolve, resolve, hlower]
  split
  · rfl
  · split <;> rfl

theorem IsCoherent.mem_names_of_resolve (h : r.IsCoherent) (hname : r.resolve name = .ok key) :
    key ∈ r.names := by
  by_cases hsupported : r.isSupported name = true
  · obtain ⟨key', hkey', hmem⟩ := h.resolve_ok hsupported
    rw [hname] at hkey'
    cases hkey'
    exact hmem
  · rw [resolve_error (by simpa using hsupported)] at hname
    cases hname

theorem IsCoherent.resolve_ok_iff (h : r.IsCoherent) :
    (∃ key, r.resolve name = .ok key) ↔ r.isSupported name = true := by
  constructor
  · rintro ⟨key, hkey⟩
    by_contra hsupported
    rw [resolve_error (by simpa using hsupported)] at hkey
    cases hkey
  · intro hsupported
    obtain ⟨key, hkey, -⟩ := h.resolve_ok hsupported
    exact ⟨key, hkey⟩

theorem IsCoherent.resolve_error_iff (h : r.IsCoherent) {fault : RosterFault} :
    r.resolve name = .error fault ↔ r.isSupported name = false ∧ fault = .unknown name r.names := by
  constructor
  · intro hresolve
    have hsupported : r.isSupported name = false := by
      rw [Bool.eq_false_iff]
      intro hsupported
      obtain ⟨key, hkey, -⟩ := h.resolve_ok hsupported
      rw [hresolve] at hkey
      cases hkey
    rw [resolve_error hsupported] at hresolve
    exact ⟨hsupported, (Except.error.inj hresolve).symm⟩
  · rintro ⟨hsupported, rfl⟩
    exact resolve_error hsupported

/-- A primary name in the order of generation stands for itself. -/
theorem IsTidy.layer_of_mem (h : r.IsTidy) (hcoherent : r.IsCoherent) (hkey : key ∈ r.names) :
    ∃ layer, OrderedMap.get? key r.layers = some layer ∧ r.layer key = .ok layer := by
  have hmem := (hcoherent.listed key).1 hkey
  obtain ⟨layer, hget, hprimary⟩ := primary_of_mem hmem
  refine ⟨layer, hget, ?_⟩
  rw [Roster.layer, resolve, h.names key hmem, if_pos (OrderedMap.contains_iff_mem_keys.2 hmem)]
  exact hprimary

end Names

section Select

variable {r : Roster} {wanted wanted' keys : List String}

theorem mem_of_mapM_resolve (h : wanted.mapM r.resolve = .ok keys) {key : String} :
    key ∈ keys ↔ some key ∈ wanted.map r.standsFor? := by
  have hall := forall₂_of_mapM h
  clear h
  induction hall with
  | nil => simp
  | cons hname _ ih => simp [ih, standsFor?_eq_some_iff.2 hname]

/-- Names that are resolved select the layers that they stand for. -/
theorem IsTidy.select_of_mapM (h : r.IsTidy) (hcoherent : r.IsCoherent) (hwanted : wanted ≠ [])
    (hkeys : wanted.mapM r.resolve = .ok keys) :
    ∃ layers, r.select wanted = .ok layers ∧ (r.names.filter keys.contains).mapM r.layer = .ok layers := by
  obtain ⟨layers, hlayers⟩ : ∃ layers, (r.names.filter keys.contains).mapM r.layer = .ok layers :=
    exists_mapM fun key hkey => (h.layer_of_mem hcoherent (List.mem_filter.1 hkey).1).imp fun _ => And.right
  refine ⟨layers, ?_, hlayers⟩
  rw [Roster.names] at hlayers
  rw [select, hkeys]
  simpa [hwanted, bind, Except.bind] using hlayers

theorem IsTidy.select_error_iff (h : r.IsTidy) (hcoherent : r.IsCoherent) (hwanted : wanted ≠ [])
    {fault : RosterFault} : r.select wanted = .error fault ↔
      ∃ before name after, wanted = before ++ name :: after ∧
        (∀ earlier ∈ before, r.isSupported earlier = true) ∧ r.isSupported name = false ∧
        fault = .unknown name r.names := by
  have hresolve : r.select wanted = .error fault ↔ wanted.mapM r.resolve = .error fault := by
    cases hkeys : wanted.mapM r.resolve with
    | error fault' => simp [select, hkeys, bind, Except.bind]
    | ok keys =>
      obtain ⟨layers, hselect, -⟩ := h.select_of_mapM hcoherent hwanted hkeys
      simp [hselect]
  rw [hresolve, mapM_eq_error_iff]
  simp only [hcoherent.resolve_ok_iff, hcoherent.resolve_error_iff]

/-- Names that stand for the same layers select the same ones. -/
theorem IsTidy.select_congr (h : r.IsTidy) (hcoherent : r.IsCoherent) (hwanted : wanted ≠ [])
    (hsame : ∀ o, o ∈ wanted.map r.standsFor? ↔ o ∈ wanted'.map r.standsFor?) {layers : List Layer}
    (hselect : r.select wanted = .ok layers) : r.select wanted' = .ok layers := by
  have hwanted' : wanted' ≠ [] := by
    rintro rfl
    obtain ⟨name, hname⟩ := List.exists_mem_of_ne_nil wanted hwanted
    exact absurd ((hsame _).1 (List.mem_map_of_mem hname)) (by simp)
  cases hkeys : wanted.mapM r.resolve with
  | error fault => simp [select, hkeys, bind, Except.bind] at hselect
  | ok keys =>
    obtain ⟨keys', hkeys'⟩ : ∃ keys', wanted'.mapM r.resolve = .ok keys' := by
      refine exists_mapM fun name' hname' => ?_
      -- a name that is resolved stands for what some name of the other list does
      obtain ⟨name, hname, heq⟩ := List.mem_map.1 ((hsame _).2 (List.mem_map_of_mem hname'))
      obtain ⟨key, -, hkey⟩ := exists_of_forall₂ (forall₂_of_mapM hkeys).flip hname
      exact ⟨key, standsFor?_eq_some_iff.1 (heq ▸ standsFor?_eq_some_iff.2 hkey)⟩
    have hchosen : r.names.filter keys'.contains = r.names.filter keys.contains := by
      refine List.filter_congr fun key _ => ?_
      rw [Bool.eq_iff_iff, List.contains_iff_mem, List.contains_iff_mem, mem_of_mapM_resolve hkeys,
        mem_of_mapM_resolve hkeys', hsame]
    obtain ⟨layers₁, hselect₁, hlayers₁⟩ := h.select_of_mapM hcoherent hwanted hkeys
    obtain ⟨layers₂, hselect₂, hlayers₂⟩ := h.select_of_mapM hcoherent hwanted' hkeys'
    rw [hchosen, hlayers₁] at hlayers₂
    rw [hselect₂, ← hselect, hselect₁]
    exact hlayers₂.symm

end Select

/-- Lists of names that differ in order, repetitions, the case of ASCII letters and the choice of
names for a layer. -/
inductive Respelled (r : Roster) : List String → List String → Prop
  | perm {wanted wanted' : List String} (h : wanted.Perm wanted') : Respelled r wanted wanted'
  | again {name : String} {wanted : List String} (h : name ∈ wanted) :
      Respelled r wanted (name :: wanted)
  | letterCase {name name' : String} (h : name.toLower = name'.toLower) (rest : List String) :
      Respelled r (name :: rest) (name' :: rest)
  | synonym {name name' key : String} (h : r.resolve name = .ok key)
      (h' : r.resolve name' = .ok key) (rest : List String) :
      Respelled r (name :: rest) (name' :: rest)
  | symm {wanted wanted' : List String} (h : Respelled r wanted wanted') : Respelled r wanted' wanted
  | trans {wanted wanted' wanted'' : List String} (h : Respelled r wanted wanted')
      (h' : Respelled r wanted' wanted'') : Respelled r wanted wanted''

theorem Respelled.standsFor? {r : Roster} {wanted wanted' : List String}
    (h : Respelled r wanted wanted') (o : Option String) :
    o ∈ wanted.map r.standsFor? ↔ o ∈ wanted'.map r.standsFor? := by
  induction h with
  | perm h => exact (h.map _).mem_iff
  | again h =>
    rw [List.map_cons, List.mem_cons]
    exact ⟨Or.inr, fun hmem => hmem.elim (fun heq => heq ▸ List.mem_map_of_mem h) id⟩
  | letterCase h rest => rw [List.map_cons, List.map_cons, standsFor?_congr h]
  | synonym h h' rest =>
    rw [List.map_cons, List.map_cons, standsFor?_eq_some_iff.2 h, standsFor?_eq_some_iff.2 h']
  | symm _ ih => exact ih.symm
  | trans _ _ ih ih' => exact ih.trans ih'

theorem Respelled.ne_nil {r : Roster} {wanted wanted' : List String}
    (h : Respelled r wanted wanted') (hwanted : wanted ≠ []) : wanted' ≠ [] := by
  rintro rfl
  obtain ⟨name, hname⟩ := List.exists_mem_of_ne_nil wanted hwanted
  exact absurd ((h.standsFor? _).1 (List.mem_map_of_mem hname)) (by simp)

/-- Whatever has been registered and struck, a list of names selects nothing exactly if one of them
is not supported, the first such being blamed. Otherwise it selects each layer that one of the names
stands for, once and in the order of generation, and so does every other spelling of it. -/
theorem select_steps (ss : List RosterStep) {wanted : List String} (hwanted : wanted ≠ []) :
    (∀ fault, (empty.steps ss).select wanted = .error fault ↔
      ∃ before name after, wanted = before ++ name :: after ∧
        (∀ earlier ∈ before, (empty.steps ss).isSupported earlier = true) ∧
        (empty.steps ss).isSupported name = false ∧
        fault = .unknown name (empty.steps ss).names) ∧
    ((∀ name ∈ wanted, (empty.steps ss).isSupported name = true) → ∃ keys layers,
      (empty.steps ss).select wanted = .ok layers ∧
      keys.Sublist (empty.steps ss).names ∧ keys.Nodup ∧
      (∀ key, key ∈ keys ↔ ∃ name ∈ wanted, (empty.steps ss).resolve name = .ok key) ∧
      List.Forall₂ (fun key layer => OrderedMap.get? key (empty.steps ss).layers = some layer)
        keys layers) ∧
    ∀ wanted', Respelled (empty.steps ss) wanted wanted' → ∀ layers,
      (empty.steps ss).select wanted' = .ok layers ↔ (empty.steps ss).select wanted = .ok layers := by
  have hcoherent := isCoherent_empty.steps ss
  have htidy := isTidy_empty.steps ss
  generalize empty.steps ss = r at *
  refine ⟨fun fault => htidy.select_error_iff hcoherent hwanted, fun hsupported => ?_,
    fun wanted' hspelled layers => ⟨?_, ?_⟩⟩
  · obtain ⟨keys, hkeys⟩ := exists_mapM fun name hname =>
      hcoherent.resolve_ok_iff.2 (hsupported name hname)
    obtain ⟨layers, hselect, hlayers⟩ := htidy.select_of_mapM hcoherent hwanted hkeys
    refine ⟨r.names.filter keys.contains, layers, hselect, List.filter_sublist,
      hcoherent.once.sublist List.filter_sublist, fun key => ?_, ?_⟩
    · have hstands : key ∈ keys ↔ ∃ name ∈ wanted, r.resolve name = .ok key := by
        simp [mem_of_mapM_resolve hkeys, standsFor?_eq_some_iff]
      rw [List.mem_filter, List.contains_iff_mem, hstands, and_iff_right_of_imp]
      rintro ⟨name, -, hname⟩
      exact hcoherent.mem_names_of_resolve hname
    · have hnames : ∀ key ∈ r.names.filter keys.contains, key ∈ r.names := fun key hkey =>
        (List.mem_filter.1 hkey).1
      refine ((List.forall₂_and_left _ _).2 ⟨hnames, forall₂_of_mapM hlayers⟩).imp ?_
      rintro key layer ⟨hkey, hlayer⟩
      obtain ⟨layer', hget, hlayer'⟩ := htidy.layer_of_mem hcoherent hkey
      rw [hlayer] at hlayer'
      cases hlayer'
      exact hget
  · exact htidy.select_congr hcoherent (hspelled.ne_nil hwanted) hspelled.symm.standsFor?
  · exact htidy.select_congr hcoherent hwanted hspelled.standsFor?

/-- A layer that was replaced, one that came back behind it, and two spellings of both. -/
theorem select_steps_replaced :
    let r := empty.steps [.register "domain" "DomainGenerator" ["entity"] false,
      .register "dto" "DTOGenerator" ["usecase"] false, .unregister "Domain",
      .register "domain" "DomainGenerator" [] false,
      .register "DTO" "HandlerGenerator" ["entity"] true]
    r.select ["domain", "ENTITY", "usecase"] = .ok [.handler, .domain] ∧
      r.select ["Domain", "DTO"] = .ok [.handler, .domain] := by
  intro r
  have hselect : r.select ["domain", "ENTITY", "usecase"] = .ok [.handler, .domain] := by
    decide +kernel
  have hentity : r.resolve "ENTITY" = .ok "dto" := by decide +kernel
  have husecase : r.resolve "usecase" = .ok "dto" := by decide +kernel
  have hdto : r.resolve "DTO" = .ok "dto" := by decide +kernel
  have hspelled : Respelled r ["domain", "ENTITY", "usecase"] ["Domain", "DTO"] := by
    have hfirst : Respelled r ["domain", "ENTITY", "usecase"] ["ENTITY", "usecase", "domain"] :=
      .perm (List.perm_append_singleton "domain" ["ENTITY", "usecase"]).symm
    have honce : Respelled r ["ENTITY", "usecase", "domain"] ["usecase", "domain"] :=
      (Respelled.synonym hentity husecase _).trans (Respelled.again (by simp)).symm
    have hlast : Respelled r ["usecase", "domain"] ["Domain", "DTO"] :=
      (Respelled.synonym husecase hdto _).trans
        ((Respelled.perm (List.Perm.swap _ _ _)).trans (.letterCase (by decide +kernel) _))
    exact hfirst.trans (honce.trans hlast)
  exact ⟨hselect, ((select_steps _ (by simp)).2.2 _ hspelled _).2 hselect⟩

end Roster

end GoScaffold
