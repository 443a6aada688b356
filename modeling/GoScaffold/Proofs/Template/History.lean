import GoScaffold.Proofs.Template.Press
import GoScaffold.Proofs.Template.Shared
import GoScaffold.Proofs.Template.Site
import GoScaffold.Proofs.Workspace.Frame

/-!
# Presses while templates are edited

Between two renders, files may come, change and go. A press goes on with the site where it has read a
template while what stands there is as it was, and only then asks for the first site again. So every
render gives the current text of a site that has been the first one, and of the one that is first now
unless a file has come in front of it: a built-in text that the press keeps is never given up.
-/
namespace GoScaffold.Template

open GoScaffold.Text

namespace Site

/-- What stands at the site is what stood there. -/
def IsUnchanged (t t' : Tree) : Site → Prop
  | .file path => t'.find path = t.find path
  | .builtin _ => True

variable {t t' : Tree} {site : Site}

theorem IsUnchanged.textIn_eq (h : site.IsUnchanged t t') : site.textIn t' = site.textIn t := by
  cases site with
  | file path => simp only [Site.textIn, Tree.readText, Tree.readBytes, show t'.find path = _ from h]
  | builtin text => rfl

theorem IsUnchanged.trans {t'' : Tree} (h : site.IsUnchanged t t') (h' : site.IsUnchanged t' t'') :
    site.IsUnchanged t t'' := by
  cases site with
  | file path => exact Eq.trans h' h
  | builtin text => exact trivial

end Site

namespace Press

/-- The site of the template that the press has and goes on using. -/
def held? (p : Press) (t : Tree) (name : String) : Option Site :=
  (p.current? t name).bind fun l =>
    match l.source with
    | some (path, _) => some (.file path)
    | none => (OrderedMap.get? name p.shelf.builtins).map .builtin

/-- What became of a new press on a shelf with each tree that it has been used with, the latest
first. Listing templates and asking for their origin leave a press as it is. -/
inductive History (s : Shelf) : Press → List Tree → Prop
  | new (t : Tree) (h : t.IsStamped) : History s { shelf := s } [t]
  | edit {p : Press} {t : Tree} {ts : List Tree} (h : History s p (t :: ts)) (t' : Tree)
      (he : t.IsEditedTo t') : History s p (t' :: t :: ts)
  | render {p : Press} {t : Tree} {ts : List Tree} (h : History s p (t :: ts)) (name : String)
      (scope : Scope) : History s (p.render t name scope).1 (t :: ts)
  | ask {p : Press} {t : Tree} {ts : List Tree} (h : History s p (t :: ts)) (name : String) :
      History s (p.holds t name).1 (t :: ts)

section Fetch

variable {p : Press} {t : Tree} {name : String} {l : Loaded}

/-- What is rendered of a template that was asked for. -/
def rendered (name : String) (scope : Scope) : Except LoadFault Nodes → Except TemplateFault String
  | .error .absent => .error (.absent name)
  | .error (.malformed f) => .error (.malformed name f)
  | .error (.failed f) => .error (.failed name f)
  | .error (.unreadable f) => .error (.unreadable name f)
  | .ok nodes => (nodes.textFor scope).mapError (.failed name)

theorem render_eq (p : Press) (t : Tree) (name : String) (scope : Scope) :
    p.render t name scope = ((p.fetch t name).1, rendered name scope (p.fetch t name).2) := by
  unfold render
  obtain ⟨p', r⟩ := p.fetch t name
  cases r with
  | error f => cases f <;> rfl
  | ok nodes =>
    simp only [rendered]
    cases nodes.textFor scope <;> rfl

theorem holds_fst (p : Press) (t : Tree) (name : String) :
    (p.holds t name).1 = (p.fetch t name).1 := by
  unfold holds
  obtain ⟨p', r⟩ := p.fetch t name
  cases r with
  | error f => cases f <;> rfl
  | ok nodes => rfl

theorem fetch_of_current (h : p.current? t name = some l) :
    p.fetch t name = (p.touch name, .ok l.nodes) := by
  simp only [fetch, h]

/-- A template is read at its first site. -/
theorem load_eq (s : Shelf) (t : Tree) (name : String) :
    load s t name = match s.site? t name with
      | .error e => .error (.unreadable (.refused e))
      | .ok none => .error .absent
      | .ok (some site) =>
        match site.textIn t with
        | .error f => .error (.unreadable f)
        | .ok text => compiled (site.source t) name text := by
  rw [Shelf.site?_eq, load]
  cases s.custom t with
  | error e => rfl
  | ok custom =>
    cases hcustom : OrderedMap.get? name custom with
    | some path =>
      simp only [Except.map, hcustom, Option.map_some, Option.some_or, Site.textIn, loadFile]
      cases t.readText path <;> rfl
    | none =>
      cases hbuiltin : OrderedMap.get? name s.builtins with
      | none => simp [Except.map, hcustom]
      | some text => simp [Except.map, hcustom, Site.textIn, Site.source]

/-- A template that has to be read anew comes to what it is now. -/
theorem render_of_current_none (h : p.current? t name = none) (scope : Scope) :
    (p.render t name scope).2 = p.shelf.renderNow t name scope := by
  simp only [render_eq, fetch, h, load_eq, Shelf.renderNow]
  cases p.shelf.site? t name with
  | error e => rfl
  | ok found =>
    cases found with
    | none => rfl
    | some site =>
      simp only [Site.render]
      cases site.textIn t with
      | error f => rfl
      | ok text =>
        simp only [compiled]
        cases compile (some name) text with
        | error f => cases f <;> rfl
        | ok nodes => rfl

end Fetch

/-- The template was read in the tree, at the site that was the first one there. -/
structure IsReading (s : Shelf) (t : Tree) (name : String) (l : Loaded) (site : Site) (text : String) :
    Prop where
  first : s.site? t name = .ok (some site)
  reads : site.textIn t = .ok text
  nodes : compile (some name) text = .ok l.nodes
  source : l.source = site.source t

section Readings

variable {s : Shelf} {p : Press} {t t' : Tree} {ts : List Tree} {name text : String} {l : Loaded}
  {site : Site}

theorem exists_isReading (h : load s t name = .ok l) : ∃ site text, IsReading s t name l site text := by
  rw [load_eq] at h
  split at h
  · cases h
  · cases h
  · next site hsite =>
    split at h
    · cases h
    · next text htext =>
      rw [compiled] at h
      split at h
      · next nodes hnodes =>
        cases h
        exact ⟨site, text, hsite, htext, hnodes, rfl⟩
      · cases h
      · cases h

theorem find_of_textIn {path : Path} (h : (Site.file path).textIn t = .ok text) :
    ∃ bytes stamp, t.find path = .ok (.file bytes stamp) := by
  simp only [Site.textIn, Tree.readText, Tree.readBytes] at h
  split at h
  · cases h
  · next bytes hbytes =>
    split at hbytes
    · next bytes stamp hfind => exact ⟨bytes, stamp, hfind⟩
    · cases hbytes
    · cases hbytes

theorem IsReading.exists_stamp {path : Path} (h : IsReading s t name l (.file path) text) :
    ∃ bytes stamp, t.find path = .ok (.file bytes stamp) ∧ l.source = some (path, stamp) := by
  obtain ⟨bytes, stamp, hfind⟩ := find_of_textIn h.reads
  refine ⟨bytes, stamp, hfind, ?_⟩
  rw [h.source]
  simp only [Site.source, hfind]

/-- A reading is current as long as its site is unchanged. -/
theorem IsReading.isCurrent (h : IsReading s t name l site text) (hsame : site.IsUnchanged t t') :
    l.isCurrent t' = true := by
  cases site with
  | builtin text =>
    have hsource : l.source = none := h.source
    simp [Loaded.isCurrent, hsource]
  | file path =>
    obtain ⟨bytes, stamp, hfind, hsource⟩ := h.exists_stamp
    have hnow : t'.find path = .ok (.file bytes stamp) := Eq.trans hsame hfind
    simp [Loaded.isCurrent, hsource, hnow]

/-- What changes a site has its readings out of date. -/
theorem IsReading.isUnchanged (h : IsReading s t name l site text) (hedited : t.IsEditedTo t')
    (hstamped : t.IsStamped) (hcurrent : l.isCurrent t' = true) : site.IsUnchanged t t' := by
  cases site with
  | builtin text => exact trivial
  | file path =>
    obtain ⟨bytes, stamp, hfind, hsource⟩ := h.exists_stamp
    simp only [Loaded.isCurrent, hsource] at hcurrent
    split at hcurrent
    · next bytes' now hnow =>
      rw [beq_iff_eq] at hcurrent
      subst hcurrent
      show t'.find path = t.find path
      rw [hnow, hfind, hedited.bytes_eq hstamped hfind hnow]
    · cases hcurrent

theorem IsReading.held (h : IsReading s t name l site text) (hcurrent : p.current? t' name = some l)
    (hshelf : p.shelf = s) : p.held? t' name = some site := by
  rw [held?, hcurrent, Option.bind_some, h.source]
  cases site with
  | file path => rfl
  | builtin text =>
    have hfirst := h.first
    rw [Shelf.site?_eq] at hfirst
    cases hcustom : s.custom t with
    | error e =>
      rw [hcustom] at hfirst
      cases hfirst
    | ok custom =>
      rw [hcustom] at hfirst
      cases hfile : OrderedMap.get? name custom with
      | some path => simp [Except.map, hfile] at hfirst
      | none =>
        simp only [Except.map, hfile, Option.map_none, Option.none_or, Except.ok.injEq] at hfirst
        rw [hshelf]
        exact hfirst

/-- All that a press has was read in one of the trees, at the first site there. -/
structure IsSound (s : Shelf) (p : Press) (t : Tree) (ts : List Tree) : Prop where
  shelf : p.shelf = s
  stamped : ∀ t₀ ∈ t :: ts, t₀.IsStamped
  edited : ∀ t₀ ∈ t :: ts, t₀.IsEditedTo t
  read : ∀ name l, OrderedMap.get? name p.loaded = some l →
    ∃ t₀ ∈ t :: ts, ∃ site text, IsReading s t₀ name l site text

theorem IsSound.edit (h : IsSound s p t ts) (he : t.IsEditedTo t') : IsSound s p t' (t :: ts) := by
  refine ⟨h.shelf, ?_, ?_, ?_⟩
  · intro t₀ ht₀
    rcases List.mem_cons.1 ht₀ with rfl | ht₀
    · exact he.isStamped (h.stamped t (List.mem_cons_self ..))
    · exact h.stamped t₀ ht₀
  · intro t₀ ht₀
    rcases List.mem_cons.1 ht₀ with rfl | ht₀
    · exact .refl t₀
    · exact (h.edited t₀ ht₀).trans he
  · intro name l hl
    obtain ⟨t₀, ht₀, hreading⟩ := h.read name l hl
    exact ⟨t₀, List.mem_cons_of_mem _ ht₀, hreading⟩

theorem IsSound.fetch (h : IsSound s p t ts) (name : String) :
    IsSound s (p.fetch t name).1 t ts := by
  have htouch : IsSound s (p.touch name) t ts :=
    ⟨by rw [shelf_touch, h.shelf], h.stamped, h.edited, fun k l hl => h.read k l (loaded_touch hl)⟩
  rw [Press.fetch]
  split
  · exact htouch
  · split
    · exact htouch
    · next l hload =>
      refine ⟨h.shelf, h.stamped, h.edited, ?_⟩
      intro k l' hl'
      rcases loaded_keep hl' with ⟨rfl, rfl⟩ | hl'
      · rw [h.shelf] at hload
        obtain ⟨site, text, hreading⟩ := exists_isReading hload
        exact ⟨t, List.mem_cons_self .., site, text, hreading⟩
      · exact h.read k l' hl'

theorem History.isSound (h : History s p (t :: ts)) : IsSound s p t ts := by
  generalize htrees : t :: ts = trees at h
  induction h generalizing t ts with
  | new t₁ hstamped =>
    cases htrees
    refine ⟨rfl, ?_, ?_, ?_⟩
    · intro t₀ ht₀
      rw [List.mem_singleton.1 ht₀]
      exact hstamped
    · intro t₀ ht₀
      rw [List.mem_singleton.1 ht₀]
      exact .refl _
    · intro name l hl
      cases hl
  | edit h t' he ih =>
    cases htrees
    exact (ih rfl).edit he
  | render h name scope ih =>
    cases htrees
    rw [render_eq]
    exact (ih rfl).fetch name
  | ask h name ih =>
    cases htrees
    rw [holds_fst]
    exact (ih rfl).fetch name

/-- The template that a press goes on using was read where it still stands. -/
theorem IsSound.exists_of_current (h : IsSound s p t ts) (hl : p.current? t name = some l) :
    ∃ t₀ ∈ t :: ts, ∃ site text, IsReading s t₀ name l site text ∧ site.IsUnchanged t₀ t ∧
      p.held? t name = some site := by
  have hloaded : OrderedMap.get? name p.loaded = some l ∧ l.isCurrent t = true := by
    unfold current? at hl
    split at hl
    · next l' hl' =>
      split at hl
      · next hcurrent =>
        cases hl
        exact ⟨hl', hcurrent⟩
      · cases hl
    · cases hl
  obtain ⟨t₀, ht₀, site, text, hreading⟩ := h.read name l hloaded.1
  have hsame := hreading.isUnchanged (h.edited t₀ ht₀) (h.stamped t₀ ht₀) hloaded.2
  exact ⟨t₀, ht₀, site, text, hreading, hsame, hreading.held hl h.shelf⟩

/-- A reading whose site is unchanged gives what stands there now. -/
theorem IsReading.render (h : IsReading s t name l site text) (hsame : site.IsUnchanged t t')
    (hl : p.current? t' name = some l) (scope : Scope) :
    (p.render t' name scope).2 = site.render t' name scope := by
  rw [render_eq, fetch_of_current hl, Site.render, hsame.textIn_eq, h.reads]
  simp only [rendered, h.nodes]

theorem get?_of_current (h : p.current? t name = some l) :
    OrderedMap.get? name (p.touch name).loaded = some l := by
  have hl : OrderedMap.get? name p.loaded = some l := by
    unfold current? at h
    split at h
    · next l' hl' =>
      split at h
      · rw [hl', h]
      · cases h
    · cases h
  rw [touch, hl]
  exact get?_keep

/-- After a render that came to a text, the press has what it was rendered from. -/
theorem IsSound.held_of_render (h : IsSound s p t ts) {scope : Scope} {result : String}
    (hresult : (p.render t name scope).2 = .ok result) :
    ∃ site, site.render t name scope = .ok result ∧
      ∀ t', site.IsUnchanged t t' → (p.render t name scope).1.held? t' name = some site := by
  have hshelf : (p.render t name scope).1.shelf = s := by
    rw [render_eq]
    exact (h.fetch name).shelf
  cases hl : p.current? t name with
  | some l =>
    obtain ⟨t₀, ht₀, site, text, hreading, hsame, -⟩ := h.exists_of_current hl
    refine ⟨site, by rw [← hreading.render hsame hl, hresult], ?_⟩
    intro t' hsame'
    have hkept : (p.render t name scope).1 = p.touch name := by rw [render_eq, fetch_of_current hl]
    have hcurrent := hreading.isCurrent (hsame.trans hsame')
    refine hreading.held ?_ hshelf
    rw [hkept, current?, get?_of_current hl]
    simp only [hcurrent, if_true]
  | none =>
    cases hload : load p.shelf t name with
    | error f =>
      have hfetch : p.fetch t name = (p.touch name, .error f) := by simp only [Press.fetch, hl, hload]
      rw [render_eq, hfetch] at hresult
      cases f <;> cases hresult
    | ok l =>
      have hfetch : p.fetch t name = (p.keep name l, .ok l.nodes) := by
        simp only [Press.fetch, hl, hload]
      rw [h.shelf] at hload
      obtain ⟨site, text, hreading⟩ := exists_isReading hload
      have hkept : (p.render t name scope).1 = p.keep name l := by rw [render_eq, hfetch]
      refine ⟨site, ?_, ?_⟩
      · rw [← hresult, render_eq, hfetch, Site.render, hreading.reads]
        simp only [rendered, hreading.nodes]
      · intro t' hsame
        refine hreading.held ?_ hshelf
        rw [hkept, current?, get?_keep]
        simp only [hreading.isCurrent hsame, if_true]

end Readings

def lateShelf : Shelf where
  directory := some { segments := ["tpl"] }
  builtins := [("a", "built-in")]

def templatePath : Path := { segments := ["tpl", "a.go.tmpl"] }

def templateTree (text : String) (time : Nat) : Tree where
  entries := [(["tpl"], .directory), (["tpl", "a.go.tmpl"], .file text.toUTF8 time)]
  clock := time

/-- A press that has rendered the built-in text. -/
def latePress : Press where
  shelf := lateShelf
  loaded := [("a", { source := none, nodes := .ofList [.text "built-in"] })]

theorem writeText_empty (text : String) :
    ({} : Tree).writeText templatePath text = (templateTree text 1, none) := by
  have hmade : ({} : Tree).makeDirectories "" ["tpl"] =
      ({ entries := [(["tpl"], .directory)] }, none) := rfl
  exact Tree.writeText_of_steps (by decide) (hasZero_eq_false (by decide))
    (hasZero_eq_false (by decide)) hmade rfl rfl

theorem find_templateTree (text : String) (time : Nat) :
    (templateTree text time).find { segments := ["tpl"] } = .ok .directory := rfl

theorem hasZero_templates : Path.hasZero { segments := ["tpl"] } = false :=
  hasZero_eq_false (by decide)

theorem writeText_templateTree (text text' : String) (time : Nat) :
    (templateTree text time).writeText templatePath text' =
      (templateTree text' (time + 1), none) := by
  have hmade : (templateTree text time).makeDirectories "" ["tpl"] =
      (templateTree text time, none) := by
    simp [Tree.makeDirectories, Tree.ensureDirectory_of_find hasZero_templates (find_templateTree ..)]
  exact Tree.writeText_of_steps (by decide) (hasZero_eq_false (by decide))
    (hasZero_eq_false (by decide)) hmade rfl rfl

theorem site?_templateTree (text : String) (time : Nat) :
    lateShelf.site? (templateTree text time) "a" = .ok (some (.file templatePath)) := by
  have hfiles : (templateTree text time).filesBelow ["tpl"] = [["a.go.tmpl"]] :=
    List.mergeSort_singleton _
  have hlocate : (templateTree text time).locate { segments := ["tpl"] } = .ok ["tpl"] := rfl
  have hpresent : (templateTree text time).isDirectory { segments := ["tpl"] } = .ok true := by
    simp [Tree.isDirectory, Tree.probe, hasZero_templates, find_templateTree, Except.map]
  have hname : logicalName? "a.go.tmpl" = some "a" := by decide +kernel
  simp [Shelf.site?, lateShelf, hpresent, Except.map, Shelf.firstFile?, hlocate, hfiles, join, hname,
    templatePath]

theorem site?_empty : lateShelf.site? {} "a" = .ok (some (.builtin "built-in")) := by
  have hmissing : ({} : Tree).isDirectory { segments := ["tpl"] } = .ok false := by
    have habsent : ({} : Tree).find { segments := ["tpl"] } = .error .absent := rfl
    simp [Tree.isDirectory, Tree.probe, hasZero_templates, habsent, Except.map]
  simp [Shelf.site?, lateShelf, hmissing, Except.map, OrderedMap.get?]

theorem isStamped_empty : Tree.IsStamped {} := by
  intro l bytes stamp he
  rw [Tree.entry?] at he
  split at he <;> cases he

theorem history_latePress : History lateShelf latePress [templateTree "custom" 1, {}] := by
  have hnodes : compile (some "a") "built-in" = .ok (.ofList [.text "built-in"]) :=
    eq_ok_of_toOption (by decide +kernel)
  have hpress : (({ shelf := lateShelf } : Press).render {} "a" []).1 = latePress := by
    have hnone : ({ shelf := lateShelf } : Press).current? {} "a" = none := rfl
    simp only [render_eq, fetch, hnone, load_eq, site?_empty, Site.textIn, compiled, hnodes]
    rfl
  rw [← hpress]
  have hedit := Tree.isEditedTo_writeText {} templatePath "custom"
  rw [writeText_empty] at hedit
  exact .edit (.render (.new {} isStamped_empty) "a" []) _ hedit

/-- A press that has rendered a template of the directory. -/
def earlyPress : Press :=
  (({ shelf := lateShelf } : Press).render (templateTree "custom" 1) "a" []).1

theorem history_earlyPress :
    History lateShelf earlyPress [templateTree "other" 2, templateTree "custom" 1] := by
  have hmade := Tree.isEditedTo_writeText {} templatePath "custom"
  have hedit := Tree.isEditedTo_writeText (templateTree "custom" 1) templatePath "other"
  rw [writeText_empty] at hmade
  rw [writeText_templateTree] at hedit
  exact .edit (.render (.new _ (hmade.isStamped isStamped_empty)) "a" []) _ hedit

end Press

end GoScaffold.Template
