import GoScaffold.Entity.Scope

/-!
# What statements come to

One equation for each kind of statement: the text it adds in front of what follows it. A loop over a
list comes to the texts of its items, one after another. Statements that only print what is known to
have a text come to a text, whatever the texts are.
-/
namespace GoScaffold.Template

open GoScaffold.Text

/-- The outcome of the statements after a text. -/
def behind (s : String) (r : String × Scope) : String × Scope := (s ++ r.1, r.2)

section Statements

attribute [local simp] Nodes.render Node.render

theorem render_nil (scope : Scope) : Nodes.nil.render scope = .ok ("", scope) := rfl

theorem render_cons {scope : Scope} {node : Node} {s : String}
    (h : node.render scope = .ok (s, scope)) (rest : Nodes) :
    (Nodes.cons node rest).render scope = (rest.render scope).map (behind s) := by
  rw [Nodes.render, h]
  cases hr : rest.render scope with
  | error f => simp [bind, Except.bind, hr, Except.map]
  | ok r => simp [bind, Except.bind, hr, Except.map, pure, Except.pure, behind]

theorem render_text (scope : Scope) (s : String) (rest : Nodes) :
    (Nodes.cons (.text s) rest).render scope = (rest.render scope).map (behind s) :=
  render_cons rfl rest

theorem print_ok {scope : Scope} {e : Expr} {v : Value} {s : String} (he : e.eval scope = .ok v)
    (hs : v.text = .ok s) : (Node.print e).render scope = .ok (s, scope) := by
  rw [Node.render, he]
  simp [bind, Except.bind, hs, pure, Except.pure]

theorem branch_ok {scope : Scope} {e : Expr} {v : Value} {b : Bool} {s : String}
    {body otherwise : Nodes} (he : e.eval scope = .ok v) (hb : v.truth = .ok b)
    (hs : (if b then body else otherwise).render scope = .ok (s, scope)) :
    (Node.branch e body otherwise).render scope = .ok (s, scope) := by
  rw [Node.render, he]
  cases b <;> simpa [bind, Except.bind, hb] using hs

theorem when_ok {scope : Scope} {e : Expr} {v : Value} {b : Bool} {s : String} {body : Nodes}
    (he : e.eval scope = .ok v) (hb : v.truth = .ok b)
    (hs : b = true → body.render scope = .ok (s, scope)) :
    (Node.branch e body .nil).render scope = .ok (if b then s else "", scope) := by
  refine branch_ok he hb ?_
  cases b with
  | false => rfl
  | true => exact hs rfl

theorem renderEach_ok {α : Type} {body : Scope → Outcome String} {scope : Scope}
    {name key : String} {line : Nat} {items : List Value} {fault : Option RenderFault}
    {f : α → Value} {g : α → String} {xs : List α}
    (h : ∀ x ∈ xs, ∀ position,
      body ((key, f x) :: ("loop", .loop position items fault) :: scope) = .ok (g x))
    (position : Nat) :
    renderEach body scope (.name name key line) items fault position (xs.map f) =
      .ok (concat (xs.map g)) := by
  induction xs generalizing position with
  | nil => rfl
  | cons x xs ih =>
    have hx := h x (by simp) position
    have ih := ih (fun y hy => h y (by simp [hy])) (position + 1)
    simp only [List.map_cons, renderEach, Target.bindings, bind, Except.bind,
      List.singleton_append, hx, ih, pure, Except.pure]
    rfl

theorem loop_ok {α : Type} {scope : Scope} {e : Expr} {name key : String} {line : Nat}
    {body : Nodes} {f : α → Value} {g : α → String} {xs : List α}
    (he : e.eval scope = .ok (.list (xs.map f)))
    (hbody : ∀ x ∈ xs, ∀ position,
      body.render ((key, f x) :: ("loop", .loop position (xs.map f) none) :: scope) =
        .ok (g x, (key, f x) :: ("loop", .loop position (xs.map f) none) :: scope)) :
    (Node.loop (.name name key line) e none body .nil).render scope =
      .ok (concat (xs.map g), scope) := by
  have heach : renderEach body.text scope (.name name key line) (xs.map f) none 0 (xs.map f) =
      .ok (concat (xs.map g)) :=
    renderEach_ok (fun x hx position => by rw [Nodes.text, hbody x hx position]; rfl) 0
  rw [Node.render, he]
  change (renderEach body.text scope (.name name key line) (xs.map f) none 0 (xs.map f)).bind _ = _
  rw [heach]
  cases xs with
  | nil => rfl
  | cons x xs => rfl

theorem text_str (s : String) : Value.text (.str s) = .ok s := rfl

theorem bind_ok {α β : Type} (a : α) (f : α → Outcome β) : Except.bind (.ok a) f = f a := rfl

theorem map_ok {α β : Type} (a : α) (f : α → β) :
    Except.map f (.ok a : Outcome α) = .ok (f a) := rfl

theorem render_print (scope : Scope) (e : Expr) (rest : Nodes) :
    (Nodes.cons (.print e) rest).render scope =
      ((e.eval scope).bind Value.text).bind fun s => (rest.render scope).map (behind s) := by
  cases he : e.eval scope with
  | error f => simp [he, bind, Except.bind]
  | ok v =>
    cases hv : v.text with
    | error f => simp [he, hv, bind, Except.bind]
    | ok s =>
      rw [render_cons (print_ok he hv), bind_ok, hv, bind_ok]

end Statements

section Expressions

attribute [local simp] Expr.eval Args.eval

theorem value_cons (key name : String) (v : Value) (scope : Scope) :
    Scope.value ((key, v) :: scope) name key = v := by
  rw [Scope.value, List.lookup_cons_self]

theorem value_cons_of_ne {key key' : String} (h : key' ≠ key) (name : String) (v : Value)
    (scope : Scope) : Scope.value ((key, v) :: scope) name key' = scope.value name key' := by
  have hb : (key' == key) = false := by simpa using h
  rw [Scope.value, List.lookup_cons, hb]
  rfl

theorem eval_name (scope : Scope) (name key : String) :
    (Expr.name name key).eval scope = .ok (scope.value name key) := rfl

theorem eval_member (scope : Scope) (e : Expr) (name : String) :
    (Expr.member e name).eval scope = (e.eval scope).bind (·.member name) := rfl

theorem eval_item (scope : Scope) (e key : Expr) (name : String) :
    (Expr.item e (.member key name)).eval scope =
      (e.eval scope).bind fun v => ((Expr.member key name).eval scope).bind v.item := rfl

theorem eval_snake (scope : Scope) (e : Expr) (line : Nat) :
    (Expr.filter e "snake" .nil line).eval scope =
      (e.eval scope).bind fun v => v.text.map fun s => .str (Naming.snake s) := by
  cases he : e.eval scope with
  | error f => simp [he, bind, Except.bind]
  | ok v =>
    simp only [Expr.eval, he, Args.eval]
    rfl

theorem eval_optionalRule (scope : Scope) (e : Expr) (line : Nat) :
    (Expr.filter e "optional_rule" .nil line).eval scope =
      (e.eval scope).bind Helper.ruleOf := by
  cases he : e.eval scope with
  | error f => simp [he, bind, Except.bind]
  | ok v =>
    simp only [Expr.eval, he, Args.eval]
    rfl

theorem eval_param (scope : Scope) (e : Expr) (line : Nat) :
    (Expr.filter e "param" .nil line).eval scope =
      (e.eval scope).bind fun v => v.text.map fun s => .str (Naming.goIdentifier s) := by
  cases he : e.eval scope with
  | error f => simp [he, bind, Except.bind]
  | ok v =>
    simp only [Expr.eval, he, Args.eval, bind_ok]
    change Helper.apply .param [v, .str "Value"] = _
    cases hv : v.text with
    | error f => simp [Helper.apply, hv, bind, Except.bind, Except.map]
    | ok s =>
      simp only [Helper.apply, List.headD_cons, hv, bind, Except.bind, Except.map, pure,
        Except.pure]
      split <;> rfl

theorem eval_replace (scope : Scope) (e : Expr) (old new : String) (line : Nat) :
    (Expr.filter e "replace"
        (.ofList [(.positional, .literal (.str old)), (.positional, .literal (.str new))])
        line).eval scope =
      (e.eval scope).bind fun v => v.text.map fun s => .str (Text.replace old new s) := by
  cases he : e.eval scope with
  | error f => simp [he, bind, Except.bind]
  | ok v =>
    simp only [Expr.eval, he, Args.ofList, Args.eval]
    change Filter.replaced v (.str old) (.str new) .none = _
    cases hv : v.text with
    | error f => simp [Filter.replaced, hv, bind, Except.bind, Except.map]
    | ok s => simp [Filter.replaced, hv, bind, Except.bind, Except.map, text_str, pure, Except.pure]

theorem hasWithin_all (cs affix : List Char) :
    TextMethod.hasWithin false cs none none affix = affix.isPrefixOf cs := by
  have htake : (cs.take (cs.length : Int).toNat).drop (0 : Int).toNat = cs := by simp
  simp only [TextMethod.hasWithin, htake, Bool.false_eq_true, if_false]
  by_cases h : affix.isPrefixOf cs = true
  · have hlen := (List.isPrefixOf_iff_prefix.1 h).length_le
    simp only [h, Bool.and_true, decide_eq_true_eq]
    omega
  · rw [Bool.not_eq_true] at h
    rw [h, Bool.and_false]

theorem eval_startsWith (scope : Scope) (e : Expr) (start : String) {s : String}
    (he : e.eval scope = .ok (.str s)) :
    (Expr.call (.member e "startswith") (.ofList [(.positional, .literal (.str start))])).eval
        scope = .ok (.bool (startsWith s start)) := by
  rw [Expr.eval, eval_member, he]
  change (.ok (Value.bool (TextMethod.hasWithin false s.toList none none start.toList)) :
    Outcome Value) = _
  rw [hasWithin_all]
  rfl

end Expressions

theorem truth_ofJson (j : Json) : (Value.ofJson j).truth = .ok j.truthy := by
  cases j with
  | null => rfl
  | bool b => rfl
  | int n => rfl
  | float x => rfl
  | str s =>
    have hs : (s != "") = !s.isEmpty := by
      rw [Bool.eq_iff_iff]
      simp
    exact congrArg Except.ok hs
  | array items => cases items <;> rfl
  | object fields =>
    cases fields with
    | nil => rfl
    | cons e fields => cases e; rfl

/-- Each of the names stands for something that has a text. -/
def Scope.HasTexts (scope : Scope) (keys : List String) : Prop :=
  ∀ key ∈ keys, ∃ v s, scope.lookup key = some v ∧ v.text = .ok s

theorem Scope.HasTexts.value {scope : Scope} {keys : List String} (h : scope.HasTexts keys)
    {key : String} (hk : key ∈ keys) (name : String) :
    ∃ s, (scope.value name key).text = .ok s := by
  obtain ⟨v, s, hv, ht⟩ := h key hk
  exact ⟨s, by rw [Scope.value, hv]; exact ht⟩

/-- The expression is known to have a text. -/
def Expr.prints (keys : List String) : Expr → Bool
  | .name _ key => keys.contains key
  | .filter (.name _ key) "lower" .nil _ => keys.contains key
  | _ => false

def Node.isSafe (keys : List String) : Node → Bool
  | .text _ => true
  | .print e => e.prints keys
  | _ => false

def Nodes.areSafe (keys : List String) : Nodes → Bool
  | .nil => true
  | .cons node rest => node.isSafe keys && rest.areSafe keys

section Safe

variable {scope : Scope} {keys : List String}

theorem Expr.eval_of_prints (hs : scope.HasTexts keys) {e : Expr} (h : e.prints keys = true) :
    ∃ v s, e.eval scope = .ok v ∧ v.text = .ok s := by
  fun_cases Expr.prints keys e with
  | case1 name key =>
    obtain ⟨s, ht⟩ := hs.value (List.contains_iff_mem.1 h) name
    exact ⟨_, s, rfl, ht⟩
  | case2 name key line =>
    obtain ⟨s, ht⟩ := hs.value (List.contains_iff_mem.1 h) name
    refine ⟨.str (Text.lower s), Text.lower s, ?_, rfl⟩
    change Filter.applyTo .lower [scope.value name key] = _
    simp [Filter.applyTo, ht, bind, Except.bind, pure, Except.pure]
  | _ => simp_all [Expr.prints]

theorem Node.render_of_isSafe (hs : scope.HasTexts keys) {node : Node}
    (h : node.isSafe keys = true) : ∃ s, node.render scope = .ok (s, scope) := by
  fun_cases Node.isSafe keys node with
  | case1 s => exact ⟨s, rfl⟩
  | case2 e =>
    obtain ⟨v, s, hv, ht⟩ := Expr.eval_of_prints hs h
    exact ⟨s, print_ok hv ht⟩
  | _ => simp_all [Node.isSafe]

theorem Nodes.render_of_areSafe (hs : scope.HasTexts keys) (nodes : Nodes)
    (h : nodes.areSafe keys = true) : ∃ s, nodes.render scope = .ok (s, scope) := by
  match nodes with
  | .nil => exact ⟨"", rfl⟩
  | .cons node rest =>
    rw [Nodes.areSafe, Bool.and_eq_true] at h
    obtain ⟨s, hnode⟩ := Node.render_of_isSafe hs h.1
    obtain ⟨t, hrest⟩ := Nodes.render_of_areSafe hs rest h.2
    exact ⟨s ++ t, by rw [render_cons hnode, hrest, map_ok, behind]⟩

end Safe

end GoScaffold.Template
