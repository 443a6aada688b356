import GoScaffold.Proofs.Generation.ErrorCatalog
import GoScaffold.Proofs.Layer.Path

/-!
# One owner for every file

Under one set of settings two artifacts go to the same file only if they are shares of it by the same
piece, or come from the same piece of entities that are spelled alike in the names of files, or one
is an entity whose own file happens to be named like that of the domain errors or like the samples of
the other. So a file that is replaced is no shared one, and none of an entity that is spelled
otherwise, unless the two collide in that way.
-/
namespace GoScaffold

open GoScaffold.Text GoScaffold.Naming GoScaffold.Template

namespace Entity

/-- The own file of the entity is named like the domain errors, or like the samples of the other. -/
def Covers (e e' : Entity) (p q : Piece) : Prop :=
  p = .entity ∧
    (q = .errors ∧ e.fileBase = "errors" ∨ q = .samples ∧ e.fileBase = e'.fileBase ++ "_seeds")

/-- One of the two pieces is an entity in a file that is not meant for it. -/
def Collides (e e' : Entity) (p q : Piece) : Prop := e.Covers e' p q ∨ e'.Covers e q p

end Entity

namespace Piece

/-- The layers have the piece for the entity. -/
def IsMade (p : Piece) (e : Entity) : Prop := p ∈ Layer.pieces e p.layer

/-- The layers come to the artifact at the piece of the entity, with some templates. -/
def Builds (p : Piece) (e : Entity) (a : Artifact) : Prop :=
  p.IsMade e ∧ ∃ (press press' : Press) (t : Tree), p.build press t e = (press', .ok a)

end Piece

/-- The path, where a piece of the entity goes, is that of no shared file, and of no file of the other
entity unless that is the same piece of an entity spelled alike; collisions apart. -/
def Entity.Spares (e e' : Entity) (p : Piece) (path : String) : Prop :=
  ∀ q : Piece, q.IsMade e' → q.path e' = path → ¬ e.Collides e' p q →
    q = p ∧ (q.marker e').isSome = false ∧ e.fileBase = e'.fileBase

section Artifacts

variable {e e' : Entity} {p q : Piece} {a : Artifact}

theorem Piece.isMade_of_mem {layers : List Layer} (h : p ∈ layers.flatMap (Layer.pieces e)) :
    p.IsMade e := by
  obtain ⟨l, -, hp⟩ := List.mem_flatMap.1 h
  have hl : p.layer = l := by
    cases l <;> simp only [Layer.pieces] at hp
    case domain => split at hp <;> revert hp <;> cases p <;> simp [layer]
    all_goals revert hp; cases p <;> simp [layer]
  rwa [IsMade, hl]

/-- Domain errors go with validation, and every other piece with its layer. -/
theorem Piece.isMade_iff : p.IsMade e ↔ (p = .errors → e.settings.validation.truthy = true) := by
  cases p <;> simp only [IsMade, layer, Layer.pieces] <;> first | (split <;> simp_all) | simp

theorem Piece.exists_artifact_of_build {press press' : Press} {t : Tree}
    (h : p.build press t e = (press', .ok a)) : ∃ text, a = p.artifact e text := by
  rw [build] at h
  split at h
  · cases h
    exact ⟨_, rfl⟩
  · next name scope _ =>
    cases hr : (press.render t name scope).2 with
    | error f => simp [hr, Except.map] at h
    | ok text =>
      simp only [hr, Except.map, Prod.mk.injEq, Except.ok.injEq] at h
      exact ⟨text, h.2.symm⟩

theorem Piece.Builds.exists_artifact (h : p.Builds e a) : ∃ text, a = p.artifact e text := by
  obtain ⟨-, press, press', t, hbuild⟩ := h
  exact exists_artifact_of_build hbuild

theorem Piece.isSome_marker_congr (p : Piece) (e e' : Entity) :
    (p.marker e).isSome = (p.marker e').isSome := by
  cases p <;> rfl

theorem Piece.path_congr (hsettings : e.settings = e'.settings)
    (h : (p.marker e).isSome = true ∨ e.fileBase = e'.fileBase) : p.path e = p.path e' := by
  rw [path_eq, path_eq, sourceFile, sourceFile]
  rcases h with h | h
  · cases p <;> first | rfl | simp [marker] at h
  · cases p <;> simp [baseName, h, hsettings]

theorem Entity.Covers.path_eq (h : e.Covers e' p q) : p.path e = q.path e' := by
  obtain ⟨rfl, ⟨rfl, hb⟩ | ⟨rfl, hb⟩⟩ := h <;>
  · rw [Piece.path_eq, Piece.path_eq]
    simp [Piece.sourceFile, Piece.baseName, Piece.folder, hb]

/-- Two pieces go to one file just if it is the same piece, and shared or of entities that are
spelled alike, or if they collide. -/
theorem Piece.path_eq_iff (hsettings : e.settings = e'.settings) : p.path e = q.path e' ↔
    p = q ∧ ((p.marker e).isSome = true ∨ e.fileBase = e'.fileBase) ∨ e.Collides e' p q := by
  constructor
  · intro hpath
    by_cases hpq : p = q
    · subst hpq
      exact .inl ⟨rfl, fileBase_of_same_piece hsettings hpath⟩
    · obtain ⟨hp, hq, hb⟩ | ⟨hp, hq, hb⟩ | ⟨hp, hq, hb⟩ | ⟨hp, hq, hb⟩ :=
        cases_of_path_eq hpq hpath
      · exact .inr (.inl ⟨hp, .inl ⟨hq, hb⟩⟩)
      · exact .inr (.inr ⟨hq, .inl ⟨hp, hb⟩⟩)
      · exact .inr (.inl ⟨hp, .inr ⟨hq, hb⟩⟩)
      · exact .inr (.inr ⟨hq, .inr ⟨hp, hb⟩⟩)
  · rintro (⟨rfl, hsame⟩ | hcovers | hcovers)
    · exact path_congr hsettings hsame
    · exact hcovers.path_eq
    · exact hcovers.path_eq.symm

/-- A piece with a file of its own spares the files of another entity. -/
theorem Piece.spares (hsettings : e.settings = e'.settings) (hp : (p.marker e).isSome = false) :
    e.Spares e' p (p.path e) := by
  intro q _ hpath hapart
  obtain ⟨rfl, hshared | hbase⟩ := ((path_eq_iff hsettings).1 hpath.symm).resolve_right hapart
  · rw [hp] at hshared
    cases hshared
  · exact ⟨rfl, (p.isSome_marker_congr e' e).trans hp, hbase⟩

theorem not_mergeable_of_replaced {existing : Option String} {a : Artifact}
    (h : (merge existing a).2.action = .replaced) : a.mergeable = false := by
  cases existing with
  | none => simp [merge] at h
  | some content =>
    cases ha : a.mergeable with
    | false => rfl
    | true =>
      simp only [merge, ha, Bool.not_true, Bool.false_eq_true, if_false] at h
      split_ifs at h

/-- What is replaced when an artifact is merged. -/
theorem Piece.Builds.spares (hbuilds : p.Builds e a) (hsettings : e.settings = e'.settings)
    {s : Store} {w w' : Workspace} {o : MergeOutcome} (hm : s.merge w a = (w', .ok o))
    (ho : o.action = .replaced) : e.Spares e' p o.path := by
  obtain ⟨text, rfl⟩ := hbuilds.exists_artifact
  obtain ⟨existing, -, rfl, -⟩ := Store.merge_ok hm
  rw [path_merge]
  exact Piece.spares hsettings (not_mergeable_of_replaced ho)

end Artifacts

section Runs

variable {roster : Roster} {s : Store} {e : Entity}

theorem runPiece_ok {press press' : Press} {w w' : Workspace} {p : Piece} {o : MergeOutcome}
    (h : runPiece s e press w p = (press', w', .ok o)) :
    ∃ a, p.build press w.tree e = (press', .ok a) ∧ s.merge w a = (w', .ok o) := by
  rw [runPiece] at h
  split at h
  · cases h
  · next a hbuild =>
    split at h
    · next hmerge =>
      cases h
      exact ⟨a, hbuild, hmerge⟩
    · cases h

/-- Every outcome of a run is that of an artifact which a piece came to. -/
theorem exists_merge_of_runPieces {press : Press} {w w' : Workspace} {pieces : List Piece}
    (hmade : ∀ p ∈ pieces, p.IsMade e) {results : List PieceResult}
    (h : runPieces s e press w pieces = (w', .ok results)) :
    ∀ x ∈ results, ∀ o, x.result = .ok o → ∃ a before after,
      x.piece.Builds e a ∧ s.merge before a = (after, .ok o) := by
  induction pieces generalizing press w results with
  | nil =>
    cases h
    simp
  | cons p rest ih =>
    obtain ⟨press', between, r, later, hpiece, -, hlater, rfl⟩ := exists_of_runPieces_cons h
    refine List.forall_mem_cons.2 ⟨fun o ho => ?_, ih (fun q hq => hmade q (by simp [hq])) hlater⟩
    obtain rfl : r = .ok o := ho
    obtain ⟨a, hbuild, hmerge⟩ := runPiece_ok hpiece
    exact ⟨a, w, between, ⟨hmade p (by simp), press, press', w.tree, hbuild⟩, hmerge⟩

theorem exists_run_of_generateAll {w : Workspace} {requests : List Request} {report : Report}
    (h : .ok report ∈ (generateAll roster s w requests).2) :
    ∃ r before after, generate roster s before r = (after, .ok report) := by
  induction requests generalizing w with
  | nil => simp [generateAll] at h
  | cons r requests ih =>
    cases hgo : generate roster s w r with
    | mk w' outcome =>
      rw [generateAll_cons hgo] at h
      rcases List.mem_cons.1 h with rfl | h
      · exact ⟨r, w, w', hgo⟩
      · exact ih h

theorem exists_runLayers_of_generate {w w' : Workspace} {r : Request} {report : Report}
    (h : generate roster s w r = (w', .ok report)) : ∃ press before after layers,
      runLayers s report.entity press before layers = (after, .ok report.results) := by
  rw [generate] at h
  split at h
  · cases h
  · split at h
    · cases h
    · dsimp only at h
      split at h
      all_goals first | cases h | skip
      split at h
      · cases h
      · next hrun =>
        cases h
        exact ⟨_, _, _, _, hrun⟩

end Runs

/-- Between two entities with the same settings every file has one owner. Artifacts of the layers have
the same path just if they come from the same piece, and both share the file or the entities are
spelled alike, or if an entity's own file is named like the domain errors or like the samples of the
other. Collisions of that kind apart, no merge replaces a shared file or a file of an entity that is
spelled otherwise, and so no run does that, whatever runs came before. -/
theorem Entity.one_owner {e e' : Entity} (hsettings : e.settings = e'.settings) :
    (∀ (p q : Piece) (a a' : Artifact), p.Builds e a → q.Builds e' a' → (a.path = a'.path ↔
      p = q ∧ (a.mergeable = true ∧ a'.mergeable = true ∨ e.fileBase = e'.fileBase) ∨
        e.Collides e' p q)) ∧
    (∀ (p : Piece) (a : Artifact) (s : Store) (w w' : Workspace) (o : MergeOutcome),
      p.Builds e a → s.merge w a = (w', .ok o) → o.action = .replaced → e.Spares e' p o.path) ∧
    ∀ (roster : Roster) (s : Store) (w : Workspace) (requests : List Request) (report : Report),
      .ok report ∈ (generateAll roster s w requests).2 → report.entity = e →
        ∀ x ∈ report.results, ∀ o, x.result = .ok o → o.action = .replaced →
          e.Spares e' x.piece o.path := by
  refine ⟨fun p q a a' ha ha' => ?_, fun p a s w w' o ha hm ho => ha.spares hsettings hm ho,
    fun roster s w requests report hreport he x hx o hox ho => ?_⟩
  · obtain ⟨text, rfl⟩ := ha.exists_artifact
    obtain ⟨text', rfl⟩ := ha'.exists_artifact
    refine (Piece.path_eq_iff hsettings).trans (or_congr_left (and_congr_right fun hpq => ?_))
    subst hpq
    have hshared : (p.artifact e text).mergeable = true ∧ (p.artifact e' text').mergeable = true ↔
        (p.marker e).isSome = true :=
      ⟨And.left, fun h => ⟨h, (p.isSome_marker_congr e' e).trans h⟩⟩
    rw [hshared]
  · subst he
    obtain ⟨r, before, after, hgo⟩ := exists_run_of_generateAll hreport
    obtain ⟨press, w₁, w₂, layers, hrun⟩ := exists_runLayers_of_generate hgo
    obtain ⟨a, before, after, hbuilds, hmerge⟩ :=
      exists_merge_of_runPieces (fun p hp => Piece.isMade_of_mem hp) hrun x hx o hox
    exact hbuilds.spares hsettings hmerge ho

/-- A product and an order have no file in common but those that they share. -/
theorem Entity.one_owner_product : ∃ (fields : List Field) (e e' : Entity),
    Descriptor.read .builtin (some "name:string") = .ok fields ∧
      ofFields "product" fields {} = .ok e ∧ ofFields "order" fields {} = .ok e' ∧
      e.settings = e'.settings ∧
      ∀ (p q : Piece) (a a' : Artifact), p.Builds e a → q.Builds e' a' → a.path = a'.path →
        p = q ∧ a.mergeable = true ∧ a'.mergeable = true := by
  have hread : ∃ fields, Descriptor.read .builtin (some "name:string") = .ok fields ∧
      ((ofFields "product" fields {}).toOption.any (·.fileBase == "product") &&
        (ofFields "order" fields {}).toOption.any (·.fileBase == "order")) = true :=
    exists_of_toOption_any (by decide +kernel)
  obtain ⟨fields, hread, hboth⟩ := hread
  rw [Bool.and_eq_true] at hboth
  obtain ⟨e, he, hbase⟩ := exists_of_toOption_any hboth.1
  obtain ⟨e', he', hbase'⟩ := exists_of_toOption_any hboth.2
  rw [beq_iff_eq] at hbase hbase'
  have hsettings : e.settings = e'.settings :=
    (ofFields_ok he).2.2.1.trans (ofFields_ok he').2.2.1.symm
  have hapart (p q : Piece) : ¬ e.Collides e' p q := by
    simp only [Collides, Covers, hbase, hbase']
    have hnames : ("product" : String) ≠ "errors" ∧ "order" ≠ "errors" ∧
      "product" ≠ "order" ++ "_seeds" ∧ "order" ≠ "product" ++ "_seeds" := by decide
    tauto
  refine ⟨fields, e, e', hread, he, he', hsettings, fun p q a a' ha ha' hpath => ?_⟩
  obtain ⟨hpq, hshared | hsame⟩ :=
    (((one_owner hsettings).1 p q a a' ha ha').1 hpath).resolve_right (hapart p q)
  · exact ⟨hpq, hshared⟩
  · rw [hbase, hbase'] at hsame
    exact absurd hsame (by decide)

/-- The names of files do not tell two entities apart that differ only in capitals. -/
theorem Entity.not_one_owner_username : ∃ (fields : List Field) (e e' : Entity) (a a' : Artifact),
    Descriptor.read .builtin (some "name:string") = .ok fields ∧
      ofFields "UserName" fields {} = .ok e ∧ ofFields "Username" fields {} = .ok e' ∧
      e.name ≠ e'.name ∧ Piece.samples.Builds e a ∧ Piece.samples.Builds e' a' ∧
      a.path = a'.path ∧ a.mergeable = false := by
  have hread : ∃ fields, Descriptor.read .builtin (some "name:string") = .ok fields ∧
      ((ofFields "UserName" fields {}).toOption.any
          (fun e => e.name == "UserName" && e.fileBase == "username") &&
        (ofFields "Username" fields {}).toOption.any
          (fun e => e.name == "Username" && e.fileBase == "username")) = true :=
    exists_of_toOption_any (by decide +kernel)
  obtain ⟨fields, hread, hboth⟩ := hread
  rw [Bool.and_eq_true] at hboth
  obtain ⟨e, he, hnames⟩ := exists_of_toOption_any hboth.1
  obtain ⟨e', he', hnames'⟩ := exists_of_toOption_any hboth.2
  simp only [Bool.and_eq_true, beq_iff_eq] at hnames hnames'
  let text (e : Entity) : String :=
    goHeader "domain" (importsOf e.userMembers) ++ Source.build e.samplesSource
  have hbuilds (e : Entity) : Piece.samples.Builds e (Piece.samples.artifact e (text e)) :=
    ⟨Piece.isMade_iff.2 (by simp), .create none, .create none, {}, rfl⟩
  have hpath : (Piece.samples.artifact e (text e)).path = (Piece.samples.artifact e' (text e')).path :=
    congrArg (fun base => "internal/domain/" ++ base ++ "_seeds.go") (hnames.2.trans hnames'.2.symm)
  refine ⟨fields, e, e', _, _, hread, he, he', ?_, hbuilds e, hbuilds e', hpath, rfl⟩
  rw [hnames.1, hnames'.1]
  decide

/-- An entity that covers a file replaces whatever else it holds. -/
theorem Entity.Covers.replaces {e e' : Entity} {p q : Piece} (h : e.Covers e' p q) :
    ∃ a, p.Builds e a ∧ a.path = q.path e' ∧
      ∀ content, content ≠ a.content → (merge (some content) a).2.action = .replaced := by
  obtain ⟨press, hbuild, -⟩ := Piece.declares_entity e (.create none) {} Press.isBuiltin_create
  have hpath := h.path_eq
  obtain ⟨rfl, -⟩ := h
  refine ⟨_, ⟨Piece.isMade_iff.2 (by simp), _, _, _, hbuild⟩, hpath, fun content hne => ?_⟩
  have hown : (Piece.artifact e .entity (textOf e.entityLines)).mergeable = false := rfl
  simp [merge, hown, hne]

/-- The entity Errors replaces the catalog of errors that other entities share. -/
theorem Entity.covers_errors : ∃ (fields : List Field) (e e' : Entity),
    Descriptor.read .builtin (some "name:string") = .ok fields ∧
      ofFields "Errors" fields { validation := .bool true } = .ok e ∧
      ofFields "Product" fields { validation := .bool true } = .ok e' ∧
      Piece.errors.IsMade e' ∧ (Piece.errors.marker e').isSome = true ∧
      e.Covers e' .entity .errors := by
  have hread : ∃ fields, Descriptor.read .builtin (some "name:string") = .ok fields ∧
      ((ofFields "Errors" fields { validation := .bool true }).toOption.any
          (·.fileBase == "errors") &&
        (ofFields "Product" fields { validation := .bool true }).toOption.any
          (·.settings.validation.truthy)) = true :=
    exists_of_toOption_any (by decide +kernel)
  obtain ⟨fields, hread, hboth⟩ := hread
  rw [Bool.and_eq_true] at hboth
  obtain ⟨e, he, hbase⟩ := exists_of_toOption_any hboth.1
  obtain ⟨e', he', hvalidation⟩ := exists_of_toOption_any hboth.2
  exact ⟨fields, e, e', hread, he, he', Piece.isMade_iff.2 fun _ => hvalidation, rfl, rfl,
    .inl ⟨rfl, beq_iff_eq.1 hbase⟩⟩

/-- The entity ProductSeeds replaces the samples of the entity Product. -/
theorem Entity.covers_samples : ∃ (fields : List Field) (e e' : Entity),
    Descriptor.read .builtin (some "name:string") = .ok fields ∧
      ofFields "ProductSeeds" fields { fileNaming := .str "snake" } = .ok e ∧
      ofFields "Product" fields { fileNaming := .str "snake" } = .ok e' ∧
      e.fileBase ≠ e'.fileBase ∧ Piece.samples.IsMade e' ∧ e.Covers e' .entity .samples := by
  have hread : ∃ fields, Descriptor.read .builtin (some "name:string") = .ok fields ∧
      ((ofFields "ProductSeeds" fields { fileNaming := .str "snake" }).toOption.any
          (·.fileBase == "product_seeds") &&
        (ofFields "Product" fields { fileNaming := .str "snake" }).toOption.any
          (·.fileBase == "product")) = true :=
    exists_of_toOption_any (by decide +kernel)
  obtain ⟨fields, hread, hboth⟩ := hread
  rw [Bool.and_eq_true] at hboth
  obtain ⟨e, he, hbase⟩ := exists_of_toOption_any hboth.1
  obtain ⟨e', he', hbase'⟩ := exists_of_toOption_any hboth.2
  rw [beq_iff_eq] at hbase hbase'
  refine ⟨fields, e, e', hread, he, he', ?_, Piece.isMade_iff.2 (by simp), rfl, .inr ⟨rfl, ?_⟩⟩ <;>
  · rw [hbase, hbase']
    decide

end GoScaffold
