import GoScaffold.Proofs.Generation.Foretold

/-!
# Dry runs

A dry run reads the disk and writes drafts over it. It foretells the run on disk as long as that can
write its files, their names are short enough for a directory, and double dots of the root lead
through directories that are there. Without directories of its own it does not see what a directory
refuses, nor what a directory leads to once it has been made.
-/
namespace GoScaffold

open GoScaffold.Text GoScaffold.Naming GoScaffold.Template

section Pair

variable {s : Store} {e : Entity} {press : Press} {w w' w'' : Workspace} {p q : Piece}
  {a b : String} {o : MergeOutcome} {r : Except StoreFault MergeOutcome}

/-- After a piece that goes through, the second one decides. -/
theorem runPieces_pair (hpress : press.IsBuiltin) (ha : p.Declares e a) (hb : q.Declares e b)
    (hfirst : s.merge w (p.artifact e a) = (w', .ok o))
    (hsecond : s.merge w' (q.artifact e b) = (w'', r)) :
    (runPieces s e press w [p, q]).2 =
        (match endOfRun? (r.mapError .store) with
        | some f => .error f
        | none => .ok [⟨p, .ok o⟩, ⟨q, r.mapError .store⟩]) ∧
      failedWrites s e press w [p, q] = (failedWrite? (r.mapError .store)).toList := by
  obtain ⟨press₁, hrun₁, hpress₁⟩ := runPiece_eq s (w := w) hpress ha
  obtain ⟨press₂, hrun₂, -⟩ := runPiece_eq s (w := w') hpress₁ hb
  rw [hfirst] at hrun₁
  rw [hsecond] at hrun₂
  have hon : endOfRun? (Except.mapError PieceFault.store (.ok o)) = none := rfl
  have hwritten : failedWrite? (Except.mapError PieceFault.store (.ok o)) = none := rfl
  rw [runPieces_cons, hrun₁, failedWrites_cons, hrun₁]
  simp only [hon, hwritten]
  rw [runPieces_cons, hrun₂, failedWrites_cons, hrun₂]
  dsimp only
  cases endOfRun? (r.mapError .store) <;> simp [runPieces, failedWrites, Except.map]
  rfl

end Pair

def repositoryRequest (database : String) : Request where
  entity := "product"
  fields := .descriptor (some "name:string")
  settings := .given { database := .str database }
  layers := ["repository"]

section Repository

variable {d : String} {root : Path} {t moved : Tree} {e : Entity} {advice : List String}

theorem begins_repositoryRequest
    (hread : ((repositoryRequest d).readEntity {}).toOption.any (·.fileBase == "product") = true)
    (t : Tree) : ∃ e advice, (repositoryRequest d).Begins t e [.repository] advice ∧
      e.settings = { database := .str d } ∧ e.fileBase = "product" := by
  obtain ⟨e, he, hbase⟩ := exists_of_toOption_any hread
  have hsettings : e.settings = { database := .str d } := settings_of_readEntity rfl he
  have hwarnings : ∃ advice, e.settings.warnings t = .ok advice := by
    rw [hsettings]
    exact ⟨_, rfl⟩
  obtain ⟨advice, hadvice⟩ := hwarnings
  exact ⟨e, advice, ⟨he, by rw [hsettings], rfl, hadvice⟩, hsettings, by simpa using hbase⟩

/-- The merge of the implementation into a tree that has the interfaces. -/
def implementationResult (root : Path) (e : Entity) (t : Tree) : Except PieceFault MergeOutcome :=
  ((Store.disk root).merge { tree := t }
    (Piece.repositoryImplementation.artifact e (textOf e.implementationLines))).2.mapError .store

/-- Once the interfaces are written, the run goes as the implementation does. A dry run in a project
without both foretells that the implementation is created, whatever comes of it. -/
theorem repository_run (h : (repositoryRequest d).Begins t e [.repository] advice)
    (hinterfaces : t.readText? (root / interfacesPath) = .ok none)
    (himplementation : t.readText? (root / Piece.repositoryImplementation.path e) = .ok none)
    (hwrite : t.writeText (root / interfacesPath) (Piece.repositoryInterface.share e).freshFile =
      (moved, none)) :
    (repositoryRequest d).failedWrites .builtin (.disk root) { tree := t } =
        (failedWrite? (implementationResult root e moved)).toList ∧
      (implementationResult root e moved ≠
          .ok { path := Piece.repositoryImplementation.path e, action := .created } →
        ¬ (repositoryRequest d).IsForetold root t) := by
  have hdescribed : e.IsDescribed := isDescribed_of_readEntity rfl h.entity
  have hshare := Piece.declares_lines hdescribed (p := .repositoryInterface) rfl
  have himpl := Entity.declares_implementation e
  have hpieces : [Layer.repository].flatMap (Layer.pieces e) =
      [.repositoryInterface, .repositoryImplementation] := rfl
  have hwrites := h.failedWrites_eq (.disk root)
  have hresult (hforetold : (repositoryRequest d).IsForetold root t) := h.result_eq hforetold
  rw [hpieces] at hwrites hresult
  obtain ⟨w, last, hmerge⟩ : ∃ w last, (Store.disk root).merge { tree := moved }
      (Piece.repositoryImplementation.artifact e (textOf e.implementationLines)) = (w, last) :=
    ⟨_, _, rfl⟩
  have hlastResult : implementationResult root e moved = last.mapError .store := by
    rw [implementationResult, hmerge]
  have hfirst := Store.merge_new_disk (w := { tree := t })
    (a := Piece.repositoryInterface.share e) hinterfaces hwrite
  have hreal := runPieces_pair Press.isBuiltin_create hshare himpl hfirst hmerge
  have hfree : OrderedMap.get? (Piece.repositoryImplementation.path e)
      (OrderedMap.insert interfacesPath (Piece.repositoryInterface.share e).freshFile []) = none := by
    have hne : interfacesPath ≠ Piece.repositoryImplementation.path e := fun he =>
      absurd (Piece.fileBase_of_path_eq (p := .repositoryInterface) (by decide) he).2 (by decide)
    rw [OrderedMap.get?_insert, if_neg hne]
    rfl
  have hdraft := Store.merge_new_overlay root (w := { tree := t })
    (a := Piece.repositoryInterface.artifact e (textOf (Piece.repositoryInterface.lines e))) rfl
    hinterfaces
  have hlast := Store.merge_new_overlay root
    (a := Piece.repositoryImplementation.artifact e (textOf e.implementationLines))
    (w := ⟨t, OrderedMap.insert interfacesPath (Piece.repositoryInterface.share e).freshFile []⟩)
    hfree himplementation
  have hdry := runPieces_pair Press.isBuiltin_create hshare himpl hdraft hlast
  rw [hlastResult]
  refine ⟨hwrites.trans hreal.2, fun hother hforetold => ?_⟩
  have hsame := (hdry.1.symm.trans (hresult hforetold)).trans hreal.1
  cases hend : endOfRun? (last.mapError PieceFault.store) with
  | some f =>
    rw [hend] at hsame
    cases hsame
  | none =>
    rw [hend] at hsame
    have hresults := congrArg PieceResult.result (List.cons.inj (List.cons.inj (Except.ok.inj hsame)).2).1
    exact hother hresults.symm

theorem sourceFile_implementation (hsettings : e.settings = { database := .str d })
    (hbase : e.fileBase = "product") : Piece.repositoryImplementation.baseName e =
        d ++ "_product_repository" ∧
      Piece.repositoryImplementation.sourceFile e = d ++ "_product_repository.go" := by
  have hname : Piece.repositoryImplementation.baseName e = d ++ "_product_repository" := by
    simp only [Piece.baseName, hbase, hsettings, String.append_assoc]
    rfl
  refine ⟨hname, ?_⟩
  rw [Piece.sourceFile, hname, String.append_assoc]
  rfl

theorem path_implementation (root : Path) (hsettings : e.settings = { database := .str d })
    (hbase : e.fileBase = "product") (hslash : '/' ∉ d.toList) :
    (root / Piece.repositoryImplementation.path e : Path) =
      Tree.below root ["internal", "repository", d ++ "_product_repository.go"] := by
  obtain ⟨hname, hsource⟩ := sourceFile_implementation hsettings hbase
  have hfree : '/' ∉ (Piece.repositoryImplementation.baseName e).toList := by
    simp [hname, hslash]
  rw [Piece.path_below root hfree, hsource]
  rfl

theorem implementationResult_eq {existing : Option String} {next : String} {outcome : MergeOutcome}
    {fault : Option WriteFault} (hread : t.readText? (root / Piece.repositoryImplementation.path e) = .ok existing)
    (hmerge : merge existing (Piece.repositoryImplementation.artifact e
      (textOf e.implementationLines)) = (some next, outcome))
    (hwrite : t.writeText (root / Piece.repositoryImplementation.path e) next = (moved, fault)) :
    implementationResult root e t =
      match fault with
      | none => .ok outcome
      | some f => .error (.store (.unwritable f)) := by
  have hdisk := Store.merge_disk (w := { tree := t })
    (a := Piece.repositoryImplementation.artifact e (textOf e.implementationLines)) hread hmerge hwrite
  refine (congrArg (fun r : Workspace × Except StoreFault MergeOutcome =>
    r.2.mapError PieceFault.store) hdisk).trans ?_
  cases fault <;> rfl

end Repository

def interfacesTree (bytes : ByteArray) : Tree where
  entries := [(["internal"], .directory), (["internal", "repository"], .directory),
    (["internal", "repository", "interfaces.go"], .file bytes 1)]
  clock := 1

theorem path_interfaces : (Path.here / interfacesPath : Path) =
    { segments := ["internal", "repository", "interfaces.go"] } := by decide +kernel

theorem readText?_interfaces : ({} : Tree).readText? (Path.here / interfacesPath) = .ok none := by
  have habsent : ({} : Tree).find { segments := ["internal", "repository", "interfaces.go"] } =
      .error .absent := rfl
  rw [path_interfaces, Tree.readText?_of_absent habsent]

theorem writeText_interfaces (text : String) :
    ({} : Tree).writeText (Path.here / interfacesPath) text = (interfacesTree text.toUTF8, none) := by
  let made : Tree :=
    { entries := [(["internal"], .directory), (["internal", "repository"], .directory)] }
  rw [path_interfaces]
  have hmade : ({} : Tree).makeDirectories "" ["repository", "internal"] = (made, none) := rfl
  exact Tree.writeText_of_steps (by decide) (hasZero_eq_false (by decide))
    (hasZero_eq_false (by decide)) hmade rfl rfl

theorem makeDirectories_interfaces (bytes : ByteArray) :
    (interfacesTree bytes).makeDirectories "" ["repository", "internal"] =
      (interfacesTree bytes, none) := by
  have hzero : Path.hasZero { segments := ["internal", "repository"] } = false :=
    hasZero_eq_false (by decide)
  have hdirectory : (interfacesTree bytes).find { segments := ["internal", "repository"] } =
      .ok .directory := rfl
  simp [Tree.makeDirectories, Tree.ensureDirectory_of_find hzero hdirectory]

section Interfaces

variable {e : Entity} (bytes : ByteArray)

/-- In a project with the interfaces the implementation can be written. -/
theorem implementationResult_interfaces (hsettings : e.settings = { database := .str "postgres" })
    (hbase : e.fileBase = "product") :
    ∃ o, implementationResult .here e (interfacesTree bytes) = .ok o := by
  let p : Path := { segments := ["internal", "repository", "postgres_product_repository.go"] }
  have hpath : (Path.here / Piece.repositoryImplementation.path e : Path) = p :=
    path_implementation _ hsettings hbase (by decide)
  have habsent : (interfacesTree bytes).find p = .error .absent := rfl
  have hwrite (text : String) : ∃ moved, (interfacesTree bytes).writeText p text = (moved, none) :=
    ⟨_, Tree.writeText_of_steps (by decide) (hasZero_eq_false (by decide))
      (hasZero_eq_false (by decide)) (makeDirectories_interfaces bytes) rfl rfl⟩
  obtain ⟨moved, hmoved⟩ := hwrite _
  exact ⟨_, implementationResult_eq (hpath ▸ Tree.readText?_of_absent habsent) rfl (hpath ▸ hmoved)⟩

/-- A database whose name makes the name of a file too long. -/
def longDatabase : String := .ofList (List.replicate 250 'd')

theorem eq_of_mem_longDatabase {c : Char} (h : c ∈ longDatabase.toList) : c = 'd' := by
  have hchars : longDatabase.toList = List.replicate 250 'd' := String.toList_ofList ..
  rw [hchars] at h
  exact List.eq_of_mem_replicate h

/-- A file that lies beside the interfaces cannot have a name that is too long. -/
theorem implementationResult_long (hsettings : e.settings = { database := .str longDatabase })
    (hbase : e.fileBase = "product") : ∃ f, implementationResult .here e (interfacesTree bytes) =
      .error (.store (.unreadable (Piece.repositoryImplementation.path e) f)) := by
  let p : Path := { segments := ["internal", "repository", longDatabase ++ "_product_repository.go"] }
  have hslash : '/' ∉ longDatabase.toList := fun hmem =>
    absurd (eq_of_mem_longDatabase hmem) (by decide)
  have hpath : (Path.here / Piece.repositoryImplementation.path e : Path) = p :=
    path_implementation _ hsettings hbase hslash
  have hinterfaces : (interfacesTree bytes).find
      (Tree.below .here (["internal", "repository"] ++ ["interfaces.go"])) = .ok (.file bytes 1) := rfl
  have hbytes : Tree.longestName < (longDatabase ++ "_product_repository.go").utf8ByteSize := by
    have hsize : longDatabase.utf8ByteSize = 250 := by decide +kernel
    rw [String.utf8ByteSize_append, hsize]
    decide
  have hlong : (interfacesTree bytes).find p = .error .nameTooLong :=
    Tree.find_tooLong hinterfaces (by decide) hbytes
  have hzero : p.hasZero = false := hasZero_eq_false fun s hs hmem => by
    simp only [p, List.mem_cons, List.not_mem_nil, or_false] at hs
    rcases hs with rfl | rfl | rfl
    · exact absurd hmem (by decide)
    · exact absurd hmem (by decide)
    · rcases List.mem_append.1 (String.toList_append ▸ hmem) with hd | hrest
      · exact absurd (eq_of_mem_longDatabase hd) (by decide)
      · exact absurd hrest (by decide)
  let f : FileError := { refusal := .nameTooLong, path := p }
  have hread : (Store.disk .here).read { tree := interfacesTree bytes }
      (Piece.repositoryImplementation.path e) =
        .error (.unreadable (Piece.repositoryImplementation.path e) f) := by
    simp only [Store.read, Store.readDisk, hpath, f, Tree.readText?_of_tooLong hzero hlong]
  let a := Piece.repositoryImplementation.artifact e (textOf e.implementationLines)
  exact ⟨f, congrArg (fun r : Workspace × Except StoreFault MergeOutcome =>
    r.2.mapError PieceFault.store) (Store.merge_of_unreadable (a := a) hread)⟩

/-- A database whose name is in no name of a file. -/
def zeroDatabase : String := "post\x00gres"

theorem implementationResult_zero (hsettings : e.settings = { database := .str zeroDatabase })
    (hbase : e.fileBase = "product") : implementationResult .here e (interfacesTree bytes) =
      .error (.store (.unwritable .zeroCharacter)) := by
  let p : Path := { segments := ["internal", "repository", zeroDatabase ++ "_product_repository.go"] }
  have hpath : (Path.here / Piece.repositoryImplementation.path e : Path) = p :=
    path_implementation _ hsettings hbase (by decide)
  have hzero : p.hasZero = true := by
    rw [Tree.hasZero_eq]
    decide +kernel
  have hwrite (text : String) : (interfacesTree bytes).writeText p text =
      (interfacesTree bytes, some .zeroCharacter) :=
    Tree.writeText_of_hasZero (by decide +kernel) (hasZero_eq_false (by decide)) hzero
      (makeDirectories_interfaces bytes)
  exact implementationResult_eq (hpath ▸ Tree.readText?_of_hasZero hzero) rfl (hpath ▸ hwrite _)

end Interfaces

def implementationTree : Tree where
  entries := [(["internal"], .directory), (["internal", "repository"], .directory),
    (["internal", "repository", "postgres_product_repository.go"], .file "".toUTF8 1)]
  clock := 1

/-- The working directory, by way of a directory that is missing. -/
def detour : Path := { segments := ["new", ".."] }

/-- The project once the interfaces have been written by way of the detour. -/
def detouredTree (bytes : ByteArray) : Tree where
  entries := implementationTree.entries ++ [(["new"], .directory),
    (["internal", "repository", "interfaces.go"], .file bytes 2)]
  clock := 2

theorem path_detour : (detour / interfacesPath : Path) =
    { segments := ["new", "..", "internal", "repository", "interfaces.go"] } := by decide +kernel

/-- The first write makes the directory through which the detour leads. -/
theorem writeText_detour (text : String) : implementationTree.writeText (detour / interfacesPath) text =
    (detouredTree text.toUTF8, none) := by
  let made : Tree := { implementationTree with
    entries := implementationTree.entries ++ [(["new"], .directory)] }
  have hfound {p : Path} (hp : p.hasZero = false) (h : made.find p = .ok .directory) :
      made.ensureDirectory p = .ok made := Tree.ensureDirectory_of_find hp h
  have hnew : implementationTree.makeDirectories "" ["new"] = (made, none) := rfl
  have hup : implementationTree.makeDirectories "" ["..", "new"] = (made, none) :=
    Tree.makeDirectories_of_missing (e := ⟨.absent, { segments := ["new", ".."] }, none⟩) rfl rfl
      hnew (hfound (hasZero_eq_false (by decide)) rfl)
  have hinternal : implementationTree.makeDirectories "" ["internal", "..", "new"] = (made, none) :=
    Tree.makeDirectories_of_missing (e := ⟨.absent, { segments := ["new", "..", "internal"] }, none⟩)
      rfl rfl hup (hfound (hasZero_eq_false (by decide)) rfl)
  have hall : implementationTree.makeDirectories "" ["repository", "internal", "..", "new"] =
      (made, none) :=
    Tree.makeDirectories_of_missing
      (e := ⟨.absent, { segments := ["new", "..", "internal", "repository"] }, none⟩) rfl rfl
      hinternal (hfound (hasZero_eq_false (by decide)) rfl)
  rw [path_detour]
  exact Tree.writeText_of_steps (by decide) (hasZero_eq_false (by decide))
    (hasZero_eq_false (by decide)) hall rfl rfl

/-- After the detour the implementation is found, and replaced. -/
theorem implementationResult_detour {e : Entity} (bytes : ByteArray)
    (hsettings : e.settings = { database := .str "postgres" }) (hbase : e.fileBase = "product") :
    implementationResult detour e (detouredTree bytes) =
      .ok { path := Piece.repositoryImplementation.path e, action := .replaced } := by
  let p : Path :=
    { segments := ["new", "..", "internal", "repository", "postgres_product_repository.go"] }
  have hpath : (detour / Piece.repositoryImplementation.path e : Path) = p :=
    path_implementation _ hsettings hbase (by decide)
  have hzero : p.hasZero = false := hasZero_eq_false (by decide)
  have hfile : (detouredTree bytes).find p = .ok (.file "".toUTF8 1) := rfl
  have hread := Tree.readText?_of_file hzero hfile (Tree.decodeUtf8_toByteArray "")
  let a := Piece.repositoryImplementation.artifact e (textOf e.implementationLines)
  have hmerge : merge (some "") a = (some a.content, { path := a.path, action := .replaced }) := by
    have hne : "" ≠ a.content := fun he => by
      have hchars := congrArg String.toList he
      simp [a, Piece.artifact, Entity.implementationLines, headerLines, Entity.toList_textOf] at hchars
    rw [merge]
    simp only [show a.mergeable = false from rfl, Bool.not_false, if_true, if_neg hne]
  have hwrite (text : String) : ∃ moved, (detouredTree bytes).writeText p text = (moved, none) := by
    have hmade : (detouredTree bytes).makeDirectories "" ["repository", "internal", "..", "new"] =
        (detouredTree bytes, none) := by
      have hdirectory : (detouredTree bytes).find
          { segments := ["new", "..", "internal", "repository"] } = .ok .directory := rfl
      simp [Tree.makeDirectories,
        Tree.ensureDirectory_of_find (hasZero_eq_false (by decide)) hdirectory]
    exact ⟨_, Tree.writeText_of_steps (by decide) (hasZero_eq_false (by decide)) hzero hmade rfl rfl⟩
  obtain ⟨moved, hmoved⟩ := hwrite a.content
  exact implementationResult_eq (hpath ▸ hread) hmerge (hpath ▸ hmoved)

section Generate

variable {root : Path} {t : Tree} {r : Request}

/-- A dry run of a request without a template directory, whose files have short names, foretells the
run on disk if no write of that fails. Double dots of the root have to lead through directories that
are there. -/
theorem generate_foretold {l : Location} {text : Option String} (hrooted : t.IsRooted)
    (hroot : t.LeadsTo root l) (hfields : r.fields = .descriptor text)
    (htemplates : ∀ e, r.readEntity t = .ok e → e.settings.templateDir = .null)
    (hdatabase : ∀ e, r.readEntity t = .ok e → '/' ∉ e.settings.database.text.toList)
    (hshort : ∀ e layers, r.readEntity t = .ok e → Roster.builtin.select r.layers = .ok layers →
      ∀ p ∈ layers.flatMap (Layer.pieces e), (p.sourceFile e).utf8ByteSize ≤ Tree.longestName)
    (hwrites : r.failedWrites .builtin (.disk root) { tree := t } = []) :
    r.IsForetold root t := by
  cases he : r.readEntity t with
  | error f => exact isForetold_of_fault (f := f) fun s => by rw [generate, he]
  | ok e =>
    have hdir := htemplates e he
    cases hlayers : Roster.builtin.select r.layers with
    | error f =>
      have hpress : e.settings.press t = (t, .ok (.create none)) := by
        rw [Settings.press, hdir]
      exact isForetold_of_fault (f := .layers f) fun s => by
        simp only [generate, he, hpress, hlayers]
    | ok layers =>
      cases hadvice : e.settings.warnings t with
      | error f =>
        exact isForetold_of_fault (f := .advice f) fun s => by
          rw [generate_eq (w := { tree := t }) he hdir hlayers, hadvice]
      | ok advice =>
        have hbegins : r.Begins t e layers advice := ⟨he, hdir, hlayers, hadvice⟩
        have hdescribed := isDescribed_of_readEntity hfields he
        obtain ⟨found, hmodule⟩ := moduleAdvice_of_warnings hadvice
        have hstart : Mirrors root e (layers.flatMap (Layer.pieces e)) { tree := t } { tree := t } :=
          ⟨hrooted, ⟨l, hroot⟩, fun _ _ => rfl, by simp [OrderedMap.get?]⟩
        rw [hbegins.failedWrites_eq] at hwrites
        refine hbegins.isForetold (runPieces_foretells (Piece.exists_declares hdescribed hmodule)
          (fun _ => return_not_mem_entity hdescribed (isTagged_of_readEntity he)) (fun p hp => ?_)
          (pairwise_pieces (sublist_of_select hlayers) e) hstart Press.isBuiltin_create
          Press.isBuiltin_create hwrites)
        exact isNamed_of_slash hdescribed (hdatabase e he) (hshort e layers he hlayers p hp)

theorem leadsTo_here : ({} : Tree).LeadsTo .here [] :=
  ⟨[], [], [], rfl, by simp, rfl, rfl, rfl⟩

theorem isRooted_nil : ({} : Tree).IsRooted := Tree.isRooted_of_entries (by simp)

/-- The run on disk has nothing in its way in an empty directory, so its dry run foretells it. -/
theorem generate_foretold_product :
    (repositoryRequest "postgres").failedWrites .builtin (.disk .here) {} = [] ∧
      (repositoryRequest "postgres").IsForetold .here {} := by
  obtain ⟨e, advice, hbegins, hsettings, hbase⟩ :=
    begins_repositoryRequest (d := "postgres") (by decide +kernel) {}
  have heq {e'} (he' : (repositoryRequest "postgres").readEntity {} = .ok e') : e' = e :=
    Except.ok.inj (he'.symm.trans hbegins.entity)
  have hread : ({} : Tree).readText? (Path.here / Piece.repositoryImplementation.path e) = .ok none := by
    have habsent : ({} : Tree).find (Tree.below .here
        ["internal", "repository", "postgres" ++ "_product_repository.go"]) = .error .absent := rfl
    rw [path_implementation _ hsettings hbase (by decide), Tree.readText?_of_absent habsent]
  have hwrites : (repositoryRequest "postgres").failedWrites .builtin (.disk .here) {} = [] := by
    obtain ⟨o, ho⟩ := implementationResult_interfaces _ hsettings hbase
    rw [(repository_run hbegins readText?_interfaces hread (writeText_interfaces _)).1, ho]
    rfl
  refine ⟨hwrites, generate_foretold isRooted_nil leadsTo_here rfl (fun e' he' => ?_)
    (fun e' he' => ?_) (fun e' layers he' hlayers p hp => ?_) hwrites⟩
  · rw [heq he', hsettings]
  · rw [heq he', hsettings]
    decide
  · obtain rfl := heq he'
    obtain rfl : [Layer.repository] = layers := Except.ok.inj (hbegins.select.symm.trans hlayers)
    simp only [List.flatMap_cons, Layer.pieces, List.flatMap_nil, List.append_nil, List.mem_cons,
      List.not_mem_nil, or_false] at hp
    rcases hp with rfl | rfl
    · exact (by decide : "interfaces.go".utf8ByteSize ≤ Tree.longestName)
    · rw [(sourceFile_implementation hsettings hbase).2]
      decide

/-- The request is read, with no template directory and a database that leads into no folder, and
the operating system refuses no write of the run on disk. -/
structure Request.IsUnrefused (root : Path) (t : Tree) (r : Request) : Prop where
  rooted : t.IsRooted
  entity : ∃ e, r.readEntity t = .ok e ∧ e.settings.templateDir = .null ∧
    '/' ∉ e.settings.database.text.toList
  writes : ∀ f ∈ r.failedWrites .builtin (.disk root) { tree := t }, f = .zeroCharacter

/-- The run on disk writes the interfaces, and what comes of the implementation is not that it is
created. -/
theorem unrefused_not_foretold {d : String} {e : Entity} {advice : List String} {moved : Tree}
    {result : Except PieceFault MergeOutcome} (hrooted : t.IsRooted)
    (h : (repositoryRequest d).Begins t e [.repository] advice)
    (hsettings : e.settings = { database := .str d }) (hslash : '/' ∉ d.toList)
    (hinterfaces : t.readText? (root / interfacesPath) = .ok none)
    (himplementation : t.readText? (root / Piece.repositoryImplementation.path e) = .ok none)
    (hwrite : t.writeText (root / interfacesPath) (Piece.repositoryInterface.share e).freshFile =
      (moved, none)) (hresult : implementationResult root e moved = result)
    (hwrites : ∀ f, failedWrite? result = some f → f = .zeroCharacter)
    (hother : result ≠ .ok { path := Piece.repositoryImplementation.path e, action := .created }) :
    (repositoryRequest d).IsUnrefused root t ∧ ¬ (repositoryRequest d).IsForetold root t := by
  subst hresult
  obtain ⟨hfailed, hmissed⟩ := repository_run h hinterfaces himplementation hwrite
  refine ⟨⟨hrooted, ⟨e, h.entity, by rw [hsettings], by rwa [hsettings]⟩, fun f hf => ?_⟩,
    hmissed hother⟩
  rw [hfailed, Option.mem_toList] at hf
  exact hwrites f hf

/-- The file of the implementation cannot be read under a name that is too long for a directory. -/
theorem not_foretold_long : (repositoryRequest longDatabase).IsUnrefused .here {} ∧
    ¬ (repositoryRequest longDatabase).IsForetold .here {} := by
  obtain ⟨e, advice, hbegins, hsettings, hbase⟩ :=
    begins_repositoryRequest (d := longDatabase) (by decide +kernel) {}
  have hslash : '/' ∉ longDatabase.toList := fun hmem =>
    absurd (eq_of_mem_longDatabase hmem) (by decide)
  have habsent : ({} : Tree).find (Tree.below .here
      ["internal", "repository", longDatabase ++ "_product_repository.go"]) = .error .absent := by
    rw [Tree.find_eq, if_neg (by decide +kernel)]
    rfl
  obtain ⟨f, hf⟩ := implementationResult_long
    (Piece.repositoryInterface.share e).freshFile.toUTF8 hsettings hbase
  refine unrefused_not_foretold isRooted_nil hbegins hsettings hslash readText?_interfaces ?_
    (writeText_interfaces _) hf (fun g hg => by cases hg) (by simp)
  rw [path_implementation _ hsettings hbase hslash, Tree.readText?_of_absent habsent]

/-- The file of the implementation cannot be written under a name with a zero character. -/
theorem not_foretold_zero : (repositoryRequest zeroDatabase).IsUnrefused .here {} ∧
    ¬ (repositoryRequest zeroDatabase).IsForetold .here {} := by
  obtain ⟨e, advice, hbegins, hsettings, hbase⟩ :=
    begins_repositoryRequest (d := zeroDatabase) (by decide +kernel) {}
  have hf := implementationResult_zero (Piece.repositoryInterface.share e).freshFile.toUTF8
    hsettings hbase
  refine unrefused_not_foretold isRooted_nil hbegins hsettings (by decide) readText?_interfaces ?_
    (writeText_interfaces _) hf (fun g hg => (Option.some.inj hg).symm) (by simp)
  rw [path_implementation _ hsettings hbase (by decide)]
  exact Tree.readText?_of_hasZero (by rw [Tree.hasZero_eq]; decide +kernel)

/-- The file of the implementation is there once a directory has been made, and is replaced. -/
theorem not_foretold_detour : (repositoryRequest "postgres").IsUnrefused detour implementationTree ∧
    ¬ (repositoryRequest "postgres").IsForetold detour implementationTree := by
  obtain ⟨e, advice, hbegins, hsettings, hbase⟩ :=
    begins_repositoryRequest (d := "postgres") (by decide +kernel) implementationTree
  have hf := implementationResult_detour (Piece.repositoryInterface.share e).freshFile.toUTF8
    hsettings hbase
  have hmissing : implementationTree.find (Tree.below detour
      ["internal", "repository", "postgres" ++ "_product_repository.go"]) = .error .absent := rfl
  have hrooted : implementationTree.IsRooted := Tree.isRooted_of_entries (by
    simp only [implementationTree, List.forall_mem_cons]
    exact ⟨rfl, rfl, rfl, by simp⟩)
  have habsent : implementationTree.find
      { segments := ["new", "..", "internal", "repository", "interfaces.go"] } =
        .error .absent := rfl
  refine unrefused_not_foretold hrooted hbegins hsettings (by decide) ?_ ?_
    (writeText_detour _) hf (fun g hg => by cases hg) (by simp)
  · rw [path_detour, Tree.readText?_of_absent habsent]
  · rw [path_implementation _ hsettings hbase (by decide), Tree.readText?_of_absent hmissing]

/-- Dry runs miss a name that is too long for its directory, a character that no name may have, and
a directory that the run on disk makes only by going through it. -/
theorem not_isForetold_repositoryRequest :
    ((repositoryRequest longDatabase).IsUnrefused .here {} ∧
      ¬ (repositoryRequest longDatabase).IsForetold .here {}) ∧
    ((repositoryRequest zeroDatabase).IsUnrefused .here {} ∧
      ¬ (repositoryRequest zeroDatabase).IsForetold .here {}) ∧
    ((repositoryRequest "postgres").IsUnrefused detour implementationTree ∧
      ¬ (repositoryRequest "postgres").IsForetold detour implementationTree) :=
  ⟨not_foretold_long, not_foretold_zero, not_foretold_detour⟩

end Generate

end GoScaffold
