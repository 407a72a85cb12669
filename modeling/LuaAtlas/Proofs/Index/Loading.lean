/-
Loading what a document requires. The link loop is told here with its reading of files left open, so that the reads
can be written down as they happen, and without fuel, as a relation of rounds. Every run of rounds is short: a round
needs a pending document, a document only becomes pending when it is loaded, and only registered modules without a
document are loaded. For the same reason no file is read twice, and none of a document that is there.
-/
import LuaAtlas.Proofs.Index.Resolution

namespace LuaAtlas.Index

open LuaAtlas.Syntax

/-! ## Linking with the reading left open -/

section Reading

variable {m : Type → Type} [Monad m] (read : Uri → m (Option String))

/-- Makes sure that a required document exists; a text that `read` does not give makes a placeholder. -/
def linkTargetWith (uri : Uri) (x : Index) (target : Uri) : m (Index × List Uri) :=
  if x.workspace.contains target then
    pure (x.changeDocument target (·.addReference uri), [])
  else do
    match ← read target with
    | some text =>
      return ((x.rebuild .workspace target text).1.changeDocument target (·.addReference uri), [target])
    | none =>
      return ({ x with workspace := x.workspace.insert (.placeholder target) }.changeDocument target
        (·.addReference uri), [])

/-- Links all that the document of `uri` requires, and gives the documents that were loaded. -/
def linkRequiresWith (x : Index) (uri : Uri) : m (Index × List Uri) :=
  match x.document? uri with
  | none => pure (x, [])
  | some d =>
    (x.targets d).foldlM
      (fun (y, loaded) t => do
        let (z, more) ← linkTargetWith read uri y t
        return (z, loaded ++ more))
      (x, [])

end Reading

/-- Reads the file of a URI and writes the URI down. -/
def readLogged (x : Index) (disk : Disk) (uri : Uri) : StateM (List Uri) (Option String) := do
  modify (· ++ [uri])
  return x.diskText? disk uri

theorem load?_eq (x : Index) (disk : Disk) (uri : Uri) :
    x.load? disk uri = (x.diskText? disk uri).map fun text => (x.rebuild .workspace uri text).1 := by
  unfold load? diskText?
  cases uri.path? with
  | none => rfl
  | some path =>
    simp only [bind, pure, Option.bind]
    cases (disk.readSource path x.config.maxFileSize).toOption <;> rfl

/-- With the reads written down, a target is linked as ever, and its file is read if it has no document. -/
theorem linkTargetWith_logged (x : Index) (disk : Disk) (uri t : Uri) (log : List Uri) :
    (linkTargetWith (x.readLogged disk) uri x t).run log =
      (linkTarget disk uri x t, log ++ if x.workspace.contains t then [] else [t]) := by
  unfold linkTargetWith linkTarget
  split
  · rw [List.append_nil]; rfl
  · rw [load?_eq]
    cases h : x.diskText? disk t with
    | none => simp [readLogged, h]; rfl
    | some text => simp [readLogged, h]; rfl

theorem readLogged_congr {x y : Index} (h : y.config = x.config) (disk : Disk) :
    y.readLogged disk = x.readLogged disk := by
  funext uri
  unfold readLogged
  rw [diskText?_congr h]

/-- `reads` are the targets that have no document, each once. -/
structure ReadFor (x : Index) (ts reads : List Uri) : Prop where
  nodup : reads.Nodup
  mem_iff : ∀ v, v ∈ reads ↔ v ∈ ts ∧ x.document? v = none

theorem readFor_target (x : Index) (t : Uri) : ReadFor x [t] (if x.workspace.contains t then [] else [t]) := by
  have hcontains : x.workspace.contains t = true ↔ x.document? t ≠ none := by
    rw [Library.contains_iff, Option.ne_none_iff_exists']
    rfl
  split
  · rename_i h
    refine ⟨List.nodup_nil, fun v => ?_⟩
    simp only [List.not_mem_nil, List.mem_singleton, false_iff]
    rintro ⟨rfl, hnone⟩
    exact hcontains.1 h hnone
  · rename_i h
    refine ⟨List.nodup_singleton t, fun v => ?_⟩
    rw [hcontains, not_not] at h
    constructor
    · intro hv
      exact ⟨hv, List.mem_singleton.1 hv ▸ h⟩
    · rintro ⟨hv, -⟩
      exact hv

theorem ReadFor.append {disk : Disk} {uri : Uri} {ts ts' loaded reads reads' : List Uri} {x y : Index}
    (h : ReadFor x ts reads) (hl : Linked disk uri ts x y loaded) (h' : ReadFor y ts' reads') :
    ReadFor x (ts ++ ts') (reads ++ reads') := by
  refine ⟨List.nodup_append.2 ⟨h.nodup, h'.nodup, ?_⟩, fun v => ?_⟩
  · rintro a ha b hb rfl
    exact (hl.none_iff.1 ((h'.mem_iff a).1 hb).2).1 ((h.mem_iff a).1 ha).1
  · rw [List.mem_append, List.mem_append, h.mem_iff, h'.mem_iff, hl.none_iff]
    by_cases hv : v ∈ ts <;> simp [hv]

theorem foldlM_logged (disk : Disk) (uri : Uri) : ∀ (ts : List Uri) (x : Index) (acc log : List Uri),
    ∃ y loaded reads,
      (ts.foldlM (fun (y, loaded) t => do
        let (z, more) ← linkTargetWith (x.readLogged disk) uri y t
        return (z, loaded ++ more)) (x, acc)).run log = ((y, acc ++ loaded), log ++ reads) ∧
      ts.foldl (fun (y, loaded) t =>
        let (z, more) := linkTarget disk uri y t
        (z, loaded ++ more)) (x, acc) = (y, acc ++ loaded) ∧
      Linked disk uri ts x y loaded ∧ ReadFor x ts reads
  | [], x, acc, log => ⟨x, [], [], by simp; rfl, by simp, Linked.refl disk uri x, List.nodup_nil, by simp⟩
  | t :: ts, x, acc, log => by
    have hl := linkTarget_linked disk uri x t
    obtain ⟨y, loaded, reads, hrun, hfold, hl', hr'⟩ := foldlM_logged disk uri ts (linkTarget disk uri x t).1
      (acc ++ (linkTarget disk uri x t).2) (log ++ if x.workspace.contains t then [] else [t])
    rw [readLogged_congr hl.frame.config] at hrun
    refine ⟨y, (linkTarget disk uri x t).2 ++ loaded, (if x.workspace.contains t then [] else [t]) ++ reads, ?_, ?_,
      hl.append hl', (readFor_target x t).append hl hr'⟩
    · rw [List.foldlM_cons, ← List.append_assoc, ← List.append_assoc, ← hrun, StateT.run_bind, StateT.run_bind,
        linkTargetWith_logged]
      rfl
    · rw [List.foldl_cons, ← List.append_assoc, ← hfold]

/-- With the reads written down, the requires of a document are linked as ever, and the files of the targets without
a document are read. -/
theorem linkRequiresWith_logged (disk : Disk) {x : Index} {uri : Uri} {d : Document} (hd : x.document? uri = some d)
    (log : List Uri) : ∃ reads, ReadFor x (x.targets d) reads ∧
      (linkRequiresWith (x.readLogged disk) x uri).run log = (linkRequires disk x uri, log ++ reads) := by
  obtain ⟨y, loaded, reads, hrun, hfold, -, hr⟩ := foldlM_logged disk uri (x.targets d) x [] log
  refine ⟨reads, hr, ?_⟩
  unfold linkRequiresWith linkRequires
  rw [hd]
  dsimp only
  rw [hrun, hfold]

/-! ## Rounds -/

/-- The loop that links the document of `uri` in `x`: after rounds for the documents `linked`, in which the files
`reads` were read, it has come to `y`, and the documents `pending` are still to be linked. It ends when there are
none. -/
inductive LinkRun (disk : Disk) (uri : Uri) (x : Index) : List Uri → List Uri → List Uri → Index → Prop
  | start : LinkRun disk uri x [] [] [uri] x
  | round {linked reads pending u y z loaded reads'} : LinkRun disk uri x linked reads (pending ++ [u]) y →
      (linkRequiresWith (y.readLogged disk) y u).run reads = ((z, loaded), reads') →
      LinkRun disk uri x (linked ++ [u]) reads' (pending ++ loaded) z

/-- What the rounds leave in force: there is at most one for the first document and each that was read; what was
read had no document, was registered, and has a document now; and all else has one only if it had. -/
structure Loading (disk : Disk) (x : Index) (linked reads pending : List Uri) (y : Index) : Prop where
  frame : Frame x y
  present : ∀ p ∈ pending, ∃ d, y.document? p = some d
  count : linked.length + pending.length ≤ 1 + reads.length
  nodup : reads.Nodup
  registered : reads ⊆ x.modules.map (·.2)
  fresh : ∀ v ∈ reads, x.document? v = none ∧ ∃ e, y.document? v = some e ∧ e.bare = x.onDisk disk v
  old : ∀ v d, x.document? v = some d → ∃ e, y.document? v = some e

theorem loading_start (disk : Disk) {x : Index} {uri : Uri} {d : Document} (hd : x.document? uri = some d) :
    Loading disk x [] [] [uri] x := by
  refine ⟨Frame.refl x, fun p hp => ?_, Nat.le_refl _, List.nodup_nil, List.nil_subset _, by simp, fun v e he => ⟨e, he⟩⟩
  rw [List.mem_singleton.1 hp]
  exact ⟨d, hd⟩

theorem Loading.round {disk : Disk} {x y z : Index} {linked reads pending loaded reads' : List Uri} {u : Uri}
    (h : Loading disk x linked reads (pending ++ [u]) y)
    (hrun : (linkRequiresWith (y.readLogged disk) y u).run reads = ((z, loaded), reads')) :
    Loading disk x (linked ++ [u]) reads' (pending ++ loaded) z := by
  obtain ⟨d, hd⟩ := h.present u (by simp)
  obtain ⟨more, hmore, hrun'⟩ := linkRequiresWith_logged disk hd reads
  have hl := linkRequires_linked disk hd
  rw [hrun] at hrun'
  injection hrun' with hlinked hreads
  rw [← hlinked] at hl
  subst hreads
  have hnone : ∀ v, y.document? v = none → x.document? v = none := by
    intro v hv
    cases hx : x.document? v with
    | none => rfl
    | some e =>
      obtain ⟨e', he'⟩ := h.old v e hx
      rw [hv] at he'
      cases he'
  -- what is loaded was read, so a new pending document is paid for by a read
  have hpaid : loaded.length ≤ more.length := by
    refine (List.subperm_of_subset hl.nodup fun v hv => ?_).length_le
    obtain ⟨ht, hnew, -⟩ := (hl.loaded_iff v).1 hv
    exact (hmore.mem_iff v).2 ⟨ht, hnew⟩
  have hpresent := hl.present fun p hp => h.present p (List.mem_append_left _ hp)
  refine ⟨h.frame.trans hl.frame, hpresent, ?_, List.nodup_append.2 ⟨h.nodup, hmore.nodup, ?_⟩, ?_, fun v hv => ?_,
    fun v e he => ?_⟩
  · have hcount := h.count
    simp only [List.length_append, List.length_singleton] at hcount ⊢
    omega
  · rintro a ha b hb rfl
    obtain ⟨-, e, he, -⟩ := h.fresh a ha
    rw [((hmore.mem_iff a).1 hb).2] at he
    cases he
  · refine List.append_subset.2 ⟨h.registered, fun v hv => ?_⟩
    rw [← h.frame.modules]
    exact targets_subset y d ((hmore.mem_iff v).1 hv).1
  · rcases List.mem_append.1 hv with hv | hv
    · obtain ⟨hx, e, he, hb⟩ := h.fresh v hv
      obtain ⟨e', he', hb'⟩ := hl.old_bare he
      exact ⟨hx, e', he', hb'.trans hb⟩
    · obtain ⟨ht, hy⟩ := (hmore.mem_iff v).1 hv
      obtain ⟨e, he, -⟩ := hl.target ht
      obtain ⟨-, rfl⟩ := hl.new hy he
      refine ⟨hnone v hy, _, he, ?_⟩
      rw [Document.addReference_bare, onDisk_bare, onDisk_congr h.frame.config]
  · obtain ⟨e', he'⟩ := h.old v e he
    exact ⟨_, hl.old he'⟩

theorem LinkRun.loading {disk : Disk} {uri : Uri} {x y : Index} {linked reads pending : List Uri} {d : Document}
    (hd : x.document? uri = some d) (h : LinkRun disk uri x linked reads pending y) :
    Loading disk x linked reads pending y := by
  induction h with
  | start => exact loading_start disk hd
  | round _ hrun ih => exact ih.round hrun

/-- The rounds come to an end, where `link` does. -/
theorem exists_linkRun (disk : Disk) {x : Index} {uri : Uri} {d : Document} (hd : x.document? uri = some d) :
    ∃ linked reads, LinkRun disk uri x linked reads [] (link disk x uri) := by
  refine link_rounds (P := fun pending y => ∃ linked reads, LinkRun disk uri x linked reads pending y) hd ?_
    ⟨[], [], .start⟩
  rintro pending u e y ⟨linked, reads, h⟩ hu
  obtain ⟨more, -, hrun⟩ := linkRequiresWith_logged disk hu reads
  exact ⟨linked ++ [u], reads ++ more, h.round hrun⟩

/-! ## Modules that are not loaded -/

/-- Every URI is registered under its own module name, and no name twice. -/
structure Named (x : Index) : Prop where
  named : ∀ m ∈ x.modules, m.1 = m.2.moduleName
  nodup : (x.modules.map (·.1)).Nodup

theorem Named.register {x : Index} (h : Named x) (uri : Uri) : Named (x.register uri) := by
  refine ⟨fun m hm => ?_, ?_⟩
  · rcases mem_register hm with hm | rfl
    · exact h.named m hm
    · dsimp only
  · unfold Index.register
    split
    · exact h.nodup
    · rename_i hfree
      rw [List.map_append, List.map_singleton]
      refine List.nodup_append.2 ⟨h.nodup, List.nodup_singleton _, ?_⟩
      rintro a ha b hb rfl
      obtain ⟨m, hm, hname⟩ := List.mem_map.1 ha
      rw [List.mem_singleton.1 hb] at hname
      exact hfree (List.any_eq_true.2 ⟨m, hm, by simpa using hname⟩)

theorem Named.congr {x y : Index} (h : Named x) (hm : y.modules = x.modules) : Named y :=
  ⟨by rw [hm]; exact h.named, by rw [hm]; exact h.nodup⟩

theorem Named.step {x : Index} (h : Named x) (s : Step) : Named (x.step s) := by
  have hm := step_modules x s
  by_cases hf : s.forgets = true
  · rw [if_pos hf] at hm
    exact ⟨by simp [hm], by simp [hm]⟩
  · rw [if_neg hf] at hm
    cases hr : s.registers? x with
    | none =>
      rw [hr] at hm
      exact h.congr hm
    | some uri =>
      rw [hr] at hm
      exact (h.register uri).congr hm

theorem named_run (config : Config) (steps : List Step) : Named ((empty config).run steps) :=
  run_induction (P := Named) steps (fun _ s _ h => h.step s) _ ⟨by simp [empty], by simp [empty]⟩

/-- No registered URI without a document is counted twice. -/
theorem Named.unloaded_nodup {x : Index} (h : Named x) : x.unloaded.Nodup := by
  have hnames : x.modules.map (·.1) = (x.modules.map (·.2)).map (·.moduleName) := by
    rw [List.map_map]
    refine List.map_congr_left fun m hm => ?_
    rw [h.named m hm, Function.comp_apply]
  have hnodup := h.nodup
  rw [hnames] at hnodup
  exact (List.Nodup.of_map _ hnodup).filter _

/-- A registered URI without a document, when the text of `uri` has been put in, was one before, and is not `uri`. -/
theorem mem_unloaded_of_rebuild {x : Index} {uri v : Uri} {text : String}
    (hv : v ∈ ((x.register uri).rebuild .workspace uri text).1.modules.map (·.2))
    (hnone : ((x.register uri).rebuild .workspace uri text).1.document? v = none) : v ≠ uri ∧ v ∈ x.unloaded := by
  have hne : v ≠ uri := by
    rintro rfl
    obtain ⟨d, hd⟩ := rebuild_self (x.register v) v text
    rw [hnone] at hd
    cases hd
  unfold unloaded
  rw [List.mem_filter]
  refine ⟨hne, ?_, ?_⟩
  · rw [(rebuild_frame (x.register uri) uri text).modules] at hv
    obtain ⟨m, hm, rfl⟩ := List.mem_map.1 hv
    rcases mem_register hm with hm | rfl
    · exact List.mem_map_of_mem hm
    · exact absurd rfl hne
  · cases hx : x.document? v with
    | none => rfl
    | some e =>
      obtain ⟨_, -, he⟩ := rebuild_other hne ((register_document? x uri v).trans hx) text
      rw [hnone] at he
      cases he

/-- In every reachable index a build ends and reads no file twice. With its text at hand, a workspace build puts that
in and runs the link loop. However far the loop has come, its rounds so far and the documents still pending are at
most one for the built document and one for each other registered URI that had no workspace document. Each file it has
read is that of such a URI, is not read again, and has given the URI its document, or a placeholder. And the loop
comes to an end, with the outcome of the build. A build of a stub runs no loop. -/
theorem loading_ends_and_reads_once (config : Config) (steps : List Step) (disk : Disk) (uri : Uri)
    (text? : Option String) :
    let x := (empty config).run steps
    x.unloaded.Nodup ∧ ∀ text, x.sourceText disk uri text? = .ok text →
      (∀ shelf, shelf ≠ .workspace → x.build disk shelf uri text? =
        ((x.rebuild shelf uri text).1, .ok (x.rebuild shelf uri text).2)) ∧
      let start := (x.register uri).rebuild .workspace uri text
      (∀ linked reads pending y, LinkRun disk uri start.1 linked reads pending y →
        linked.length + pending.length ≤ 1 + (x.unloaded.filter (· ≠ uri)).length ∧ reads.Nodup ∧
        ∀ v ∈ reads, v ≠ uri ∧ v ∈ x.unloaded ∧ ∃ e, y.document? v = some e ∧ e.bare = x.onDisk disk v) ∧
      ∃ linked reads y, LinkRun disk uri start.1 linked reads [] y ∧
        x.build disk .workspace uri text? = (y, .ok start.2) := by
  intro x
  refine ⟨(named_run config steps).unloaded_nodup, fun text htext => ?_⟩
  obtain ⟨d, hd⟩ := rebuild_self (x.register uri) uri text
  refine ⟨fun shelf hs => ?_, fun linked reads pending y hrun => ?_, ?_⟩
  · rw [build_of_ok htext, buildText_stub x disk hs]
  · have h := hrun.loading hd
    have hread : ∀ v ∈ reads, v ≠ uri ∧ v ∈ x.unloaded := fun v hv =>
      mem_unloaded_of_rebuild (h.registered hv) (h.fresh v hv).1
    have hle : reads.length ≤ (x.unloaded.filter (· ≠ uri)).length := by
      refine (List.subperm_of_subset h.nodup fun v hv => ?_).length_le
      obtain ⟨hne, hv⟩ := hread v hv
      simp [hne, hv]
    have hcount := h.count
    refine ⟨by omega, h.nodup, fun v hv => ?_⟩
    obtain ⟨hne, hunloaded⟩ := hread v hv
    obtain ⟨-, e, he, hb⟩ := h.fresh v hv
    refine ⟨hne, hunloaded, e, he, ?_⟩
    rw [hb]
    refine onDisk_congr ?_ disk v
    exact (rebuild_frame (x.register uri) uri text).config.trans (register_config x uri)
  · obtain ⟨linked, reads, hrun⟩ := exists_linkRun disk hd
    refine ⟨linked, reads, _, hrun, ?_⟩
    rw [build_of_ok htext, ← buildText_workspace, ← buildText_state x disk uri text]

end LuaAtlas.Index
