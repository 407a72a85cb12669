/-
The workspace of a scan. All files are registered before the first one is read, and nothing else ever is, so documents
have the URIs of files. A document whose file came into the index says what a text with its URI says; any other is there
because some document required it, and is as its URI has it on disk. The edge that asked for it may be gone in the end:
a file whose path looks the same can have taken the place of the one that had it. Where all paths are texts this cannot
be, for then what is shown of a path leads to the file, and a document never changes but from a placeholder.
-/
import LuaAtlas.Proofs.Scan.Listing
import LuaAtlas.Proofs.Scan.Run

namespace LuaAtlas

open LuaAtlas.Syntax

/-- A document that a build adds besides its own is as its file has it, and some document requires it. -/
theorem Index.buildText_new {x : Index} {disk : Disk} {uri v : Uri} {text : String} {e : Document} (hv : v ≠ uri)
    (hx : x.document? v = none) (he : (x.buildText disk .workspace uri text).1.document? v = some e) :
    e.bare = x.onDisk disk v ∧ ∃ p g, (x.buildText disk .workspace uri text).1.document? p = some g ∧
      v ∈ (x.buildText disk .workspace uri text).1.targets g := by
  obtain ⟨d, hd⟩ := rebuild_self (x.register uri) uri text
  have hnone : ((x.register uri).rebuild .workspace uri text).1.document? v = none :=
    rebuild_none hv ((register_document? x uri v).trans hx) text
  have hframe := rebuild_frame (x.register uri) uri text
  rw [buildText_workspace] at he ⊢
  obtain ⟨hbare, p, g, hg, ht⟩ := link_new hd hnone he
  refine ⟨?_, p, g, hg, ?_⟩
  · rw [hbare, onDisk_congr (hframe.config.trans (register_config x uri))]
  · rw [targets_congr (link_frame hd).modules rfl]
    exact ht

namespace Scan

open Index (registered Sound Frame Listed)

/-- The URI is asked for while the files are read: after some of them a document of the workspace requires it. -/
def Sought (disk : Disk) (config : Config) (files : List OsText) (u : Uri) : Prop :=
  ∃ done y results, done <+: files ∧
    indexEach? disk .workspace (registerAll (.empty config) files) done = some (y, results) ∧
    ∃ e ∈ y.workspace.documents, ∃ r ∈ e.requires, y.resolve? r.targetModule = some u

/-- The URI is that of files none of which can be read, and it is asked for. -/
def Missed (disk : Disk) (config : Config) (files : List OsText) (u : Uri) : Prop :=
  (∃ p ∈ files, Uri.ofPath p = u) ∧
    (∀ p ∈ files, Uri.ofPath p = u → ∃ cause, disk.readSource p config.maxFileSize = .error cause) ∧
    Sought disk config files u

/-- The text is that of a file with this URI, or of what the path of the URI leads to. -/
def Given (disk : Disk) (config : Config) (files : List OsText) (u : Uri) (text : String) : Prop :=
  (∃ p ∈ files, Uri.ofPath p = u ∧ disk.readSource p config.maxFileSize = .ok text) ∨
    (Index.empty config).diskText? disk u = some text

variable {disk : Disk} {config : Config} {files done : List OsText} {y : Index} {results : List FileResult}

theorem registerAll_eq (config : Config) (files : List OsText) :
    registerAll (.empty config) files = registered config (files.map .ofPath) := by
  unfold registerAll registered Index.run
  rw [List.map_map, List.foldl_map]
  rfl

/-- The workspace after some of the files. -/
structure Scanned (disk : Disk) (config : Config) (files : List OsText) (y : Index) (results : List FileResult) :
    Prop where
  sound : Sound y
  frame : Frame (registered config (files.map .ofPath)) y
  listed : ∀ v, Listed y v
  content : ∀ u d, y.document? u = some d → indexed results u = true →
    ∃ text, Given disk config files u text ∧ d.bare = .build .workspace u (parse text)
  loaded : ∀ u d, y.document? u = some d → indexed results u = false →
    d.bare = (Index.empty config).onDisk disk u ∧ Sought disk config files u

theorem Scanned.config_eq (h : Scanned disk config files y results) : y.config = config :=
  h.frame.config.trans (Index.registered_config ..)

/-- Every file finds its module registered. -/
theorem Scanned.register (h : Scanned disk config files y results) {path : OsText} (hp : path ∈ files) :
    y.register (.ofPath path) = y := by
  have hstart : (registered config (files.map .ofPath)).isRegistered (.ofPath path) = true :=
    Index.run_register_isRegistered _ _ _ (.inl (List.mem_map_of_mem hp))
  refine Index.register_of_isRegistered ?_
  unfold Index.isRegistered at hstart ⊢
  rw [h.frame.modules]
  exact hstart

theorem scanned_start : Scanned disk config files (registerAll (.empty config) files) [] := by
  rw [registerAll_eq]
  have hnone : ∀ v, (registered config (files.map .ofPath)).document? v = none := fun v =>
    congrArg (·.find? v) (Index.registered_library config _ .workspace)
  refine ⟨Index.sound_run config _, Frame.refl _, fun v d hd => ?_, fun u d hd => ?_, fun u d hd => ?_⟩ <;>
    rw [hnone] at hd <;> cases hd

/-- A complete document is that of a text. -/
theorem Scanned.given (h : Scanned disk config files y results) {u : Uri} {d : Document} (hd : y.document? u = some d)
    (hcomplete : d.state = .complete) :
    ∃ text, Given disk config files u text ∧ d.bare = .build .workspace u (parse text) := by
  cases hindexed : indexed results u with
  | true => exact h.content u d hd hindexed
  | false =>
    obtain ⟨hbare, -⟩ := h.loaded u d hd hindexed
    cases htext : (Index.empty config).diskText? disk u with
    | some text => exact ⟨text, .inr htext, hbare.trans (Index.onDisk_readable htext)⟩
    | none =>
      rw [Index.onDisk_unreadable htext] at hbare
      rw [← show d.bare.state = d.state from rfl, hbare] at hcomplete
      cases hcomplete

/-- The next file keeps the invariant. -/
theorem Scanned.next (h : Scanned disk config files y results) {path : OsText} (hsub : done ++ [path] <+: files)
    (hrun : indexEach? disk .workspace (registerAll (.empty config) files) done = some (y, results))
    (hnext : indexEach? disk .workspace (registerAll (.empty config) files) (done ++ [path]) =
      some ((indexFile disk .workspace y path).1, results ++ [(indexFile disk .workspace y path).2])) :
    Scanned disk config files (indexFile disk .workspace y path).1
      (results ++ [(indexFile disk .workspace y path).2]) := by
  have hp : path ∈ files := hsub.subset (List.mem_append_right _ (List.mem_singleton_self path))
  have hindexed := indexed_concat results (indexFile disk .workspace y path).2
  rw [indexFile_uri] at hindexed
  cases hread : disk.readSource path y.config.maxFileSize with
  | error cause =>
    obtain ⟨hsame, hsuccess, -⟩ := indexFile_unreadable .workspace hread
    simp only [hsuccess, Bool.false_and, Bool.or_false] at hindexed
    rw [hsame]
    exact ⟨h.sound, h.frame, h.listed, fun u d hd hi => h.content u d hd (hindexed u ▸ hi),
      fun u d hd hi => h.loaded u d hd (hindexed u ▸ hi)⟩
  | ok text =>
    have hsuccess := (indexFile_isSuccess_iff disk .workspace y path).2 ⟨text, hread⟩
    obtain ⟨d₀, -, hfile⟩ := indexFile_readable .workspace hread
    have hindex : (indexFile disk .workspace y path).1 = (y.buildText disk .workspace (.ofPath path) text).1 := by
      rw [hfile]
    simp only [hsuccess, Bool.true_and] at hindexed
    rw [hindex] at hnext ⊢
    have hreg := h.register hp
    refine ⟨h.sound.buildText .., h.frame.trans ?_, Index.buildText_all_listed h.listed hreg disk text,
      fun u d hd hi => ?_, fun u d hd hi => ?_⟩
    · have hframe := Index.buildText_frame y disk (.ofPath path) text
      rwa [hreg] at hframe
    · by_cases hu : u = Uri.ofPath path
      · subst hu
        obtain ⟨e, he, hbare⟩ := Index.buildText_source y disk .workspace (.ofPath path) text
        cases hd.symm.trans he
        rcases hbare with hbare | ⟨c, hc, hcomplete, hbare⟩
        · exact ⟨text, .inl ⟨path, hp, rfl, h.config_eq ▸ hread⟩, hbare⟩
        · obtain ⟨before, hgiven, hbefore⟩ := h.given hc hcomplete
          exact ⟨before, hgiven, hbare.trans hbefore⟩
      · rw [hindexed, decide_eq_false (Ne.symm hu), Bool.or_false] at hi
        obtain ⟨s, hs, rfl⟩ := exists_lasting hi
        obtain ⟨c, hc, -⟩ := run_found hrun s hs
        obtain ⟨e, he, hrelisted⟩ := Index.buildText_other hu hc disk text
        cases hd.symm.trans he
        obtain ⟨before, hgiven, hbefore⟩ := h.content s.uri c hc hi
        exact ⟨before, hgiven, hrelisted.bare.trans hbefore⟩
    · rw [hindexed, Bool.or_eq_false_iff, decide_eq_false_iff_not] at hi
      have hu : u ≠ Uri.ofPath path := fun heq => hi.2 heq.symm
      cases hc : y.document? u with
      | some c =>
        obtain ⟨e, he, hrelisted⟩ := Index.buildText_other hu hc disk text
        cases hd.symm.trans he
        obtain ⟨hbare, hsought⟩ := h.loaded u c hc hi.1
        exact ⟨hrelisted.bare.trans hbare, hsought⟩
      | none =>
        obtain ⟨hbare, p, g, hg, ht⟩ := Index.buildText_new hu hc hd
        refine ⟨?_, _, _, _, hsub, hnext, g, (Index.document?_mem hg).1, Index.mem_targets.1 ht⟩
        rw [hbare]
        exact Index.onDisk_congr (x := Index.empty config) h.config_eq disk u

theorem scanned_of_run (hsub : done <+: files)
    (h : indexEach? disk .workspace (registerAll (.empty config) files) done = some (y, results)) :
    Scanned disk config files y results :=
  run_induction (P := fun done y results => done <+: files → Scanned disk config files y results)
    (fun _ => scanned_start)
    (fun done _ _ path ih hrun hnext hsub =>
      (ih ((List.prefix_append done [path]).trans hsub)).next hsub hrun hnext)
    done h hsub

/-! ## Documents without a file -/

theorem Sought.listed {u : Uri} (h : Sought disk config files u) : ∃ p ∈ files, Uri.ofPath p = u := by
  obtain ⟨done, y, results, hsub, hrun, e, -, r, hr, ht⟩ := h
  have hscanned := scanned_of_run hsub hrun
  have htarget : u ∈ y.targets e := Index.mem_targets.2 ⟨r, hr, ht⟩
  rw [Index.targets_congr hscanned.frame.modules rfl] at htarget
  exact List.mem_map.1 (Index.registered_targets htarget)

/-- What is asked for is there in the end. -/
theorem Sought.present {u : Uri} (hsought : Sought disk config files u)
    (h : indexEach? disk .workspace (registerAll (.empty config) files) files = some (y, results)) :
    ∃ d, y.document? u = some d := by
  obtain ⟨done, z, before, ⟨rest, rfl⟩, hrun, e, he, r, hr, ht⟩ := hsought
  have hscanned := scanned_of_run (List.prefix_append done rest) hrun
  obtain ⟨d, hd, -⟩ := hscanned.listed e.uri e (hscanned.sound.document? he) u (Index.mem_targets.2 ⟨r, hr, ht⟩)
  obtain ⟨z', before', after, hrun', hrest, -⟩ := indexEach?_append.1 h
  cases hrun.symm.trans hrun'
  exact run_present .workspace hd hrest

section

variable (h : indexEach? disk .workspace (registerAll (.empty config) files) files = some (y, results))
include h

theorem indexed_eq_false_iff {u : Uri} : indexed results u = false ↔
    ∀ p ∈ files, Uri.ofPath p = u → ∃ cause, disk.readSource p config.maxFileSize = .error cause := by
  have hiff := run_indexed_iff h u
  have hconfig : (registerAll (.empty config) files).config = config := by
    rw [registerAll_eq, Index.registered_config]
  rw [hconfig] at hiff
  rw [← Bool.not_eq_true, hiff]
  constructor
  · intro hnone p hp hu
    cases hread : disk.readSource p config.maxFileSize with
    | error cause => exact ⟨cause, rfl⟩
    | ok text => exact absurd ⟨p, hp, hu, text, hread⟩ hnone
  · rintro hall ⟨p, hp, hu, text, hread⟩
    obtain ⟨cause, hcause⟩ := hall p hp hu
    rw [hread] at hcause
    cases hcause

/-- The documents without a file that came into the index are those of the missed URIs. -/
theorem missed_iff {u : Uri} :
    (∃ d, y.document? u = some d ∧ indexed results u = false) ↔ Missed disk config files u := by
  rw [indexed_eq_false_iff h]
  constructor
  · rintro ⟨d, hd, hunreadable⟩
    obtain ⟨-, hsought⟩ := (scanned_of_run (List.prefix_refl files) h).loaded u d hd
      ((indexed_eq_false_iff h).2 hunreadable)
    exact ⟨hsought.listed, hunreadable, hsought⟩
  · rintro ⟨-, hunreadable, hsought⟩
    obtain ⟨d, hd⟩ := hsought.present h
    exact ⟨d, hd, hunreadable⟩

/-- The placeholders are the documents without a file whose URI leads to nothing on disk. -/
theorem placeholder_iff {u : Uri} {d : Document} (hd : y.document? u = some d) :
    d.state = .placeholder ↔ indexed results u = false ∧ (Index.empty config).diskText? disk u = none := by
  have hscanned := scanned_of_run (List.prefix_refl files) h
  have hstate : d.bare.state = d.state := rfl
  cases hindexed : indexed results u with
  | true =>
    obtain ⟨text, -, hbare⟩ := hscanned.content u d hd hindexed
    rw [← hstate, hbare]
    simp [Document.build_ne_placeholder]
  | false =>
    obtain ⟨hbare, -⟩ := hscanned.loaded u d hd hindexed
    rw [← hstate, hbare]
    cases htext : (Index.empty config).diskText? disk u with
    | some text => simp [Index.onDisk_readable htext, Document.build_ne_placeholder]
    | none => simp [Index.onDisk_unreadable htext, Document.placeholder]

end

/-! ## Paths that are texts -/

theorem diskText?_ofPath (x : Index) (disk : Disk) (name : String) :
    x.diskText? disk (.ofPath name) = (disk.readSource name x.config.maxFileSize).toOption := by
  unfold Index.diskText?
  rw [Uri.path?_ofPath, Option.bind_some, OsText.shown_ofString]

section

variable (htext : ∀ p ∈ files, ∃ name : String, p = OsText.ofString name)
include htext

/-- The URI of a file leads to the file. -/
theorem Given.diskText? {u : Uri} {text : String} (h : Given disk config files u text) :
    (Index.empty config).diskText? disk u = some text := by
  rcases h with ⟨p, hp, rfl, hread⟩ | h
  · obtain ⟨name, rfl⟩ := htext p hp
    rw [diskText?_ofPath]
    exact congrArg Except.toOption hread
  · exact h

/-- A document is as its URI has it on disk at every moment. -/
theorem Scanned.bare_eq (h : Scanned disk config files y results) {u : Uri} {d : Document}
    (hd : y.document? u = some d) : d.bare = (Index.empty config).onDisk disk u := by
  cases hindexed : indexed results u with
  | true =>
    obtain ⟨text, hgiven, hbare⟩ := h.content u d hd hindexed
    rw [hbare, Index.onDisk_readable (hgiven.diskText? htext)]
  | false => exact (h.loaded u d hd hindexed).1

/-- Who asks for a URI still requires it in the end. -/
theorem sought_iff {u : Uri}
    (h : indexEach? disk .workspace (registerAll (.empty config) files) files = some (y, results)) :
    Sought disk config files u ↔
      ∃ e ∈ y.workspace.documents, ∃ r ∈ e.requires, y.resolve? r.targetModule = some u := by
  constructor
  · rintro ⟨done, z, before, ⟨rest, rfl⟩, hrun, e, he, r, hr, ht⟩
    have hscanned := scanned_of_run (List.prefix_refl _) h
    have hbefore := scanned_of_run (List.prefix_append done rest) hrun
    have hfind := hbefore.sound.document? he
    obtain ⟨z', before', after, hrun', hrest, -⟩ := indexEach?_append.1 h
    cases hrun.symm.trans hrun'
    obtain ⟨e', he'⟩ := run_present .workspace hfind hrest
    have hbare : e'.bare = e.bare := (hscanned.bare_eq htext he').trans (hbefore.bare_eq htext hfind).symm
    have htargets : y.targets e' = z.targets e :=
      Index.targets_congr (hscanned.frame.modules.trans hbefore.frame.modules.symm) hbare
    refine ⟨e', (Index.document?_mem he').1, Index.mem_targets.1 ?_⟩
    rw [htargets]
    exact Index.mem_targets.2 ⟨r, hr, ht⟩
  · rintro ⟨e, he, hr⟩
    exact ⟨files, y, results, List.prefix_refl files, h, e, he, hr⟩

end

end Scan

end LuaAtlas
