/-
The numbers of a scan. They are taken file by file while the scan goes on; still they are those of the results and of
the index in the end. For one URI the last success tells the symbols of the document, and all other documents are there
by `require` alone, which only the workspace knows. A scan has no outcome only if some file on disk has a string whose
delimiters leave it cut inside a character.
-/
import LuaAtlas.Proofs.Scan.Workspace
import LuaAtlas.Proofs.Syntax.Ending
import Mathlib

namespace LuaAtlas

open LuaAtlas.Syntax

/-- A text that is read is that of a file that may be opened. -/
theorem Disk.exists_of_readSource {d : Disk} {path : OsText} {maxSize : Nat} {text : String}
    (h : d.readSource path maxSize = .ok text) : ∃ f ∈ d.openFiles, decode? f.2 = some text := by
  unfold readSource at h
  cases hlookup : d.lookup path with
  | error cause => rw [hlookup] at h; cases h
  | ok found =>
    obtain ⟨l, e⟩ := found
    rw [hlookup] at h
    cases e with
    | directory => cases h
    | file bytes =>
      dsimp only at h
      have hentry : d.entry? l = some (.file bytes) := by
        unfold lookup at hlookup
        cases hlocate : d.locate path with
        | error cause => rw [hlocate] at hlookup; cases hlookup
        | ok l' =>
          simp only [hlocate, bind, Except.bind] at hlookup
          split at hlookup
          · rename_i e he
            split at hlookup
            · cases hlookup
            · cases hlookup
              exact he
          · cases hlookup
      have hfile : (l, bytes) ∈ d.files := by
        unfold entry? at hentry
        split at hentry
        · rename_i l' bytes' hfind
          cases hentry
          have hl : l' = l := by simpa using List.find?_some hfind
          exact hl ▸ List.mem_of_find?_eq_some hfind
        · split at hentry <;> cases hentry
      split at h
      · cases h
      · rename_i hopen
        split at h
        · cases h
        · split at h
          · rename_i text' htext
            cases h
            exact ⟨(l, bytes), List.mem_filter.2 ⟨hfile, by simpa using hopen⟩, htext⟩
          · cases h

namespace Scan

variable {disk : Disk} {config : Config}

/-! ## Scans without an outcome -/

theorem exists_read_of_mem_parsedFor {shelf : Shelf} {x : Index} {path : OsText} {text : String}
    (h : text ∈ parsedFor disk shelf x path) : ∃ p maxSize, disk.readSource p maxSize = .ok text := by
  have hgiven : ∀ {given : String}, disk.readSource path x.config.maxFileSize = .ok given → text = given →
      ∃ p maxSize, disk.readSource p maxSize = .ok text := fun hread heq => ⟨path, _, heq ▸ hread⟩
  unfold parsedFor at h
  split at h
  · cases h
  · rename_i given hread
    unfold Index.parsedTexts at h
    split at h
    · rcases List.mem_cons.1 h with heq | h
      · exact hgiven hread heq
      · obtain ⟨u, -, htext⟩ := List.mem_filterMap.1 h
        unfold Index.diskText? at htext
        obtain ⟨p, -, htext⟩ := Option.bind_eq_some_iff.1 htext
        cases hp : disk.readSource p x.config.maxFileSize with
        | error cause => rw [hp] at htext; cases htext
        | ok found =>
          rw [hp] at htext
          cases htext
          exact ⟨p, _, hp⟩
    · exact hgiven hread (List.mem_singleton.1 h)

/-- The files end the program only at a text with a string that is cut inside a character. -/
theorem exists_cut_of_indexEach? (shelf : Shelf) : ∀ (paths : List OsText) (x : Index),
    indexEach? disk shelf x paths = none →
    ∃ f ∈ disk.openFiles, ∃ text, Disk.decode? f.2 = some text ∧ HasCut text.toList
  | path :: paths, x, h => by
    rw [indexEach?] at h
    split at h
    · rename_i hfatal
      obtain ⟨text, htext, hfatal⟩ := List.any_eq_true.1 hfatal
      obtain ⟨p, maxSize, hread⟩ := exists_read_of_mem_parsedFor htext
      obtain ⟨f, hf, hdecode⟩ := Disk.exists_of_readSource hread
      exact ⟨f, hf, text, hdecode, hasCut_of_isFatal hfatal⟩
    · refine exists_cut_of_indexEach? shelf paths (indexFile disk shelf x path).1 ?_
      cases hrest : indexEach? disk shelf (indexFile disk shelf x path).1 paths with
      | none => rfl
      | some r => simp [hrest] at h

/-- A scan has no outcome only if some file has a string that is cut inside a character. -/
theorem exists_cut_of_scan? {x : Index} {path : OsText} (h : scan? disk x path = none) :
    ∃ f ∈ disk.openFiles, ∃ text, Disk.decode? f.2 = some text ∧ HasCut text.toList := by
  have hfiles : ∀ {shelf : Shelf} {y : Index} {paths : List OsText}, indexFiles? disk shelf y paths = none →
      ∃ f ∈ disk.openFiles, ∃ text, Disk.decode? f.2 = some text ∧ HasCut text.toList := fun h =>
    exists_cut_of_indexEach? _ _ _ h
  unfold scan? at h
  cases hworkspace : indexFiles? disk .workspace x (filesFor disk x.config path .workspace) with
  | none => exact hfiles hworkspace
  | some r =>
    cases hstdlib : indexFiles? disk .stdlib r.1 (filesFor disk x.config path .stdlib) with
    | none => exact hfiles hstdlib
    | some r' =>
      cases huser : indexFiles? disk .user r'.1 (filesFor disk x.config path .user) with
      | none => exact hfiles huser
      | some r'' => simp [hworkspace, hstdlib, huser] at h

/-! ## Scans with an outcome -/

theorem indexFiles?_stubs {shelf : Shelf} (hs : shelf ≠ .workspace) (x : Index) (paths : List OsText) :
    indexFiles? disk shelf x paths = indexEach? disk shelf x paths := by
  unfold indexFiles?
  rw [if_neg hs]

/-- The parts of a scan: the files of the workspace, and the stubs of the others, which start from nothing. -/
structure Parts (disk : Disk) (config : Config) (path : OsText) (o : Outcome) (y : Index) : Prop where
  workspace : indexEach? disk .workspace (registerAll (.empty config) (filesFor disk config path .workspace))
    (filesFor disk config path .workspace) = some (y, o.results .workspace)
  documents : o.index.workspace = y.workspace
  modules : o.index.modules = y.modules
  stubs : ∀ shelf, shelf ≠ .workspace → ∃ x z, x.library shelf = .empty ∧
    indexEach? disk shelf x (filesFor disk config path shelf) = some (z, o.results shelf) ∧
    o.index.library shelf = z.library shelf

theorem exists_parts {path : OsText} {o : Outcome} (h : scan? disk (.empty config) path = some o) :
    ∃ y, Parts disk config path o y := by
  unfold scan? at h
  rw [show (Index.empty config).config = config from rfl] at h
  simp only [Option.bind_eq_bind, Option.bind_eq_some_iff, Prod.exists, indexFiles?_stubs (nofun : Shelf.stdlib ≠ .workspace),
    indexFiles?_stubs (nofun : Shelf.user ≠ .workspace)] at h
  obtain ⟨y, workspace, hworkspace, z, stdlib, hstdlib, w, user, huser, ho⟩ := h
  cases ho
  unfold indexFiles? at hworkspace
  rw [if_pos rfl] at hworkspace
  have hframe := (scanned_of_run (List.prefix_refl _) hworkspace).frame
  have hempty : ∀ shelf, shelf ≠ .workspace → y.library shelf = .empty := fun shelf hs =>
    (hframe.library hs).trans (Index.registered_library ..)
  have hz := fun sh (hsh : sh ≠ Shelf.stdlib) => run_stub_library (nofun : Shelf.stdlib ≠ .workspace) hsh hstdlib
  have hw := fun sh (hsh : sh ≠ Shelf.user) => run_stub_library (nofun : Shelf.user ≠ .workspace) hsh huser
  refine ⟨y, hworkspace, ?_, ?_, fun shelf hs => ?_⟩
  · exact (hw .workspace nofun).1.trans (hz .workspace nofun).1
  · exact (hw .workspace nofun).2.trans (hz .workspace nofun).2
  · cases shelf with
    | workspace => exact absurd rfl hs
    | stdlib => exact ⟨y, z, hempty .stdlib nofun, hstdlib, (hw .stdlib nofun).1⟩
    | user => exact ⟨z, w, (hz .user nofun).1.trans (hempty .user nofun), huser, rfl⟩

/-! ## Counting results -/

theorem Statistics.record_eq (s : Statistics) (result : FileResult) : s.record result = { s with
    processed := s.processed + if result.isSuccess then 1 else 0
    skipped := s.skipped + if result.isSkipped then 1 else 0
    failed := s.failed + if result.isFailed then 1 else 0
    degraded := s.degraded + if result.isDegraded then 1 else 0
    requireEdges := s.requireEdges + result.requires } := by
  cases result with
  | success path symbols requires isDegraded => cases isDegraded <;> rfl
  | skipped | failed => rfl

/-- Recording results adds up how many there are of each kind. -/
theorem Statistics.foldl_record : ∀ (results : List FileResult) (s : Statistics),
    results.foldl record s = { s with
      processed := s.processed + results.countP (·.isSuccess)
      skipped := s.skipped + results.countP (·.isSkipped)
      failed := s.failed + results.countP (·.isFailed)
      degraded := s.degraded + results.countP (·.isDegraded)
      requireEdges := s.requireEdges + (results.map (·.requires)).sum }
  | [], _ => rfl
  | result :: results, s => by
    rw [List.foldl_cons, foldl_record results, record_eq]
    simp only [List.countP_cons, List.map_cons, List.sum_cons, Nat.add_comm, Nat.add_left_comm]

/-- A result is of one of three kinds. -/
theorem length_eq_countP (results : List FileResult) :
    results.length = results.countP (·.isSuccess) + results.countP (·.isSkipped) + results.countP (·.isFailed) := by
  induction results with
  | nil => rfl
  | cons result results ih =>
    cases result <;> simp [FileResult.isSuccess, FileResult.isSkipped, FileResult.isFailed, ih] <;> omega

/-- The symbols are all those of successes. -/
theorem sum_symbols_filter (results : List FileResult) :
    ((results.filter (·.isSuccess)).map (·.symbols)).sum = (results.map (·.symbols)).sum := by
  induction results with
  | nil => rfl
  | cons result results ih =>
    rw [List.map_cons, List.sum_cons, ← ih]
    cases result with
    | success path symbols requires isDegraded => rw [List.filter_cons_of_pos rfl, List.map_cons, List.sum_cons]
    | skipped | failed =>
      rw [List.filter_cons_of_neg Bool.false_ne_true]
      exact (Nat.zero_add _).symm

/-- The statistics of an outcome are the numbers of results of each kind, and those of its index. -/
theorem Outcome.statistics_eq (o : Outcome) : o.statistics = {
    root := o.root
    processed := o.allResults.countP (·.isSuccess)
    skipped := o.allResults.countP (·.isSkipped)
    failed := o.allResults.countP (·.isFailed)
    degraded := o.allResults.countP (·.isDegraded)
    requireEdges := (o.allResults.map (·.requires)).sum
    workspace := .ofLibrary o.index.workspace
    stdlib := .ofLibrary o.index.stdlib
    user := .ofLibrary o.index.user } := by
  unfold Outcome.statistics Statistics.count
  rw [Statistics.foldl_record]
  simp only [Nat.zero_add]

theorem Outcome.statistics_counts (o : Outcome) (shelf : Shelf) :
    o.statistics.counts shelf = .ofLibrary (o.index.library shelf) := by
  rw [o.statistics_eq]
  cases shelf <;> rfl

/-! ## Counting documents -/

/-- The documents of a part for which no file came into the index. -/
def Outcome.fileless (o : Outcome) (shelf : Shelf) : List Document :=
  (o.index.library shelf).documents.filter fun d => !indexed (o.results shelf) d.uri

/-- The documents with a file are told by the lasting results. -/
theorem perm_lasting {l : Library} {results : List FileResult} (hordered : l.Ordered)
    (hfound : ∀ s ∈ lasting results, ∃ d, l.find? s.uri = some d ∧ d.symbols.length = s.symbols) :
    ((l.documents.filter (indexed results ·.uri)).map fun d => (d.uri, d.symbols.length)).Perm
      ((lasting results).map fun s => (s.uri, s.symbols)) := by
  refine (List.perm_ext_iff_of_nodup ?_ ?_).2 fun b => ?_
  · refine List.Nodup.of_map Prod.fst ?_
    rw [List.map_map]
    exact hordered.uri_nodup.sublist (List.filter_sublist.map _)
  · refine List.Nodup.of_map Prod.fst ?_
    rw [List.map_map]
    exact lasting_nodup results
  · rw [List.mem_map, List.mem_map]
    constructor
    · rintro ⟨d, hd, rfl⟩
      rw [List.mem_filter] at hd
      obtain ⟨s, hs, hu⟩ := exists_lasting hd.2
      obtain ⟨e, he, hsymbols⟩ := hfound s hs
      rw [hu, hordered.find?_mem hd.1] at he
      cases he
      exact ⟨s, hs, by rw [hu, hsymbols]⟩
    · rintro ⟨s, hs, rfl⟩
      obtain ⟨d, hd, hsymbols⟩ := hfound s hs
      have hu : d.uri = s.uri := Library.find?_uri hd
      refine ⟨d, List.mem_filter.2 ⟨List.mem_of_find?_eq_some hd, ?_⟩, by rw [hu, hsymbols]⟩
      rw [hu]
      exact indexed_of_lasting hs

theorem counts_eq {l : Library} {results : List FileResult} (hordered : l.Ordered)
    (hfound : ∀ s ∈ lasting results, ∃ d, l.find? s.uri = some d ∧ d.symbols.length = s.symbols) :
    Counts.ofLibrary l = ⟨(lasting results).length + (l.documents.filter (!indexed results ·.uri)).length,
      ((lasting results).map (·.symbols)).sum +
        ((l.documents.filter (!indexed results ·.uri)).map (·.symbols.length)).sum⟩ := by
  have hperm := perm_lasting hordered hfound
  have hsplit : ((l.documents.filter (indexed results ·.uri)) ++ l.documents.filter (!indexed results ·.uri)).Perm
      l.documents := List.filter_append_perm (indexed results ·.uri) l.documents
  have hsymbols := (hperm.map Prod.snd).sum_nat
  simp only [List.map_map, Function.comp_def] at hsymbols
  have hlength := hperm.length_eq
  rw [List.length_map, List.length_map] at hlength
  have hcount : l.symbolCount = (l.documents.map fun d => d.symbols.length).sum := (List.foldr_map ..).symm
  unfold Counts.ofLibrary Library.size
  rw [hcount, ← (hsplit.map fun d => d.symbols.length).sum_nat, List.map_append, List.sum_append_nat, hsymbols,
    ← hsplit.length_eq, List.length_append, hlength]

section

variable {path : OsText} {o : Outcome} {y : Index}

/-- The numbers of a part are those of its lasting results and of the documents without a file. -/
theorem Parts.counts (h : Parts disk config path o y) (shelf : Shelf) : o.statistics.counts shelf =
    ⟨(lasting (o.results shelf)).length + (o.fileless shelf).length,
      ((lasting (o.results shelf)).map (·.symbols)).sum + ((o.fileless shelf).map (·.symbols.length)).sum⟩ := by
  rw [o.statistics_counts]
  by_cases hs : shelf = .workspace
  · subst hs
    have hlibrary : o.index.library .workspace = y.library .workspace := h.documents
    have hscanned := scanned_of_run (List.prefix_refl _) h.workspace
    exact counts_eq (hlibrary ▸ hscanned.sound.ordered .workspace) (hlibrary ▸ run_found h.workspace)
  · obtain ⟨x, z, hempty, hrun, hlibrary⟩ := h.stubs shelf hs
    exact counts_eq (hlibrary ▸ (run_stubs hs hempty hrun).1) (hlibrary ▸ run_found hrun)

/-- Every stub has a file. -/
theorem Parts.fileless_stubs (h : Parts disk config path o y) {shelf : Shelf} (hs : shelf ≠ .workspace) :
    o.fileless shelf = [] := by
  obtain ⟨x, z, hempty, hrun, hlibrary⟩ := h.stubs shelf hs
  obtain ⟨hordered, hindexed⟩ := run_stubs hs hempty hrun
  unfold Outcome.fileless
  rw [List.filter_eq_nil_iff, hlibrary]
  intro d hd
  rw [hindexed d.uri d (hordered.find?_mem hd)]
  exact Bool.false_ne_true

theorem Parts.mem_fileless (h : Parts disk config path o y) {d : Document} :
    d ∈ o.fileless .workspace ↔ y.document? d.uri = some d ∧ indexed (o.results .workspace) d.uri = false := by
  have hscanned := scanned_of_run (List.prefix_refl _) h.workspace
  have hlibrary : o.index.library .workspace = y.workspace := h.documents
  unfold Outcome.fileless
  rw [List.mem_filter, hlibrary, Bool.not_eq_true']
  exact and_congr_left fun _ => ⟨hscanned.sound.document?, fun hd => (Index.document?_mem hd).1⟩

/-- The documents without a file are at the missed URIs. -/
theorem Parts.missed_iff (h : Parts disk config path o y) {u : Uri} : (∃ d ∈ o.fileless .workspace, d.uri = u) ↔
    Missed disk config (filesFor disk config path .workspace) u := by
  rw [← Scan.missed_iff h.workspace]
  constructor
  · rintro ⟨d, hd, rfl⟩
    exact ⟨d, h.mem_fileless.1 hd⟩
  · rintro ⟨d, hd, hindexed⟩
    have hu : d.uri = u := (Index.document?_mem hd).2
    exact ⟨d, h.mem_fileless.2 (hu ▸ ⟨hd, hindexed⟩), hu⟩

theorem Parts.placeholder_iff (h : Parts disk config path o y) {d : Document} (hd : d ∈ o.index.workspace.documents) :
    d.state = .placeholder ↔
      d ∈ o.fileless .workspace ∧ (Index.empty config).diskText? disk d.uri = none := by
  have hscanned := scanned_of_run (List.prefix_refl _) h.workspace
  have hfind : y.document? d.uri = some d := hscanned.sound.document? (h.documents ▸ hd)
  rw [Scan.placeholder_iff h.workspace hfind, h.mem_fileless]
  simp [hfind]

/-! ## Scans of paths that are texts -/

section

variable (htext : ∀ shelf, ∀ p ∈ filesFor disk config path shelf, ∃ name : String, p = OsText.ofString name)
include htext

/-- Different files have different URIs. -/
theorem Parts.ofPath_inj {shelf : Shelf} {p q : OsText} (hp : p ∈ filesFor disk config path shelf)
    (hq : q ∈ filesFor disk config path shelf) (h : Uri.ofPath p = Uri.ofPath q) : p = q := by
  obtain ⟨a, rfl⟩ := htext shelf p hp
  obtain ⟨b, rfl⟩ := htext shelf q hq
  have hpath := congrArg Uri.path? h
  rw [Uri.path?_ofPath, Uri.path?_ofPath, OsText.shown_ofString, OsText.shown_ofString, Option.some.injEq] at hpath
  rw [hpath]

theorem Parts.lasting_eq (h : Parts disk config path o y) (hdisk : disk.WellFormed) (shelf : Shelf) :
    lasting (o.results shelf) = (o.results shelf).filter (·.isSuccess) := by
  have huri : (o.results shelf).map (·.uri) = (filesFor disk config path shelf).map Uri.ofPath := by
    by_cases hs : shelf = .workspace
    · subst hs
      exact run_uri h.workspace
    · obtain ⟨x, z, -, hrun, -⟩ := h.stubs shelf hs
      exact run_uri hrun
  refine lasting_eq_filter ?_
  rw [huri]
  exact (filesFor_nodup hdisk config path shelf).map_on fun p hp q hq heq => ofPath_inj htext hp hq heq

/-- A missed file has a placeholder. -/
theorem Parts.fileless_eq (h : Parts disk config path o y) {d : Document} (hd : d ∈ o.fileless .workspace) :
    d.state = .placeholder ∧ d.symbols = [] := by
  have hscanned := scanned_of_run (List.prefix_refl _) h.workspace
  obtain ⟨⟨p, hp, hu⟩, hunreadable, -⟩ := h.missed_iff.1 ⟨d, hd, rfl⟩
  obtain ⟨cause, hread⟩ := hunreadable p hp hu
  obtain ⟨name, rfl⟩ := htext .workspace p hp
  have hnone : (Index.empty config).diskText? disk d.uri = none := by
    rw [← hu, diskText?_ofPath]
    exact congrArg Except.toOption hread
  have hbare := hscanned.bare_eq (htext .workspace) (h.mem_fileless.1 hd).1
  rw [Index.onDisk_unreadable hnone] at hbare
  exact ⟨congrArg (·.state) hbare, congrArg (·.symbols) hbare⟩

/-- Without a file there are exactly the placeholders. -/
theorem Parts.length_fileless (h : Parts disk config path o y) :
    (o.fileless .workspace).length = o.index.workspace.documents.countP (·.state = .placeholder) := by
  unfold Outcome.fileless
  rw [List.countP_eq_length_filter]
  refine congrArg List.length (List.filter_congr fun d hd => ?_)
  rw [Bool.eq_iff_iff, decide_eq_true_iff]
  constructor
  · exact fun hindexed => (h.fileless_eq htext (List.mem_filter.2 ⟨hd, hindexed⟩)).1
  · exact fun hstate => (List.mem_filter.1 ((h.placeholder_iff hd).1 hstate).1).2

theorem Parts.placeholders_iff (h : Parts disk config path o y) {u : Uri} :
    (∃ d ∈ o.index.workspace.documents, d.uri = u ∧ d.state = .placeholder) ↔
      (∃ p ∈ filesFor disk config path .workspace, Uri.ofPath p = u ∧
        ∃ cause, disk.readSource p config.maxFileSize = .error cause) ∧
      ∃ e ∈ o.index.workspace.documents, ∃ r ∈ e.requires, o.index.resolve? r.targetModule = some u := by
  have hedges : Sought disk config (filesFor disk config path .workspace) u ↔
      ∃ e ∈ o.index.workspace.documents, ∃ r ∈ e.requires, o.index.resolve? r.targetModule = some u := by
    have hresolve : ∀ required, o.index.resolve? required = y.resolve? required := fun required => by
      unfold Index.resolve?
      rw [h.modules]
    rw [sought_iff (htext .workspace) h.workspace, h.documents]
    simp only [hresolve]
  rw [← hedges]
  have hfileless : (∃ d ∈ o.index.workspace.documents, d.uri = u ∧ d.state = .placeholder) ↔
      ∃ d ∈ o.fileless .workspace, d.uri = u := by
    constructor
    · rintro ⟨d, hd, hu, hstate⟩
      exact ⟨d, ((h.placeholder_iff hd).1 hstate).1, hu⟩
    · rintro ⟨d, hd, hu⟩
      exact ⟨d, (List.mem_filter.1 hd).1, hu, (h.fileless_eq htext hd).1⟩
  rw [hfileless, h.missed_iff]
  constructor
  · rintro ⟨⟨p, hp, hu⟩, hunreadable, hsought⟩
    exact ⟨⟨p, hp, hu, hunreadable p hp hu⟩, hsought⟩
  · rintro ⟨⟨p, hp, hu, hunreadable⟩, hsought⟩
    refine ⟨⟨p, hp, hu⟩, fun q hq hqu => ?_, hsought⟩
    rw [ofPath_inj htext hq hp (hqu.trans hu.symm)]
    exact hunreadable

theorem Parts.counts_texts (h : Parts disk config path o y) (hdisk : disk.WellFormed) :
    (∀ shelf, (o.statistics.counts shelf).symbols = ((o.results shelf).map (·.symbols)).sum) ∧
      o.statistics.workspace.documents = (o.results .workspace).countP (·.isSuccess) +
        o.index.workspace.documents.countP (·.state = .placeholder) := by
  constructor
  · intro shelf
    have hfileless : ((o.fileless shelf).map (·.symbols.length)).sum = 0 := by
      by_cases hs : shelf = .workspace
      · subst hs
        rw [List.sum_eq_zero_iff_forall_eq_nat]
        intro n hn
        obtain ⟨d, hd, rfl⟩ := List.mem_map.1 hn
        rw [(h.fileless_eq htext hd).2, List.length_nil]
      · rw [h.fileless_stubs hs]
        rfl
    rw [h.counts, h.lasting_eq htext hdisk]
    dsimp only
    rw [hfileless, Nat.add_zero, sum_symbols_filter]
  · have hcounts := h.counts .workspace
    rw [h.lasting_eq htext hdisk, ← List.countP_eq_length_filter, h.length_fileless htext] at hcounts
    exact congrArg Counts.documents hcounts

end

end

/-- The numbers of a scan into an empty index agree with its results and with the index. As many files are said to
be processed, skipped, failed and degraded as there are such results, to as many `require` edges as the results have
together. The documents and symbols of each part are those of the results that last, of several with one URI the last,
and of the documents without a file. Only the workspace has such documents: at the URIs of files none of which can be
read, where a document of the workspace asks for them. They are placeholders unless the path that the URI has leads to
a text. Where all paths are texts, all results count; and the placeholders are the files that cannot be read and that
some document of the workspace requires. There is no outcome only if some file has a string that is cut inside a
character. -/
theorem statistics_agree (disk : Disk) (config : Config) (path : OsText) :
    (scan? disk (.empty config) path = none →
      ∃ f ∈ disk.openFiles, ∃ text, Disk.decode? f.2 = some text ∧ HasCut text.toList) ∧
    ∀ o, scan? disk (.empty config) path = some o →
      let s := o.statistics
      let files := filesFor disk config path .workspace
      (s.processed = o.allResults.countP (·.isSuccess) ∧ s.skipped = o.allResults.countP (·.isSkipped) ∧
        s.failed = o.allResults.countP (·.isFailed) ∧ s.degraded = o.allResults.countP (·.isDegraded) ∧
        s.total = o.allResults.length ∧ s.requireEdges = (o.allResults.map (·.requires)).sum) ∧
      (∀ shelf, s.counts shelf = ⟨(lasting (o.results shelf)).length + (o.fileless shelf).length,
        ((lasting (o.results shelf)).map (·.symbols)).sum + ((o.fileless shelf).map (·.symbols.length)).sum⟩) ∧
      (∀ shelf, shelf ≠ .workspace → o.fileless shelf = []) ∧
      (∀ u, (∃ d ∈ o.fileless .workspace, d.uri = u) ↔ Missed disk config files u) ∧
      (∀ d ∈ o.index.workspace.documents, d.state = .placeholder ↔
        d ∈ o.fileless .workspace ∧ (Index.empty config).diskText? disk d.uri = none) ∧
      ((∀ shelf, ∀ p ∈ filesFor disk config path shelf, ∃ name : String, p = OsText.ofString name) →
        disk.WellFormed →
        (∀ shelf, (s.counts shelf).symbols = ((o.results shelf).map (·.symbols)).sum) ∧
        s.workspace.documents = (o.results .workspace).countP (·.isSuccess) +
          o.index.workspace.documents.countP (·.state = .placeholder) ∧
        ∀ u, (∃ d ∈ o.index.workspace.documents, d.uri = u ∧ d.state = .placeholder) ↔
          (∃ p ∈ files, Uri.ofPath p = u ∧ ∃ cause, disk.readSource p config.maxFileSize = .error cause) ∧
          ∃ e ∈ o.index.workspace.documents, ∃ r ∈ e.requires, o.index.resolve? r.targetModule = some u) := by
  refine ⟨exists_cut_of_scan?, fun o ho => ?_⟩
  intro s files
  obtain ⟨y, h⟩ := exists_parts ho
  have hs : s = _ := o.statistics_eq
  refine ⟨?_, h.counts, fun shelf => h.fileless_stubs, fun u => h.missed_iff, fun d => h.placeholder_iff,
    fun htext hdisk => ?_⟩
  · rw [hs]
    exact ⟨rfl, rfl, rfl, rfl, (length_eq_countP _).symm, rfl⟩
  · obtain ⟨hsymbols, hdocuments⟩ := h.counts_texts htext hdisk
    exact ⟨hsymbols, hdocuments, fun u => h.placeholders_iff htext⟩

/-- A file that requires another one, which is no text. -/
def requiringDisk : Disk where
  files := [(["a.lua"], OsText.ofString "require('b')"), (["b.lua"], [0xFF])]
  directories := []
  current := []

theorem requiringDisk_files :
    filesFor requiringDisk {} "/" .workspace = [OsText.ofString "/a.lua", OsText.ofString "/b.lua"] := by
  have hroot : requiringDisk.lookup "/" = .ok ([], .directory) := by decide +kernel
  -- the sort recurses on lengths, which does not evaluate
  have hsorted : [[OsText.ofString "a.lua"], [OsText.ofString "b.lua"]].mergeSort pathLe =
      [[OsText.ofString "a.lua"], [OsText.ofString "b.lua"]] := List.mergeSort_of_pairwise (by decide +kernel)
  unfold filesFor listFiles
  rw [hroot]
  exact (congrArg (List.map _) hsorted).trans (by decide +kernel)

set_option maxRecDepth 100000 in
theorem requiringDisk_scan : (scan? requiringDisk (.empty {}) "/").any (fun o =>
    (o.results .workspace).countP (·.isSuccess) = 1 && o.index.workspace.documents.any fun e =>
      e.requires.any fun r => o.index.resolve? r.targetModule = some (.ofPath "/b.lua")) = true := by
  unfold scan?
  rw [show (Index.empty {}).config = {} from rfl, requiringDisk_files]
  decide +kernel

/-- The required file counts among the documents, as a placeholder. -/
theorem statistics_agree_requiring : ∃ o, scan? requiringDisk (.empty {}) "/" = some o ∧
    (o.results .workspace).countP (·.isSuccess) = 1 ∧
    o.statistics.workspace.documents = 1 + o.index.workspace.documents.countP (·.state = .placeholder) ∧
    ∃ d ∈ o.index.workspace.documents, d.uri = .ofPath "/b.lua" ∧ d.state = .placeholder := by
  obtain ⟨o, ho, hscan⟩ := (Option.any_eq_true _ _).1 requiringDisk_scan
  simp only [Bool.and_eq_true, decide_eq_true_iff, List.any_eq_true] at hscan
  obtain ⟨hsuccess, hrequires⟩ := hscan
  have htext : ∀ shelf, ∀ p ∈ filesFor requiringDisk {} "/" shelf, ∃ name : String, p = OsText.ofString name := by
    intro shelf p hp
    cases shelf with
    | workspace =>
      rw [requiringDisk_files] at hp
      rcases List.mem_pair.1 hp with rfl | rfl
      · exact ⟨_, rfl⟩
      · exact ⟨_, rfl⟩
    | stdlib | user => cases hp
  have hdisk : requiringDisk.WellFormed := ⟨by decide +kernel, by decide +kernel⟩
  obtain ⟨-, -, -, -, -, hplain⟩ := (statistics_agree requiringDisk {} "/").2 o ho
  obtain ⟨-, hdocuments, hplaceholders⟩ := hplain htext hdisk
  have hunreadable : requiringDisk.readSource "/b.lua" ({} : Config).maxFileSize = .error .notText := by decide +kernel
  refine ⟨o, ho, hsuccess, by rw [← hsuccess]; exact hdocuments,
    (hplaceholders _).2 ⟨⟨"/b.lua", ?_, rfl, _, hunreadable⟩, hrequires⟩⟩
  rw [requiringDisk_files]
  exact List.mem_pair.2 (.inr rfl)

/-- Two empty files with names that are no texts and look alike. -/
def alikeDisk : Disk where
  files := [([[0xFE, 0x2E, 0x6C, 0x75, 0x61]], []), ([[0xFF, 0x2E, 0x6C, 0x75, 0x61]], [])]
  directories := []
  current := []

/-- Files whose names look alike share a document. -/
example : (indexFiles? alikeDisk .workspace (.empty {}) (alikeDisk.files.map (Location.path ·.1))).any (fun (y, results) =>
    results.countP (·.isSuccess) = 2 && y.workspace.size = 1) = true := by decide +kernel

/-- A stub that requires a file of the workspace, which is no text. -/
def stubDisk : Disk where
  files := [(["s", "s.lua"], OsText.ofString "require('bad')"), (["w", "bad.lua"], [0xFF])]
  directories := []
  current := []

def stubConfig : Config := { stdlibDir? := some "/s" }

set_option maxRecDepth 100000 in
/-- What only a stub requires gets no placeholder. -/
theorem stub_asks_in_vain : ∃ o, scan? stubDisk (.empty stubConfig) "/w" = some o ∧
    (∃ p ∈ filesFor stubDisk stubConfig "/w" .workspace,
      (∃ cause, stubDisk.readSource p stubConfig.maxFileSize = .error cause) ∧
      ∃ e ∈ o.index.stdlib.documents, ∃ r ∈ e.requires, o.index.resolve? r.targetModule = some (.ofPath p)) ∧
    ¬ ∃ d ∈ o.index.workspace.documents, d.state = .placeholder := by
  have hscan : (scan? stubDisk (.empty stubConfig) "/w").any (fun o =>
      (o.index.stdlib.documents.any fun e => e.requires.any fun r =>
        o.index.resolve? r.targetModule = some (.ofPath "/w/bad.lua")) &&
      o.index.workspace.documents.all fun d => d.state ≠ .placeholder) = true := by decide +kernel
  obtain ⟨o, ho, h⟩ := (Option.any_eq_true _ _).1 hscan
  simp only [Bool.and_eq_true, decide_eq_true_iff, List.any_eq_true, List.all_eq_true] at h
  have hfile : OsText.ofString "/w/bad.lua" ∈ filesFor stubDisk stubConfig "/w" .workspace := by decide +kernel
  have hunreadable : stubDisk.readSource "/w/bad.lua" stubConfig.maxFileSize = .error .notText := by decide +kernel
  exact ⟨o, ho, ⟨_, hfile, ⟨_, hunreadable⟩, h.1⟩, fun ⟨d, hd, hstate⟩ => h.2 d hd hstate⟩

end Scan

end LuaAtlas
