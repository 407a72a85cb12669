/-
Files that come into an index one after the other. Two files may have the same URI, since a URI is made of what is shown
of a path; then the later one takes the place of the earlier one, and its result is the one that lasts. In the workspace
a document may also be there without a file of its own, because another document requires it: it is as its URI has it on
disk, until the turn of a file with this URI comes.
-/
import LuaAtlas.Proofs.Index.Batch
import LuaAtlas.Proofs.Index.Idempotence
import LuaAtlas.Proofs.OsText
import LuaAtlas.Scan
import Mathlib.Data.List.Induction

namespace LuaAtlas

open LuaAtlas.Syntax

theorem Uri.path?_ofPath (path : OsText) : (Uri.ofPath path).path? = some path.shown := by
  unfold Uri.path? Text.dropStart? ofPath
  rw [String.toList_append, if_pos (by simp), List.drop_left, String.ofList_toList]

theorem Document.build_ne_placeholder (shelf : Shelf) (uri : Uri) (text : String) :
    (Document.build shelf uri (parse text)).state ≠ .placeholder := by
  rw [Document.build_state]
  split <;> exact nofun

theorem Document.symbols_of_bare {d e : Document} (h : e.bare = d.bare) : e.symbols = d.symbols :=
  congrArg (·.symbols) h

namespace Scan

/-! ## Results -/

/-- Whether a file with this URI came into the index. -/
def indexed (results : List FileResult) (u : Uri) : Bool := results.any fun r => r.isSuccess && r.uri = u

/-- The results that last: the successes that no other one with the same URI follows. -/
def lasting : List FileResult → List FileResult
  | [] => []
  | r :: results => if r.isSuccess && !indexed results r.uri then r :: lasting results else lasting results

theorem indexed_iff_exists {results : List FileResult} {u : Uri} :
    indexed results u = true ↔ ∃ r ∈ results, r.isSuccess = true ∧ r.uri = u := by
  unfold indexed
  simp

theorem indexed_concat (results : List FileResult) (r : FileResult) (u : Uri) :
    indexed (results ++ [r]) u = (indexed results u || (r.isSuccess && r.uri = u)) := by
  unfold indexed
  rw [List.any_append, List.any_cons, List.any_nil, Bool.or_false]

theorem mem_of_lasting : ∀ {results : List FileResult} {s : FileResult}, s ∈ lasting results →
    s ∈ results ∧ s.isSuccess = true
  | r :: results, s, h => by
    unfold lasting at h
    split at h
    · rename_i hr
      rcases List.mem_cons.1 h with rfl | h
      · exact ⟨List.mem_cons_self .., (Bool.and_eq_true_iff.1 hr).1⟩
      · exact (mem_of_lasting h).imp (List.mem_cons_of_mem _) id
    · exact (mem_of_lasting h).imp (List.mem_cons_of_mem _) id

theorem indexed_of_lasting {results : List FileResult} {s : FileResult} (h : s ∈ lasting results) :
    indexed results s.uri = true :=
  indexed_iff_exists.2 ⟨s, (mem_of_lasting h).1, (mem_of_lasting h).2, rfl⟩

theorem exists_lasting : ∀ {results : List FileResult} {u : Uri}, indexed results u = true →
    ∃ s ∈ lasting results, s.uri = u
  | r :: results, u, h => by
    unfold lasting
    cases hlater : indexed results u with
    | true =>
      obtain ⟨s, hs, hu⟩ := exists_lasting hlater
      refine ⟨s, ?_, hu⟩
      split
      · exact List.mem_cons_of_mem _ hs
      · exact hs
    | false =>
      obtain ⟨s, hs, hsuccess, rfl⟩ := indexed_iff_exists.1 h
      rcases List.mem_cons.1 hs with rfl | hs
      · rw [hsuccess, hlater, if_pos (show (true && !false) = true from rfl)]
        exact ⟨s, List.mem_cons_self .., rfl⟩
      · rw [indexed_iff_exists.2 ⟨s, hs, hsuccess, rfl⟩] at hlater
        cases hlater

/-- One URI has one lasting result. -/
theorem lasting_nodup : ∀ results : List FileResult, ((lasting results).map (·.uri)).Nodup
  | [] => List.nodup_nil
  | r :: results => by
    unfold lasting
    split
    · rename_i hr
      rw [Bool.and_eq_true_iff, Bool.not_eq_true'] at hr
      rw [List.map_cons, List.nodup_cons]
      refine ⟨fun hmem => ?_, lasting_nodup results⟩
      obtain ⟨s, hs, hu⟩ := List.mem_map.1 hmem
      rw [← hu, indexed_of_lasting hs] at hr
      cases hr.2
    · exact lasting_nodup results

/-- Where all files have URIs of their own, all successes last. -/
theorem lasting_eq_filter : ∀ {results : List FileResult}, (results.map (·.uri)).Nodup →
    lasting results = results.filter (·.isSuccess)
  | [], _ => rfl
  | r :: results, h => by
    rw [List.map_cons, List.nodup_cons] at h
    have hlater : indexed results r.uri = false := by
      rw [Bool.eq_false_iff]
      intro hindexed
      obtain ⟨s, hs, -, hu⟩ := indexed_iff_exists.1 hindexed
      exact h.1 (hu ▸ List.mem_map_of_mem hs)
    rw [lasting, hlater, Bool.not_false, Bool.and_true, List.filter_cons, lasting_eq_filter h.2]

/-- One more result takes the place of those with the same URI. -/
theorem mem_lasting_concat {s r : FileResult} : ∀ {results : List FileResult}, s ∈ lasting (results ++ [r]) →
    s = r ∧ r.isSuccess = true ∨ s ∈ lasting results ∧ (r.isSuccess = true → r.uri ≠ s.uri)
  | [], h => by
    rw [List.nil_append, lasting] at h
    split at h
    · rename_i hr
      exact .inl ⟨List.mem_singleton.1 h, (Bool.and_eq_true_iff.1 hr).1⟩
    · cases h
  | t :: results, h => by
    rw [List.cons_append, lasting, indexed_concat] at h
    have hrest : s ∈ lasting (results ++ [r]) →
        s = r ∧ r.isSuccess = true ∨ s ∈ lasting (t :: results) ∧ (r.isSuccess = true → r.uri ≠ s.uri) := fun hs =>
      (mem_lasting_concat hs).imp id (And.imp_left fun hs => by
        unfold lasting
        split
        · exact List.mem_cons_of_mem _ hs
        · exact hs)
    split at h
    · rename_i ht
      rcases List.mem_cons.1 h with rfl | h
      · simp only [Bool.and_eq_true, Bool.not_eq_true', Bool.or_eq_false_iff] at ht
        refine .inr ⟨?_, fun hr hu => ?_⟩
        · rw [lasting, ht.1, ht.2.1, if_pos (show (true && !false) = true from rfl)]
          exact List.mem_cons_self ..
        · rw [hr, decide_eq_true hu] at ht
          cases ht.2.2
      · exact hrest h
    · exact hrest h

/-! ## File by file -/

variable {disk : Disk} {shelf : Shelf}

theorem indexFile_unreadable (shelf : Shelf) {x : Index} {path : OsText} {cause : ReadFailure}
    (h : disk.readSource path x.config.maxFileSize = .error cause) :
    (indexFile disk shelf x path).1 = x ∧ (indexFile disk shelf x path).2.isSuccess = false ∧
      (indexFile disk shelf x path).2.uri = .ofPath path := by
  unfold indexFile
  rw [h]
  dsimp only
  split <;> exact ⟨rfl, rfl, rfl⟩

theorem indexFile_readable (shelf : Shelf) {x : Index} {path : OsText} {text : String}
    (h : disk.readSource path x.config.maxFileSize = .ok text) :
    ∃ d, ((x.buildText disk shelf (.ofPath path) text).1.library shelf).find? (.ofPath path) = some d ∧
      indexFile disk shelf x path = ((x.buildText disk shelf (.ofPath path) text).1,
        .success path.shown d.symbols.length d.requires.length (d.state = .degraded)) := by
  obtain ⟨d, hd⟩ := Index.buildText_library_self x disk shelf (.ofPath path) text
  refine ⟨d, hd, ?_⟩
  unfold indexFile
  rw [h]
  dsimp only
  rw [hd]

theorem indexFile_uri (disk : Disk) (shelf : Shelf) (x : Index) (path : OsText) :
    (indexFile disk shelf x path).2.uri = .ofPath path := by
  cases h : disk.readSource path x.config.maxFileSize with
  | error cause => exact (indexFile_unreadable shelf h).2.2
  | ok text =>
    obtain ⟨d, -, heq⟩ := indexFile_readable shelf h
    rw [heq]
    rfl

theorem indexFile_isSuccess_iff (disk : Disk) (shelf : Shelf) (x : Index) (path : OsText) :
    (indexFile disk shelf x path).2.isSuccess = true ↔
      ∃ text, disk.readSource path x.config.maxFileSize = .ok text := by
  cases h : disk.readSource path x.config.maxFileSize with
  | error cause => simp [(indexFile_unreadable shelf h).2.1]
  | ok text =>
    obtain ⟨d, -, heq⟩ := indexFile_readable shelf h
    simp [heq, FileResult.isSuccess]

theorem indexFile_config (disk : Disk) (shelf : Shelf) (x : Index) (path : OsText) :
    (indexFile disk shelf x path).1.config = x.config := by
  cases h : disk.readSource path x.config.maxFileSize with
  | error cause => rw [(indexFile_unreadable shelf h).1]
  | ok text =>
    obtain ⟨d, -, heq⟩ := indexFile_readable shelf h
    rw [heq, Index.buildText_config]

/-- A file touches no document but that of its URI, up to referrers. -/
theorem indexFile_other {x : Index} {path : OsText} {v : Uri} {d : Document} (hd : (x.library shelf).find? v = some d)
    (hv : (indexFile disk shelf x path).2.isSuccess = true → Uri.ofPath path ≠ v) :
    ∃ e, ((indexFile disk shelf x path).1.library shelf).find? v = some e ∧ e.bare = d.bare := by
  cases h : disk.readSource path x.config.maxFileSize with
  | error cause =>
    rw [(indexFile_unreadable shelf h).1]
    exact ⟨d, hd, rfl⟩
  | ok text =>
    have hne : Uri.ofPath path ≠ v := hv ((indexFile_isSuccess_iff ..).2 ⟨text, h⟩)
    obtain ⟨d', -, heq⟩ := indexFile_readable shelf h
    rw [heq]
    obtain ⟨e, he, hr⟩ := Index.buildText_untouched (fun hsame : (shelf, v) = (shelf, .ofPath path) =>
      hne (Prod.mk.inj hsame).2.symm) hd disk text
    exact ⟨e, he, hr.bare⟩

/-- A file takes no document away. -/
theorem indexFile_present {x : Index} (path : OsText) {v : Uri} {d : Document} (hd : (x.library shelf).find? v = some d) :
    ∃ e, ((indexFile disk shelf x path).1.library shelf).find? v = some e := by
  by_cases hv : Uri.ofPath path = v
  · cases h : disk.readSource path x.config.maxFileSize with
    | error cause =>
      rw [(indexFile_unreadable shelf h).1]
      exact ⟨d, hd⟩
    | ok text =>
      obtain ⟨e, he, heq⟩ := indexFile_readable shelf h
      rw [heq]
      exact ⟨e, hv ▸ he⟩
  · exact (indexFile_other hd fun _ => hv).imp fun e he => he.1

/-! ## Runs -/

theorem indexEach?_cons {x z : Index} {path : OsText} {paths : List OsText} {results : List FileResult} :
    indexEach? disk shelf x (path :: paths) = some (z, results) ↔
      (parsedFor disk shelf x path).any isFatal = false ∧ ∃ more,
        indexEach? disk shelf (indexFile disk shelf x path).1 paths = some (z, more) ∧
        results = (indexFile disk shelf x path).2 :: more := by
  rw [indexEach?]
  cases hfatal : (parsedFor disk shelf x path).any isFatal with
  | true => simp
  | false =>
    cases h : indexEach? disk shelf (indexFile disk shelf x path).1 paths with
    | none => simp [h]
    | some r => simp [h, Prod.ext_iff, eq_comm]

theorem indexEach?_append {z : Index} {qs : List OsText} : ∀ {ps : List OsText} {x : Index} {results : List FileResult},
    indexEach? disk shelf x (ps ++ qs) = some (z, results) ↔ ∃ y before after,
      indexEach? disk shelf x ps = some (y, before) ∧ indexEach? disk shelf y qs = some (z, after) ∧
      results = before ++ after
  | [], x, results => by simp [indexEach?]
  | p :: ps, x, results => by
    rw [List.cons_append, indexEach?_cons]
    constructor
    · rintro ⟨hfatal, more, hmore, rfl⟩
      obtain ⟨y, before, after, hbefore, hafter, rfl⟩ := indexEach?_append.1 hmore
      exact ⟨y, _, after, indexEach?_cons.2 ⟨hfatal, before, hbefore, rfl⟩, hafter, rfl⟩
    · rintro ⟨y, before, after, hbefore, hafter, rfl⟩
      obtain ⟨hfatal, more, hmore, rfl⟩ := indexEach?_cons.1 hbefore
      exact ⟨hfatal, more ++ after, indexEach?_append.2 ⟨y, more, after, hmore, hafter, rfl⟩, rfl⟩

/-- What holds before the first file and is kept by each file holds in the end. -/
theorem run_induction {x : Index} {P : List OsText → Index → List FileResult → Prop} (start : P [] x [])
    (file : ∀ done y results path, P done y results → indexEach? disk shelf x done = some (y, results) →
      indexEach? disk shelf x (done ++ [path]) =
        some ((indexFile disk shelf y path).1, results ++ [(indexFile disk shelf y path).2]) →
      P (done ++ [path]) (indexFile disk shelf y path).1 (results ++ [(indexFile disk shelf y path).2]))
    (paths : List OsText) : ∀ {y : Index} {results : List FileResult},
    indexEach? disk shelf x paths = some (y, results) → P paths y results := by
  induction paths using List.reverseRecOn with
  | nil =>
    intro y results h
    cases h
    exact start
  | append_singleton done path ih =>
    intro z results h
    obtain ⟨y, before, after, hbefore, hafter, rfl⟩ := indexEach?_append.1 h
    obtain ⟨-, more, hmore, rfl⟩ := indexEach?_cons.1 hafter
    cases hmore
    exact file done y before path (ih hbefore) hbefore h

section

variable {x y : Index} {paths : List OsText} {results : List FileResult}

theorem run_uri (h : indexEach? disk shelf x paths = some (y, results)) :
    results.map (·.uri) = paths.map Uri.ofPath :=
  run_induction (P := fun done _ results => results.map (·.uri) = done.map Uri.ofPath) rfl
    (fun _ _ _ _ ih _ _ => by
      rw [List.map_append, List.map_append, ih, List.map_singleton, List.map_singleton, indexFile_uri])
    paths h

/-- The files that came into the index are those that can be read. -/
theorem run_indexed_iff (h : indexEach? disk shelf x paths = some (y, results)) (u : Uri) :
    indexed results u = true ↔
      ∃ p ∈ paths, Uri.ofPath p = u ∧ ∃ text, disk.readSource p x.config.maxFileSize = .ok text := by
  have hi : y.config = x.config ∧ (indexed results u = true ↔
      ∃ p ∈ paths, Uri.ofPath p = u ∧ ∃ text, disk.readSource p x.config.maxFileSize = .ok text) := by
    refine run_induction (P := fun done y results => y.config = x.config ∧ (indexed results u = true ↔
      ∃ p ∈ done, Uri.ofPath p = u ∧ ∃ text, disk.readSource p x.config.maxFileSize = .ok text))
      ⟨rfl, by simp [indexed]⟩ ?_ paths h
    rintro done y results path ⟨hconfig, ih⟩ - -
    refine ⟨(indexFile_config ..).trans hconfig, ?_⟩
    rw [indexed_concat, Bool.or_eq_true, Bool.and_eq_true, indexFile_uri, indexFile_isSuccess_iff, ih, hconfig,
      decide_eq_true_iff]
    simp [or_and_right, exists_or, and_comm]
  exact hi.2

/-- The lasting results tell the symbols of the documents. -/
theorem run_found (h : indexEach? disk shelf x paths = some (y, results)) : ∀ s ∈ lasting results,
    ∃ d, (y.library shelf).find? s.uri = some d ∧ d.symbols.length = s.symbols := by
  refine run_induction (P := fun _ y results => ∀ s ∈ lasting results,
    ∃ d, (y.library shelf).find? s.uri = some d ∧ d.symbols.length = s.symbols) (fun _ hs => nomatch hs) ?_ paths h
  intro done y results path ih _ _ s hs
  rcases mem_lasting_concat hs with ⟨rfl, hsuccess⟩ | ⟨hs, hother⟩
  · obtain ⟨text, hread⟩ := (indexFile_isSuccess_iff ..).1 hsuccess
    obtain ⟨d, hd, heq⟩ := indexFile_readable shelf hread
    rw [indexFile_uri, heq]
    exact ⟨d, hd, rfl⟩
  · obtain ⟨d, hd, hsymbols⟩ := ih s hs
    rw [indexFile_uri] at hother
    obtain ⟨e, he, hbare⟩ := indexFile_other hd hother
    exact ⟨e, he, by rw [Document.symbols_of_bare hbare, hsymbols]⟩

/-- No document is taken away. -/
theorem run_present (shelf : Shelf) {v : Uri} {d : Document} (hd : (x.library shelf).find? v = some d)
    (h : indexEach? disk shelf x paths = some (y, results)) : ∃ e, (y.library shelf).find? v = some e :=
  run_induction (P := fun _ y _ => ∃ e, (y.library shelf).find? v = some e) ⟨d, hd⟩
    (fun _ _ _ path ⟨_, he⟩ _ _ => indexFile_present path he) paths h

/-! ## Stubs -/

theorem indexFile_stub_library {sh : Shelf} (hs : shelf ≠ .workspace) (hsh : sh ≠ shelf) (path : OsText) :
    (indexFile disk shelf x path).1.library sh = x.library sh ∧
      (indexFile disk shelf x path).1.modules = x.modules := by
  cases h : disk.readSource path x.config.maxFileSize with
  | error cause =>
    rw [(indexFile_unreadable shelf h).1]
    exact ⟨rfl, rfl⟩
  | ok text =>
    obtain ⟨d', -, heq⟩ := indexFile_readable shelf h
    rw [heq]
    dsimp only
    rw [Index.buildText_stub x disk hs]
    refine ⟨?_, (Index.rebuild_stub_frame hs _ text).2⟩
    cases hk : x.isKept shelf (.ofPath path) text with
    | true => rw [Index.rebuild_kept hk]
    | false => rw [Index.rebuild_stub hs hk, Index.library_withLibrary, if_neg hsh]

/-- Stubs change nothing in the other parts of the index. -/
theorem run_stub_library {sh : Shelf} (hs : shelf ≠ .workspace) (hsh : sh ≠ shelf)
    (h : indexEach? disk shelf x paths = some (y, results)) : y.library sh = x.library sh ∧ y.modules = x.modules :=
  run_induction (P := fun _ y _ => y.library sh = x.library sh ∧ y.modules = x.modules) ⟨rfl, rfl⟩
    (fun _ _ _ path ⟨hl, hm⟩ _ _ =>
      ⟨(indexFile_stub_library hs hsh path).1.trans hl, (indexFile_stub_library hs hsh path).2.trans hm⟩)
    paths h

/-- All stubs are those of files, in the order of their URIs. -/
theorem run_stubs (hs : shelf ≠ .workspace) (hempty : x.library shelf = .empty)
    (h : indexEach? disk shelf x paths = some (y, results)) :
    (y.library shelf).Ordered ∧ ∀ u d, (y.library shelf).find? u = some d → indexed results u = true := by
  refine run_induction (P := fun _ y results => (y.library shelf).Ordered ∧
    ∀ u d, (y.library shelf).find? u = some d → indexed results u = true)
    ⟨hempty ▸ Library.ordered_empty, fun u d hd => by rw [hempty] at hd; cases hd⟩ ?_ paths h
  rintro done y results path ⟨hordered, ih⟩ - -
  cases h : disk.readSource path y.config.maxFileSize with
  | error cause =>
    rw [(indexFile_unreadable shelf h).1]
    refine ⟨hordered, fun u d hd => ?_⟩
    rw [indexed_concat, ih u d hd, Bool.true_or]
  | ok text =>
    obtain ⟨d', -, heq⟩ := indexFile_readable shelf h
    have hsuccess := (indexFile_isSuccess_iff disk shelf y path).2 ⟨text, h⟩
    constructor
    · rw [heq]
      dsimp only
      rw [Index.buildText_stub y disk hs]
      cases hk : y.isKept shelf (.ofPath path) text with
      | true => rw [Index.rebuild_kept hk]; exact hordered
      | false =>
        rw [Index.rebuild_stub hs hk, Index.library_withLibrary, if_pos rfl]
        exact hordered.insert _
    · intro u d hd
      rw [indexed_concat, hsuccess, indexFile_uri, Bool.true_and, Bool.or_eq_true, decide_eq_true_iff]
      by_cases hu : Uri.ofPath path = u
      · exact .inr hu
      · rw [heq] at hd
        dsimp only at hd
        rw [Index.buildText_stub y disk hs,
          Index.rebuild_stub_other hs fun hsame => hu (Prod.mk.inj hsame).2.symm] at hd
        exact .inl (ih u d hd)

end

end Scan

end LuaAtlas
