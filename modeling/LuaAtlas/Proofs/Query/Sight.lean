/-
What going to a definition may show. What is found for a name comes from the document itself, from documents around it
or through tags, and may well be a local that the use cannot see. It is kept only if it is no local of the document, or
one of a chunk around the use on its line or above; and as soon as the use of a local can see a local with its name,
the closest of those is shown.
-/
import LuaAtlas.Proofs.Index.Answers
import LuaAtlas.Proofs.Query.Definition

namespace LuaAtlas

/-! ## Where the symbols of a document belong -/

/-- The symbols of a document carry its URI, and none of its globals is a local. -/
structure Document.Owns (d : Document) : Prop where
  uri : ∀ s ∈ d.symbols, s.uri = d.uri
  globals : ∀ s ∈ d.globals.symbols, s.isLocal = false

namespace Document

theorem owns_build (shelf : Shelf) (uri : Uri) (o : Syntax.Outcome) : (build shelf uri o).Owns := by
  have hplain := Declare.symbols_plain shelf uri
  have huri : ∀ es as, ∀ s ∈ Declare.symbols shelf uri es as, s.uri = uri := by
    intro es as s hs
    have hs := List.mem_map_of_mem (f := Symbol.plain) hs
    rw [hplain] at hs
    obtain ⟨e, -, he⟩ := List.mem_map.1 hs
    exact (congrArg Symbol.uri he).symm
  have hglobals : ∀ ss : List Symbol, ∀ s ∈ ss.filter (!·.isLocal), s.isLocal = false := by
    intro ss s hs
    simpa using List.of_mem_filter hs
  cases o <;> exact ⟨huri _ _, hglobals _⟩

theorem owns_placeholder (uri : Uri) : (placeholder uri).Owns :=
  ⟨List.forall_mem_nil _, List.forall_mem_nil _⟩

theorem Owns.of_bare {d e : Document} (hb : e.bare = d.bare) (h : d.Owns) : e.Owns := by
  have hall : e.all = d.all := by injection hb
  have hglobals : e.globals = d.globals := by injection hb
  have huri : e.uri = d.uri := by injection hb
  constructor
  · unfold symbols
    rw [hall, huri]
    exact h.uri
  · rw [hglobals]
    exact h.globals

end Document

namespace Index

theorem run_owns (config : Config) (steps : List Step) {d : Document} (hd : ((empty config).run steps).Has d) :
    d.Owns :=
  Intrinsic.run ⟨fun _ _ hb h => h.of_bare hb, fun shelf uri _ => Document.owns_build shelf uri _,
    Document.owns_placeholder⟩ config steps hd

/-- A definition search that looks among globals only finds globals of the workspace. -/
theorem mem_searchDefinition_globals {x : Index} {uri : Uri} {query : String} {mode : SearchMode} {s : Symbol}
    (h : s ∈ x.searchDefinition uri query mode .globals) :
    ∃ d ∈ x.workspace.documents, s ∈ d.search query mode .globals := by
  obtain ⟨l, hl, hs⟩ := mem_firstFound h
  rcases List.mem_append.1 hl with hl | hl
  · obtain ⟨v, hv, rfl⟩ := List.mem_map.1 hl
    refine ⟨v.1, walk_documents x uri hv, ?_⟩
    have hscope := walk_scope hv
    dsimp only at hs
    by_cases huri : v.1.uri = uri
    · rwa [if_pos huri] at hs
    · rwa [if_neg huri, hscope, if_neg huri] at hs
  · rw [List.mem_singleton.1 hl] at hs
    exact List.mem_flatMap.1 hs

end Index

namespace Query

open LuaAtlas.Symbol

/-! ## Picking -/

theorem isLocalOf_iff {uri : Uri} {s : Symbol} : isLocalOf uri s = true ↔ s.isLocal = true ∧ s.uri = uri := by
  simp [isLocalOf]

/-- A use goes to something that it reaches, or to the local that is picked for it. -/
theorem Use.pick?_cases {u : Use} {found : List Symbol} {s : Symbol} (h : u.pick? found = some s) :
    u.isLocal = true ∧ pickLocal? (found.filter (isLocalOf u.uri)) u.stack u.line = some s ∨
      s ∈ found ∧ u.reaches s = true := by
  have hreached : ∀ {ss : List Symbol}, (ss.find? (!·.isLocal)).or ss.head? = some s → s ∈ ss := by
    intro ss h
    rcases Option.or_eq_some_iff.1 h with h | ⟨-, h⟩
    · exact List.mem_of_find?_eq_some h
    · exact List.mem_of_mem_head? h
  unfold Use.pick? at h
  dsimp only at h
  rcases Option.or_eq_some_iff.1 h with hpick | ⟨-, hreach⟩
  · split at hpick
    · rename_i hlocal
      exact .inl ⟨hlocal, hpick⟩
    · cases hpick
  · obtain ⟨hs, hreaches⟩ := List.mem_filter.1 (hreached hreach)
    exact .inr ⟨hs, hreaches⟩

/-- A use never goes to a local of its document that it cannot see. -/
theorem Use.pick?_visible {u : Use} {found : List Symbol} {s : Symbol} (h : u.pick? found = some s)
    (hs : isLocalOf u.uri s = true) : s.isVisibleFrom u.stack u.line = true := by
  rcases Use.pick?_cases h with ⟨-, hpick⟩ | ⟨-, hreaches⟩
  · exact (closest_of_pickLocal? hpick).2.2.1
  · unfold Use.reaches at hreaches
    rw [hs] at hreaches
    simp only [Bool.not_true, Bool.false_or, Bool.and_eq_true] at hreaches
    exact hreaches.2

/-- A use of something that is no local goes to something found for it, and never to a local of its document with its
own name. -/
theorem Use.pick?_global {u : Use} (hu : u.isLocal = false) {found : List Symbol} {s : Symbol}
    (h : u.pick? found = some s) : s ∈ found ∧ (isLocalOf u.uri s = true → s.searchName ≠ u.name) := by
  rcases Use.pick?_cases h with ⟨hlocal, -⟩ | ⟨hs, hreaches⟩
  · rw [hu] at hlocal
    cases hlocal
  · refine ⟨hs, fun hself => ?_⟩
    unfold Use.reaches at hreaches
    rw [hself, hu] at hreaches
    simp only [Bool.not_true, Bool.false_or, Bool.and_eq_true] at hreaches
    exact of_decide_eq_true hreaches.1

/-- What a global without dots may mean is global. -/
theorem Use.found_global {x : Index} (howns : ∀ d ∈ x.workspace.documents, d.Owns) {u : Use} (hu : u.isLocal = false)
    (hname : Name.isDotted u.name = false) {s : Symbol} (hs : s ∈ u.found x) : s.isLocal = false := by
  unfold Use.found at hs
  dsimp only at hs
  rw [hname, Bool.and_false, if_neg (by simp), hu, if_neg (by simp)] at hs
  obtain ⟨d, hd, hs⟩ := Index.mem_searchDefinition_globals hs
  exact (howns d hd).globals s (Partition.mem_search_exactlyEqual.1 hs).1

/-- A use of a local that can see a local of its document with its name goes to one of the closest. -/
theorem Use.exists_pick? {x : Index} (howns : ∀ d ∈ x.workspace.documents, d.Owns) {u : Use} (hu : u.isLocal = true)
    {d : Document} (hd : x.document? u.uri = some d) (hname : Name.normalize u.name = u.name)
    (hr : ∃ r ∈ d.symbols, r.isLocal = true ∧ r.searchName = u.name ∧ r.isVisibleFrom u.stack u.line = true) :
    ∃ s ∈ d.symbols, u.pick? (u.found x) = some s ∧ s.uri = u.uri ∧ s.isLocal = true ∧ s.searchName = u.name ∧
      s.isVisibleFrom u.stack u.line = true ∧
      ∀ r ∈ d.symbols, isRival u.stack u.line s r = true → r.isCloser s = false := by
  obtain ⟨r, hr, hrlocal, hrname, hrvisible⟩ := hr
  obtain ⟨hmem, huri⟩ := Index.document?_mem hd
  have hall := Use.found_local hu hd hname hr hrname
  have hcandidate : ∀ {t}, t ∈ d.symbols → t.isLocal = true → t.searchName = u.name →
      t ∈ (u.found x).filter (isLocalOf u.uri) := by
    intro t ht htlocal htname
    rw [hall]
    simp [ht, htname, isLocalOf, htlocal, (howns d hmem).uri t ht, huri]
  obtain ⟨s, hpick⟩ := exists_pickLocal? (hcandidate hr hrlocal hrname) hrlocal hrvisible
  obtain ⟨hs, hslocal, hsvisible, hclosest⟩ := closest_of_pickLocal? hpick
  obtain ⟨hs, -⟩ := List.mem_filter.1 hs
  rw [hall] at hs
  obtain ⟨hs, hsname⟩ := List.mem_filter.1 hs
  have hsname : s.searchName = u.name := of_decide_eq_true hsname
  refine ⟨s, hs, ?_, ((howns d hmem).uri s hs).trans huri, hslocal, hsname, hsvisible, fun t ht hrival => ?_⟩
  · unfold Use.pick?
    dsimp only
    rw [if_pos hu, hpick]
    rfl
  · simp only [isRival, Bool.and_eq_true, decide_eq_true_eq] at hrival
    exact hclosest t (hcandidate ht hrival.1.1 (hrival.1.2.trans hsname)) hrival.1.1 hrival.2

/-- The search spelling of a name is what a cursor points at. -/
theorem normalize_of_hitAt? {d : Document} {p : Position} {name : String} {range : Range} {isLocal : Bool}
    {stack : List ChunkRef} (h : d.hitAt? p = some (.name name range isLocal stack)) : Name.normalize name = name := by
  obtain ⟨e, -, he⟩ := List.exists_of_findSome?_eq_some h
  unfold Document.hitOf? at he
  split at he
  · split at he
    · cases he
      exact Name.normalize_normalize _
    · cases he
  · split at he <;> cases he
  · cases he

/-- What a cursor on a name goes to, in an index that any run leads to. A local of the same document is shown only if
it stands in a chunk around the use, on its line or above. A use of something that is no local is never shown a local
of the document with its own name, and a global symbol if its name has no dot. A use of a local that can see a local
of the document with its name is shown one in the deepest chunk, and of those there one on the lowest line. -/
theorem definition_is_in_sight (config : Config) (steps : List Index.Step) {uri : Uri} {d : Document}
    (hd : ((Index.empty config).run steps).document? uri = some d) {p : Position} {name : String} {range : Range}
    {isLocal : Bool} {stack : List ChunkRef} (hhit : d.hitAt? p = some (.name name range isLocal stack)) :
    let goal := definition? ((Index.empty config).run steps) uri p
    (∀ s, goal = some (.symbol s) → s.isLocal = true → s.uri = uri →
      s.startLine ≤ range.start.line ∧ s.containers <+: stack) ∧
    (isLocal = false → ∀ s, goal = some (.symbol s) →
      ¬ (s.isLocal = true ∧ s.uri = uri ∧ s.searchName = name) ∧ (Name.isDotted name = false → s.isLocal = false)) ∧
    (isLocal = true →
      (∃ r ∈ d.symbols, r.isLocal = true ∧ r.searchName = name ∧ r.isVisibleFrom stack range.start.line = true) →
      ∃ s ∈ d.symbols, goal = some (.symbol s) ∧ s.uri = uri ∧ s.isLocal = true ∧ s.searchName = name ∧
        s.isVisibleFrom stack range.start.line = true ∧
        ∀ r ∈ d.symbols, isRival stack range.start.line s r = true → r.isCloser s = false) := by
  have howns : ∀ e ∈ ((Index.empty config).run steps).workspace.documents, e.Owns :=
    fun e he => Index.run_owns config steps ⟨.workspace, he⟩
  generalize (Index.empty config).run steps = x at hd howns
  have hspelling := normalize_of_hitAt? hhit
  let u : Use := ⟨uri, name, isLocal, stack, range.start.line⟩
  intro goal
  have hgoal : goal = (u.pick? (u.found x)).map .symbol := definition?_of_hit hd hhit
  have hpicked : ∀ {s}, goal = some (.symbol s) → u.pick? (u.found x) = some s := by
    intro s hs
    obtain ⟨t, ht, hts⟩ := Option.map_eq_some_iff.1 (hgoal.symm.trans hs)
    cases hts
    exact ht
  refine ⟨fun s hs hlocal hself => ?_, fun hglobal s hs => ?_, fun hlocal hr => ?_⟩
  · have hvisible := Use.pick?_visible (hpicked hs) (isLocalOf_iff.2 ⟨hlocal, hself⟩)
    simpa [isVisibleFrom, sharedDepth?] using hvisible
  · obtain ⟨hfound, hname⟩ := Use.pick?_global (u := u) hglobal (hpicked hs)
    constructor
    · rintro ⟨hlocal, hself, hsame⟩
      exact hname (isLocalOf_iff.2 ⟨hlocal, hself⟩) hsame
    · intro hplain
      exact Use.found_global howns (u := u) hglobal hplain hfound
  · obtain ⟨s, hs, hpick, hs'⟩ := Use.exists_pick? howns (u := u) hlocal hd hspelling hr
    exact ⟨s, hs, by rw [hgoal, hpick]; rfl, hs'⟩

set_option maxRecDepth 100000 in
/-- The call behind a function with a parameter of the same name sees the variable in front of that function. -/
theorem definition_in_sight_of_call :
    let x := (Index.empty {}).run [.build .empty .workspace mainUri (some behindParameter)]
    ∃ d s, x.document? mainUri = some d ∧
      d.hitAt? ⟨2, 0⟩ = some (.name "x" ⟨⟨2, 0⟩, ⟨2, 1⟩⟩ true [⟨"m.lua", ⟨⟨0, 0⟩, ⟨3, 0⟩⟩⟩]) ∧ s ∈ d.symbols ∧
      definition? x mainUri ⟨2, 0⟩ = some (.symbol s) ∧ s.isLocal = true ∧ s.searchName = "x" ∧ s.startLine ≤ 2 ∧
      s.containers <+: [⟨"m.lua", ⟨⟨0, 0⟩, ⟨3, 0⟩⟩⟩] := by
  intro x
  have hinput : (x.document? mainUri).any (fun d =>
      decide (d.hitAt? ⟨2, 0⟩ = some (.name "x" ⟨⟨2, 0⟩, ⟨2, 1⟩⟩ true [⟨"m.lua", ⟨⟨0, 0⟩, ⟨3, 0⟩⟩⟩])) &&
        d.symbols.any fun r =>
          r.isLocal && (r.searchName = "x" && r.isVisibleFrom [⟨"m.lua", ⟨⟨0, 0⟩, ⟨3, 0⟩⟩⟩] 2)) = true := by
    decide +kernel
  obtain ⟨d, hd, hinput⟩ := (Option.any_eq_true ..).1 hinput
  simp only [Bool.and_eq_true, List.any_eq_true, decide_eq_true_eq] at hinput
  obtain ⟨hhit, r, hr⟩ := hinput
  obtain ⟨hseen, -, hpicks⟩ := definition_is_in_sight {} _ hd hhit
  obtain ⟨s, hs, hgoal, huri, hlocal, hname, -, -⟩ := hpicks rfl ⟨r, hr⟩
  exact ⟨d, s, hd, hhit, hs, hgoal, hlocal, hname, hseen s hgoal hlocal huri⟩

end Query

end LuaAtlas
