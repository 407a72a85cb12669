/-
Where answers come from. Whatever is found by a search of an index is found in one of its documents; and
every document that a run builds files its symbols in partitions with their own prefix trees. Hence a name
that is found is the name asked for, or begins with it.
-/
import LuaAtlas.Proofs.Index.ReverseEdges
import LuaAtlas.Proofs.Index.Walk
import LuaAtlas.Proofs.Name
import LuaAtlas.Proofs.Partition
import Mathlib.Algebra.Order.BigOperators.Group.List

namespace LuaAtlas

/-! ## Documents and their partitions -/

namespace Document

/-- The symbols of all partitions of a document. -/
def filedSymbols (d : Document) : List Symbol := d.all.symbols ++ d.globals.symbols ++ d.locals.symbols

theorem partition_symbols_subset (d : Document) (scope : SearchScope) :
    (d.partition scope).symbols ⊆ d.filedSymbols := by
  intro s hs
  unfold filedSymbols
  cases scope
  · exact List.mem_append_left _ (List.mem_append_left _ hs)
  · exact List.mem_append_left _ (List.mem_append_right _ hs)
  · exact List.mem_append_right _ hs

/-- By whole names no more is found than is filed. -/
theorem length_search_le (d : Document) (query : String) (scope : SearchScope) :
    (d.search query .exactlyEqual scope).length ≤ d.filedSymbols.length := by
  have hfilter : (d.search query .exactlyEqual scope).length ≤ (d.partition scope).symbols.length := by
    unfold search
    rw [Partition.search_exactlyEqual]
    exact List.length_filter_le ..
  have hpart : (d.partition scope).symbols.length ≤ d.filedSymbols.length := by
    unfold filedSymbols partition
    cases scope <;> simp only [List.length_append] <;> omega
  exact hfilter.trans hpart

theorem searchName_of_mem_search {d : Document} {query : String} {scope : SearchScope} {s : Symbol}
    (h : s ∈ d.search query .exactlyEqual scope) : s.searchName = Name.normalize query :=
  (Partition.mem_search_exactlyEqual.1 h).2

theorem mem_filedSymbols_of_search {d : Document} {query : String} {mode : SearchMode} {scope : SearchScope}
    {s : Symbol} (h : s ∈ d.search query mode scope) : s ∈ d.filedSymbols := by
  refine partition_symbols_subset d scope ?_
  unfold search at h
  rw [(d.partition scope).eq_ofList] at h
  exact Partition.mem_of_mem_search h

theorem searchName_begins {d : Document} {query : String} {scope : SearchScope} {s : Symbol}
    (h : s ∈ d.search query .prefixMatch scope) : (Name.normalize query).toList <+: s.searchName.toList := by
  unfold search at h
  rw [(d.partition scope).eq_ofList] at h
  exact (Partition.mem_search_prefixMatch h).2

end Document

namespace Index

/-- The document stands somewhere in the index. -/
def Has (x : Index) (d : Document) : Prop := ∃ shelf, d ∈ (x.library shelf).documents

/-! ## Documents of a run -/

/-- A property of documents that does not depend on who requires them, and that the documents of all texts and
placeholders have. -/
structure Intrinsic (P : Document → Prop) : Prop where
  bare : ∀ d e : Document, e.bare = d.bare → P d → P e
  build : ∀ shelf uri text, P (.build shelf uri (Syntax.parse text))
  placeholder : ∀ uri, P (.placeholder uri)

/-- All documents of an index have a property. -/
def Everywhere (P : Document → Prop) (x : Index) : Prop :=
  ∀ shelf u d, (x.library shelf).find? u = some d → P d

theorem everywhere_empty (P : Document → Prop) (config : Config) : Everywhere P (empty config) := by
  intro shelf u d h
  cases shelf <;> cases h

section

variable {P : Document → Prop} (hP : Intrinsic P)
include hP

theorem Intrinsic.onDisk (x : Index) (disk : Disk) (u : Uri) : P (x.onDisk disk u) := by
  unfold Index.onDisk
  split
  · exact hP.build ..
  · exact hP.placeholder u

theorem Intrinsic.replacement (x : Index) (shelf : Shelf) (uri : Uri) (text : String) :
    P (x.replacement shelf uri text) := by
  refine hP.bare (.build shelf uri (Syntax.parse text)) _ ?_ (hP.build ..)
  rw [replacement_bare, Document.build_bare]

theorem Everywhere.linked {disk : Disk} {x y : Index} {uri : Uri} {ts loaded : List Uri} (h : Everywhere P x)
    (hl : Linked disk uri ts x y loaded) : Everywhere P y := by
  intro shelf u e he
  by_cases hs : shelf = .workspace
  · subst hs
    cases hx : x.document? u with
    | some d =>
      obtain ⟨e', he', hb⟩ := hl.old_bare hx
      cases he.symm.trans he'
      exact hP.bare d e hb (h .workspace u d hx)
    | none =>
      obtain ⟨-, rfl⟩ := hl.new hx he
      exact hP.bare _ _ (Document.addReference_bare ..) (hP.onDisk x disk u)
  · rw [hl.frame.library hs] at he
    exact h shelf u e he

theorem Everywhere.replaced {x y : Index} {d : Document} (h : Everywhere P x) (hr : Replaced x d y) (hd : P d) :
    Everywhere P y := by
  intro shelf u e he
  by_cases hs : shelf = .workspace
  · subst hs
    obtain ⟨e₀, h₀, rfl⟩ := Option.map_eq_some_iff.1 ((hr.document u).symm.trans he)
    have hb : (if u ∈ x.stale d.uri d then e₀.dropReference d.uri else e₀).bare = e₀.bare := by
      split
      · exact Document.dropReference_bare ..
      · rfl
    refine hP.bare e₀ _ hb ?_
    split at h₀
    · cases h₀
      exact hd
    · exact h .workspace u e₀ h₀
  · rw [hr.frame.library hs] at he
    exact h shelf u e he

theorem Everywhere.rebuild {x : Index} (h : Everywhere P x) (shelf : Shelf) (uri : Uri) (text : String) :
    Everywhere P (x.rebuild shelf uri text).1 := by
  have hd := hP.replacement x shelf uri text
  cases hk : x.isKept shelf uri text with
  | true =>
    rw [rebuild_kept hk]
    exact h
  | false =>
    by_cases hs : shelf = .workspace
    · subst hs
      exact h.replaced hP (rebuild_replaced hk) hd
    · rw [rebuild_stub hs hk]
      generalize x.replacement shelf uri text = d at hd ⊢
      intro sh u e he
      rw [library_withLibrary] at he
      split at he
      · rw [Library.find?_insert] at he
        split at he
        · cases he
          exact hd
        · exact h shelf u e he
      · exact h sh u e he

theorem Everywhere.buildText {x : Index} (h : Everywhere P x) (disk : Disk) (shelf : Shelf) (uri : Uri)
    (text : String) : Everywhere P (x.buildText disk shelf uri text).1 := by
  by_cases hs : shelf = .workspace
  · subst hs
    have hregister : Everywhere P (x.register uri) := by
      intro sh u d hd
      rw [register_library] at hd
      exact h sh u d hd
    obtain ⟨d, hd⟩ := rebuild_self (x.register uri) uri text
    rw [buildText_workspace]
    exact link_induction (P := fun _ y => Everywhere P y) hd (fun _ _ _ _ _ _ hy _ hl => hy.linked hP hl)
      (hregister.rebuild hP .workspace uri text)
  · rw [buildText_stub x disk hs]
    exact h.rebuild hP shelf uri text

theorem Everywhere.step {x : Index} (h : Everywhere P x) (s : Step) : Everywhere P (x.step s) := by
  cases s with
  | register uri =>
    intro shelf u d hd
    have hlib : (x.step (.register uri)).library shelf = x.library shelf := register_library x uri shelf
    rw [hlib] at hd
    exact h shelf u d hd
  | build disk shelf uri text? =>
    rcases step_build x disk shelf uri text? with ⟨text, -, hy⟩ | ⟨err, -, hy⟩
    · rw [hy]
      exact h.buildText hP disk shelf uri text
    · rw [hy]
      exact h
  | reset => exact everywhere_empty P x.config
  | init config => exact everywhere_empty P config

/-- Every document that a run leads to has the property. -/
theorem Intrinsic.run (config : Config) (steps : List Step) {d : Document} (hd : ((empty config).run steps).Has d) :
    P d := by
  have hrun : Everywhere P ((empty config).run steps) :=
    run_induction steps (fun _ s _ h => h.step hP s) _ (everywhere_empty P config)
  obtain ⟨shelf, hd⟩ := hd
  exact hrun shelf d.uri d (((sound_run config steps).ordered shelf).find?_mem hd)

end

/-! ## Searches -/

theorem firstFound_mem {α : Type} : ∀ ls : List (List α), firstFound ls = [] ∨ firstFound ls ∈ ls
  | [] => .inl rfl
  | l :: ls => by
    unfold firstFound
    split
    · exact (firstFound_mem ls).imp_right (List.mem_cons_of_mem l)
    · exact .inr (List.mem_cons_self ..)

theorem mem_firstFound {α : Type} {a : α} {ls : List (List α)} (h : a ∈ firstFound ls) : ∃ l ∈ ls, a ∈ l := by
  rcases firstFound_mem ls with hnone | hmem
  · rw [hnone] at h; cases h
  · exact ⟨_, hmem, h⟩

theorem walk_documents (x : Index) (uri : Uri) {v : Document × SearchScope} (h : v ∈ x.walk uri) :
    v.1 ∈ x.workspace.documents :=
  (document?_mem (document?_of_mem_walk h)).1

/-- The symbol is found by a query in some document of the index. -/
def Finds (x : Index) (query : String) (mode : SearchMode) (s : Symbol) : Prop :=
  ∃ d scope, x.Has d ∧ s ∈ d.search query mode scope

theorem finds_of_library {x : Index} {query : String} {mode : SearchMode} {s : Symbol} (shelf : Shelf)
    {scope : SearchScope} (h : s ∈ (x.library shelf).search query mode scope) : x.Finds query mode s := by
  obtain ⟨d, hd, hs⟩ := List.mem_flatMap.1 h
  exact ⟨d, scope, ⟨shelf, hd⟩, hs⟩

theorem finds_of_searchDocument {x : Index} {uri : Uri} {query : String} {mode : SearchMode} {scope : SearchScope}
    {s : Symbol} (h : s ∈ x.searchDocument uri query mode scope) : x.Finds query mode s := by
  unfold searchDocument at h
  cases hd : x.document? uri with
  | none =>
    rw [hd] at h
    cases h
  | some d =>
    rw [hd] at h
    exact ⟨d, scope, ⟨.workspace, (document?_mem hd).1⟩, h⟩

theorem finds_of_searchDefinition {x : Index} {uri : Uri} {query : String} {mode : SearchMode} {origin : SearchScope}
    {s : Symbol} (h : s ∈ x.searchDefinition uri query mode origin) : x.Finds query mode s := by
  obtain ⟨l, hl, hs⟩ := mem_firstFound h
  rcases List.mem_append.1 hl with hl | hl
  · obtain ⟨v, hv, rfl⟩ := List.mem_map.1 hl
    exact ⟨v.1, _, ⟨.workspace, walk_documents x uri hv⟩, hs⟩
  · rw [List.mem_singleton.1 hl] at hs
    exact finds_of_library .workspace hs

theorem finds_of_searchCompletion {x : Index} {uri : Uri} {query : String} {mode : SearchMode} {s : Symbol}
    (h : s ∈ x.searchCompletion uri query mode) : x.Finds query mode s := by
  obtain ⟨l, hl, hs⟩ := mem_firstFound h
  simp only [List.mem_cons, List.not_mem_nil, or_false] at hl
  rcases hl with rfl | rfl | rfl
  · obtain ⟨v, hv, hs⟩ := List.mem_flatMap.1 hs
    exact ⟨v.1, v.2, ⟨.workspace, walk_documents x uri hv⟩, hs⟩
  · exact finds_of_library .workspace hs
  · rcases List.mem_append.1 hs with hs | hs
    · exact finds_of_library .stdlib hs
    · exact finds_of_library .user hs

/-- A list of what a query finds in the workspace: nothing, what is found in one document, or what is found among
all globals. -/
inductive Yields (x : Index) (query : String) (mode : SearchMode) : List Symbol → Prop
  | nothing : Yields x query mode []
  | document {d : Document} (scope : SearchScope) : d ∈ x.workspace.documents →
      Yields x query mode (d.search query mode scope)
  | globals : Yields x query mode (x.searchGlobals query mode)

theorem yields_firstFound {x : Index} {query : String} {mode : SearchMode} {ls : List (List Symbol)}
    (h : ∀ l ∈ ls, x.Yields query mode l) : x.Yields query mode (firstFound ls) := by
  rcases firstFound_mem ls with hnone | hmem
  · rw [hnone]
    exact .nothing
  · exact h _ hmem

theorem yields_searchDocument (x : Index) (uri : Uri) (query : String) (mode : SearchMode) (scope : SearchScope) :
    x.Yields query mode (x.searchDocument uri query mode scope) := by
  unfold searchDocument
  cases hd : x.document? uri with
  | none => exact .nothing
  | some d => exact .document scope (document?_mem hd).1

theorem yields_searchDefinition (x : Index) (uri : Uri) (query : String) (mode : SearchMode) (origin : SearchScope) :
    x.Yields query mode (x.searchDefinition uri query mode origin) := by
  unfold searchDefinition
  refine yields_firstFound fun l hl => ?_
  rcases List.mem_append.1 hl with hl | hl
  · obtain ⟨v, hv, hsearch⟩ := List.mem_map.1 hl
    rw [← hsearch]
    exact .document _ (walk_documents x uri hv)
  · rw [List.mem_singleton.1 hl]
    exact .globals

/-- All symbols of the workspace. -/
def filedSymbols (x : Index) : List Symbol := x.workspace.documents.flatMap Document.filedSymbols

/-- By whole names no more is found than the workspace has. -/
theorem Yields.length_le {x : Index} {query : String} {l : List Symbol} (h : x.Yields query .exactlyEqual l) :
    l.length ≤ x.filedSymbols.length := by
  unfold filedSymbols
  rw [List.length_flatMap]
  cases h with
  | nothing => exact Nat.zero_le _
  | document scope hd =>
    refine (Document.length_search_le _ query scope).trans ?_
    exact List.single_le_sum (fun n _ => Nat.zero_le n) _ (List.mem_map_of_mem hd)
  | globals =>
    show (x.workspace.documents.flatMap (·.search query .exactlyEqual .globals)).length ≤ _
    rw [List.length_flatMap]
    exact List.sum_le_sum fun d _ => d.length_search_le query .globals

theorem Yields.subset {x : Index} {query : String} {l : List Symbol} (h : x.Yields query .exactlyEqual l) :
    l ⊆ x.filedSymbols := by
  have hdocument : ∀ d ∈ x.workspace.documents, ∀ scope, d.search query .exactlyEqual scope ⊆ x.filedSymbols := by
    intro d hd scope s hs
    have hfiled := d.partition_symbols_subset scope (Partition.mem_search_exactlyEqual.1 hs).1
    exact List.mem_flatMap.2 ⟨d, hd, hfiled⟩
  cases h with
  | nothing => exact List.nil_subset _
  | document scope hd => exact hdocument _ hd scope
  | globals =>
    intro s hs
    obtain ⟨d, hd, hs⟩ := List.mem_flatMap.1 hs
    exact hdocument d hd .globals hs

/-- By whole names a query finds symbols of that name. -/
theorem Finds.searchName_eq {x : Index} {query : String} {s : Symbol} (h : x.Finds query .exactlyEqual s) :
    s.searchName = Name.normalize query := by
  obtain ⟨d, scope, -, hs⟩ := h
  exact Document.searchName_of_mem_search hs

end Index

end LuaAtlas
