/-
Definition search beside completion search. Both walk around a document and fall back on the globals of
the workspace. Definition search ends its walk at the first document that answers and completion search
goes on to the end, so what the one finds is a beginning of what the other finds. Neither misses a
symbol of the document itself or a global of the workspace, however short the walk is.
-/
import LuaAtlas.Proofs.Index.ReverseEdges
import LuaAtlas.Proofs.Index.Walk

namespace LuaAtlas.Index

/-! ## The first list that is not empty -/

theorem firstFound_append {α : Type} (ls ms : List (List α)) :
    firstFound (ls ++ ms) = if firstFound ls = [] then firstFound ms else firstFound ls := by
  induction ls with
  | nil => rfl
  | cons l ls ih => cases l with
    | nil => exact ih
    | cons a as => rfl

/-- The first list that is not empty is the first one that a search for such a list comes upon. -/
theorem firstFound_concat {α : Type} (ls : List (List α)) (last : List α) :
    firstFound (ls ++ [last]) = (ls.find? (!·.isEmpty)).getD last := by
  induction ls with
  | nil => cases last <;> rfl
  | cons l ls ih => cases l with
    | nil => exact ih
    | cons a as => rfl

theorem firstFound_eq_nil_iff {α : Type} {ls : List (List α)} : firstFound ls = [] ↔ ∀ l ∈ ls, l = [] := by
  induction ls with
  | nil => simp [firstFound]
  | cons l ls ih =>
    unfold firstFound
    cases l with
    | nil => simpa using ih
    | cons a as => simp

theorem firstFound_prefix_flatten {α : Type} : ∀ ls : List (List α), firstFound ls <+: ls.flatten
  | [] => List.nil_prefix
  | [] :: ls => firstFound_prefix_flatten ls
  | (a :: as) :: ls => List.prefix_append (a :: as) ls.flatten

/-! ## Scopes along a walk -/

/-- Of the document that a walk is around all symbols count, and of others the globals. -/
theorem walk_scope {x : Index} {uri : Uri} {v : Document × SearchScope} (h : v ∈ x.walk uri) :
    v.2 = if v.1.uri = uri then .all else .globals := by
  rcases walk_cases x uri with ⟨-, hwalk⟩ | ⟨d, below, seen, hd, hwalk, hwalks⟩
  · rw [hwalk] at h; cases h
  · rw [hwalk] at h
    rcases List.mem_cons.1 h with rfl | h
    · rw [if_pos (document?_mem hd).2]
    · obtain ⟨e, he, rfl⟩ := List.mem_map.1 h
      have hne : e.uri ≠ uri := fun heq => (hwalks.mem_iff.1 he).2.1 (List.mem_singleton.2 heq)
      rw [if_neg hne]

/-- A document is on its own walk. -/
theorem mem_walk_self {x : Index} {uri : Uri} {d : Document} (hd : x.document? uri = some d) :
    (d, SearchScope.all) ∈ x.walk uri := by
  obtain ⟨below, hwalk⟩ := walk_eq_cons hd
  rw [hwalk]
  exact List.mem_cons_self ..

section

variable (x : Index) (uri : Uri) (query : String) (mode : SearchMode) (origin : SearchScope)

/-- What the documents around `uri` answer, in the order of the walk: `uri` itself is searched in the scope
`origin`, and of the others the globals are. -/
def answersAround : List (List Symbol) :=
  (x.walk uri).map fun v => v.1.search query mode (if v.1.uri = uri then origin else .globals)

theorem answersAround_eq_map : x.answersAround uri query mode origin =
    (x.walk uri).map fun v => v.1.search query mode (if v.1.uri = uri then origin else v.2) := by
  refine List.map_congr_left fun v hv => ?_
  by_cases hu : v.1.uri = uri
  · rw [if_pos hu, if_pos hu]
  · rw [if_neg hu, if_neg hu, walk_scope hv, if_neg hu]

theorem searchDefinition_eq_firstFound : x.searchDefinition uri query mode origin =
    firstFound (x.answersAround uri query mode origin ++ [x.searchGlobals query mode]) := by
  rw [answersAround_eq_map]
  rfl

theorem searchCompletion_eq_firstFound : x.searchCompletion uri query mode =
    firstFound [(x.answersAround uri query mode .all).flatten, x.searchGlobals query mode,
      x.searchStubs query mode] := by
  have haround : ((x.walk uri).flatMap fun v => v.1.search query mode v.2) =
      (x.answersAround uri query mode .all).flatten := by
    unfold answersAround
    rw [← List.flatMap_def]
    refine List.flatMap_congr fun v hv => ?_
    rw [walk_scope hv]
  rw [← haround]
  rfl

/-! ## Ending the walk -/

/-- Ends a walk with what a document answers, if it answers. -/
def answer (d : Document) (scope : SearchScope) : Except (List Symbol) Unit :=
  let found := d.search query mode (if d.uri = uri then origin else scope)
  if found.isEmpty then .ok () else .error found

theorem forM_find? {α β : Type} (g : α → List β) : ∀ as : List α,
    (as.forM fun a => if (g a).isEmpty then .ok () else .error (g a) : Except (List β) Unit) =
      ((as.map g).find? (!·.isEmpty)).elim (.ok ()) .error
  | [] => rfl
  | a :: as => by
    rw [List.forM_eq_forM, List.forM_cons, List.map_cons]
    by_cases h : (g a).isEmpty = true
    · rw [if_pos h, List.find?_cons_of_neg (by simp [h])]
      exact forM_find? g as
    · rw [if_neg h, List.find?_cons_of_pos (by simpa using h)]
      rfl

/-- A walk that ends with the first answer ends with the first of all the answers around. -/
theorem visit_answer : x.visit uri (answer uri query mode origin) =
    ((x.answersAround uri query mode origin).find? (!·.isEmpty)).elim (.ok ()) .error := by
  rw [visit_eq_forM, answersAround_eq_map]
  exact forM_find? (fun v => v.1.search query mode (if v.1.uri = uri then origin else v.2)) (x.walk uri)

/-! ## What is missed -/

theorem answersAround_eq_nil_iff (hglobals : ∀ d ∈ x.workspace.documents, d.search query mode .globals = []) :
    (∀ l ∈ x.answersAround uri query mode origin, l = []) ↔
      ∀ d, x.document? uri = some d → d.search query mode origin = [] := by
  unfold answersAround
  simp only [List.forall_mem_map]
  constructor
  · intro h d hd
    have hself := h _ (mem_walk_self hd)
    rwa [if_pos (document?_mem hd).2] at hself
  · intro h v hv
    have hdoc := document?_of_mem_walk hv
    by_cases hu : v.1.uri = uri
    · rw [if_pos hu]
      exact h v.1 (hu ▸ hdoc)
    · rw [if_neg hu]
      exact hglobals v.1 (document?_mem hdoc).1

theorem searchGlobals_eq_nil_iff :
    x.searchGlobals query mode = [] ↔ ∀ d ∈ x.workspace.documents, d.search query mode .globals = [] :=
  List.flatMap_eq_nil_iff

theorem searchDefinition_eq_nil_iff : x.searchDefinition uri query mode origin = [] ↔
    (∀ d, x.document? uri = some d → d.search query mode origin = []) ∧
    ∀ d ∈ x.workspace.documents, d.search query mode .globals = [] := by
  rw [searchDefinition_eq_firstFound, firstFound_eq_nil_iff, List.forall_mem_append, List.forall_mem_singleton,
    searchGlobals_eq_nil_iff]
  exact and_congr_left (answersAround_eq_nil_iff x uri query mode origin)

theorem searchCompletion_eq_nil_iff : x.searchCompletion uri query mode = [] ↔
    x.searchDefinition uri query mode .all = [] ∧ x.searchStubs query mode = [] := by
  rw [searchCompletion_eq_firstFound, searchDefinition_eq_firstFound, firstFound_eq_nil_iff, firstFound_eq_nil_iff,
    List.forall_mem_append]
  simp [List.flatten_eq_nil_iff, and_assoc]

/-- Completion search begins with what definition search finds. -/
theorem searchDefinition_prefix_searchCompletion :
    x.searchDefinition uri query mode .all <+: x.searchCompletion uri query mode := by
  rw [searchCompletion_eq_firstFound, searchDefinition_eq_firstFound, firstFound_append]
  generalize x.answersAround uri query mode .all = answers
  by_cases hnone : firstFound answers = []
  · -- nothing is found around, and both go on to the globals
    rw [if_pos hnone, List.flatten_eq_nil_iff.2 (firstFound_eq_nil_iff.1 hnone)]
    cases x.searchGlobals query mode with
    | nil => exact List.nil_prefix
    | cons s ss => exact List.prefix_refl _
  · have hsome : answers.flatten ≠ [] := fun h => hnone (firstFound_eq_nil_iff.2 (List.flatten_eq_nil_iff.1 h))
    rw [if_neg hnone, firstFound, if_neg (by simpa using hsome)]
    exact firstFound_prefix_flatten answers

/-- Definition search, in any index and however far a walk goes. It gives what the first document on the walk
around `uri` answers that answers at all, where `uri` is searched in the scope `origin` and others in their
globals, as does ending the walk with the first answer; if none answers it gives all globals that are
found, by URI in an index that a run reaches. It finds nothing only if neither the document in that scope
nor the globals of any document have anything. Completion search begins with what definition search
finds in the whole document, and finds nothing only if the stubs have nothing either. -/
theorem definition_begins_completion :
    x.searchDefinition uri query mode origin =
      (((x.walk uri).map fun v => v.1.search query mode (if v.1.uri = uri then origin else .globals)).find?
        (!·.isEmpty)).getD (x.workspace.documents.flatMap (·.search query mode .globals)) ∧
    x.searchDefinition uri query mode origin =
      (match x.visit uri (answer uri query mode origin) with
      | .error found => found
      | .ok () => x.workspace.documents.flatMap (·.search query mode .globals)) ∧
    (∀ config steps, x = (empty config).run steps →
      x.workspace.documents.Pairwise fun d e => d.uri.text < e.uri.text) ∧
    (x.searchDefinition uri query mode origin = [] ↔
      (∀ d, x.document? uri = some d → d.search query mode origin = []) ∧
      ∀ d ∈ x.workspace.documents, d.search query mode .globals = []) ∧
    x.searchDefinition uri query mode .all <+: x.searchCompletion uri query mode ∧
    (x.searchCompletion uri query mode = [] →
      x.stdlib.search query mode .all = [] ∧ x.user.search query mode .all = []) := by
  have hfind := (x.searchDefinition_eq_firstFound uri query mode origin).trans (firstFound_concat _ _)
  refine ⟨hfind, ?_, ?_, x.searchDefinition_eq_nil_iff uri query mode origin,
    x.searchDefinition_prefix_searchCompletion uri query mode, fun h => ?_⟩
  · rw [hfind, visit_answer]
    cases (x.answersAround uri query mode origin).find? (!·.isEmpty) <;> rfl
  · rintro config steps rfl
    exact (sound_run config steps).ordered .workspace
  · exact List.append_eq_nil_iff.1 ((x.searchCompletion_eq_nil_iff uri query mode).1 h).2

end

end LuaAtlas.Index
