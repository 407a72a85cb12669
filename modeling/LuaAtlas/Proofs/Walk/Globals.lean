/-
Global definitions are found. A declared function is always a symbol of its own. An assignment declares a symbol
only if its name is new in the file, whatever that name meant before: after a local of the same spelling, even one
that is not in scope any more, the assignment of a global leaves no trace. As long as its name has not been taken by
locals only, every global definition of a file can be found from other files.
-/
import LuaAtlas.Proofs.Index.Search
import LuaAtlas.Proofs.Walk.Scope
import LuaAtlas.Proofs.Walk.Views

namespace LuaAtlas.Declare

open LuaAtlas.Walk

/-! ## Declarations that count -/

/-- What counts behind some events depends on what was declared in them. -/
theorem effective_append : ∀ (es fs : List Event) (known : List String), effective known (es ++ fs) =
    effective known es ++ effective (((effective known es).map (Name.normalize ·.name)).reverse ++ known) fs
  | [], fs, known => rfl
  | e :: es, fs, known => by
    cases e with
    | declared d =>
      rw [List.cons_append, effective, effective]
      split
      · exact effective_append es fs known
      · rw [effective_append es fs, List.map_cons, List.reverse_cons, List.append_assoc]
        rfl
    | _ => exact effective_append es fs known

/-- The declaration of a name that is no search name yet counts, and so does any that is not made for new names
only. -/
theorem effective_of_split {before after : List Event} {d : Declaration}
    (h : d.onlyNew = false ∨ ∀ e ∈ declarations before, Name.normalize e.name ≠ d.name) :
    d ∈ effective [] (before ++ .declared d :: after) := by
  rw [effective_append, List.append_nil]
  refine List.mem_append_right _ ?_
  rw [effective, if_neg]
  · exact List.mem_cons_self ..
  · intro hknown
    obtain ⟨hnew, hmem⟩ := Bool.and_eq_true_iff.1 hknown
    rcases h with h | h
    · exact Bool.false_ne_true (h.symm.trans hnew)
    · rw [List.contains_iff_mem, List.mem_reverse] at hmem
      obtain ⟨e, he, hname⟩ := List.mem_map.1 hmem
      exact h e ((effective_sublist before []).subset he) hname

/-- The first declaration of a name under any spelling. -/
def firstDeclared? (name : String) (es : List Event) : Option Declaration :=
  (declarations es).find? fun d => Name.normalize d.name = Name.normalize name

theorem name_of_firstDeclared? {name : String} {es : List Event} {d : Declaration}
    (h : firstDeclared? name es = some d) : Name.normalize d.name = Name.normalize name := by
  simpa using List.find?_some h

theorem firstDeclared?_append {name : String} {es : List Event} {d : Declaration} (h : firstDeclared? name es = some d)
    (fs : List Event) : firstDeclared? name (es ++ fs) = some d := by
  unfold firstDeclared? declarations at h ⊢
  rw [List.filterMap_append, List.find?_append, h]
  rfl

/-- The first declaration of a name counts. -/
theorem effective_of_first {name : String} : ∀ {es : List Event} {d : Declaration}, firstDeclared? name es = some d →
    d ∈ effective [] es := by
  intro es d h
  obtain ⟨hname, ds, ds', hsplit, hfirst⟩ := List.find?_eq_some_iff_append.1 h
  obtain ⟨before, rest, rfl, hbefore, hrest⟩ := List.filterMap_eq_append_iff.1 hsplit
  obtain ⟨skipped, e, after, rfl, hskipped, hd, -⟩ := List.filterMap_eq_cons_iff.1 hrest
  cases e with
  | declared d' =>
    cases hd
    rw [← List.append_assoc]
    refine effective_of_split (.inr fun e he heq => ?_)
    have hsame : Name.normalize e.name = Name.normalize name := by
      rw [← Name.normalize_normalize, heq]
      simpa using hname
    have hmem : e ∈ ds := by
      unfold declarations at he
      rw [List.filterMap_append, List.filterMap_eq_nil_iff.2 hskipped, List.append_nil, hbefore] at he
      exact he
    have hnot := hfirst e hmem
    simp [hsame] at hnot
  | _ => cases hd

/-- Whether a name has been taken as a search name, and by locals only. -/
def TakenByLocals (name : String) (es : List Event) : Prop :=
  (∃ d ∈ effective [] es, Name.normalize d.name = name) ∧
    ∀ d ∈ effective [] es, Name.normalize d.name = name → d.isLocal = true

/-- A name that has not been taken by locals only is free, or it is that of a global. -/
theorem free_or_global {name : String} {es : List Event} (h : ¬ TakenByLocals name es) :
    (∀ e ∈ declarations es, Name.normalize e.name ≠ name) ∨
      ∃ d ∈ effective [] es, Name.normalize d.name = name ∧ d.isLocal = false := by
  by_cases htaken : ∃ e ∈ declarations es, Name.normalize e.name = name
  · obtain ⟨e, he, rfl⟩ := htaken
    cases hfirst : firstDeclared? (Name.normalize e.name) es with
    | none =>
      have hnot := List.find?_eq_none.1 hfirst e he
      simp at hnot
    | some d =>
      have hname := name_of_firstDeclared? hfirst
      rw [Name.normalize_normalize] at hname
      refine .inr ?_
      by_contra hlocal
      refine h ⟨⟨d, effective_of_first hfirst, hname⟩, fun c hc hsame => ?_⟩
      by_contra hglobal
      exact hlocal ⟨c, hc, hsame, Bool.eq_false_iff.2 hglobal⟩
  · exact .inl fun e he heq => htaken ⟨e, he, heq⟩

end LuaAtlas.Declare

namespace LuaAtlas.Document

open LuaAtlas.Syntax LuaAtlas.Walk LuaAtlas.Declare

/-- A global declaration that counts is found among the globals. -/
theorem search_of_effective {shelf : Shelf} {uri : Uri} {state : DocumentState} {file : File} {d : Declaration}
    (hd : d ∈ effective [] (events uri file)) (hglobal : d.isLocal = false) {name : String}
    (hname : Name.normalize d.name = Name.normalize name) :
    (ofFile shelf uri state file).search name .exactlyEqual .globals ≠ [] := by
  have hplain := symbols_plain shelf uri (events uri file) (annotations file.comments)
  have hmem := List.mem_map_of_mem (f := (symbolOf shelf uri · |>.plain)) hd
  rw [← hplain] at hmem
  obtain ⟨s, hs, heq⟩ := List.mem_map.1 hmem
  have hlocal : s.isLocal = d.isLocal := congrArg Symbol.isLocal heq
  have hsearch : s.searchName = Name.normalize d.name := congrArg Symbol.searchName heq
  refine List.ne_nil_of_mem (a := s) (Partition.mem_search_exactlyEqual.2 ⟨?_, hsearch.trans hname⟩)
  refine List.mem_filter.2 ⟨hs, ?_⟩
  rw [hlocal, hglobal]
  rfl

/-! ## Definitions -/

/-- A definition that does not start from a local in scope is found among the globals of its file, if it is a
declared function or if its name has not been taken by locals only in front of it. -/
theorem global_definition_found (shelf : Shelf) (uri : Uri) (state : DocumentState) (file : File) {g : Definition}
    (hg : g ∈ file.definitions) {name : String} (hname : g.target.dottedName? = some name)
    (hglobal : Name.root name ∉ g.scope)
    (hfree : g.isFunction = true ∨ ∀ before d after, events uri file = before ++ .declared d :: after →
      d.name = name → d.range = g.target.range → ¬ TakenByLocals name before) :
    (ofFile shelf uri state file).search name .exactlyEqual .globals ≠ [] := by
  obtain ⟨d, hd, hmakes⟩ := covers_file uri file g hg name hname
  obtain ⟨before, after, hsplit⟩ := List.append_of_mem hd
  have hself : d.isLocal = false := hmakes.isGlobal hglobal
  have hspelled : Name.normalize d.name = Name.normalize name := congrArg Name.normalize hmakes.called
  rcases hfree with hfunction | hfree
  · have hcounts : d ∈ effective [] (events uri file) := by
      rw [hsplit]
      exact effective_of_split (.inl (by rw [hmakes.onlyNew, hfunction]; rfl))
    exact search_of_effective hcounts hself hspelled
  · -- either this is the first declaration of the name, or some global is declared in front of it
    rcases free_or_global (hfree before d after hsplit hmakes.called hmakes.range) with hnew | ⟨e, he, hsame, heGlobal⟩
    · have hcounts : d ∈ effective [] (events uri file) := by
        rw [hsplit]
        exact effective_of_split (.inr (hmakes.called ▸ hnew))
      exact search_of_effective hcounts hself hspelled
    · have hcounts : e ∈ effective [] (events uri file) := by
        rw [hsplit, effective_append]
        exact List.mem_append_left _ he
      refine search_of_effective hcounts heGlobal ?_
      rw [← hsame, Name.normalize_normalize]

/-- The file `x=1 function f(x) end x=2`. -/
def assignedAround : File := (parse "x=1 function f(x) end x=2").file

set_option maxRecDepth 100000 in
/-- The second `x` is assigned behind a parameter `x`, but the first one was declared before that. -/
theorem found_around_parameter : ∃ g ∈ assignedAround.definitions, g.target.dottedName? = some "x" ∧
    g.isFunction = false ∧ g.target.range.start = ⟨0, 22⟩ ∧ Name.root "x" ∉ g.scope ∧
    (firstDeclared? "x" (events ⟨"file:///m.lua"⟩ assignedAround)).all (!·.isLocal) = true ∧
    (ofFile .workspace ⟨"file:///m.lua"⟩ .complete assignedAround).search "x" .exactlyEqual .globals ≠ [] := by
  have hfacts : (∃ g ∈ assignedAround.definitions, g.target.dottedName? = some "x" ∧ g.isFunction = false ∧
      g.target.range.start = ⟨0, 22⟩ ∧ Name.root "x" ∉ g.scope) ∧
      (firstDeclared? "x" (events ⟨"file:///m.lua"⟩ assignedAround)).all (!·.isLocal) = true := by decide +kernel
  -- the file is not to be read again
  generalize assignedAround = file at hfacts ⊢
  obtain ⟨⟨g, hg, hname, hassigned, hrange, hglobal⟩, hfirst⟩ := hfacts
  refine ⟨g, hg, hname, hassigned, hrange, hglobal, hfirst, ?_⟩
  refine global_definition_found .workspace ⟨"file:///m.lua"⟩ .complete file hg hname hglobal (.inr ?_)
  intro before d after hsplit _ _ ⟨⟨e, he, hsame⟩, hlocals⟩
  -- what is first in front of the assignment is first in the file, and so no local
  have hplain : Name.normalize "x" = "x" := by decide +kernel
  cases hbefore : firstDeclared? "x" before with
  | none =>
    exact List.find?_eq_none.1 hbefore e ((effective_sublist before []).subset he)
      (decide_eq_true (hsame.trans hplain.symm))
  | some e' =>
    have hlocal := hlocals e' (effective_of_first hbefore) ((name_of_firstDeclared? hbefore).trans hplain)
    rw [hsplit, firstDeclared?_append hbefore, Option.all_some, hlocal] at hfirst
    cases hfirst

set_option maxRecDepth 100000 in
/-- In `function f(x) end x=1` the assigned `x` is no parameter, and yet there is no global `x` to be found. -/
theorem lost_behind_parameter :
    let text := "function f(x) end x=1"
    (∃ g ∈ (parse text).file.definitions, g.target.dottedName? = some "x" ∧ Name.root "x" ∉ g.scope) ∧
      (Document.build .workspace ⟨"file:///m.lua"⟩ (parse text)).search "x" .exactlyEqual .globals = [] := by
  decide +kernel

end LuaAtlas.Document
