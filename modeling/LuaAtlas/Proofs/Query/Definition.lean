/-
Going from a variable to where it is bound. A variable that static scoping binds has a symbol where it is bound, in a
chunk around the use; and the use goes to that symbol if no other local with the name is closer as far as chunks and
lines tell.
-/
import LuaAtlas.Proofs.Index.Untouched
import LuaAtlas.Proofs.Index.Walk
import LuaAtlas.Proofs.Syntax.Binders
import LuaAtlas.Proofs.Visibility
import LuaAtlas.Proofs.Walk.Globals
import LuaAtlas.Proofs.Walk.Locality
import LuaAtlas.Query.Definition

namespace LuaAtlas

open LuaAtlas.Syntax LuaAtlas.Walk

/-! ## The symbol of a binder -/

theorem Walk.rel_some_left {α β : Type} {R : α → β → Prop} {a : α} {b : Option β} (h : Option.Rel R (some a) b) :
    ∃ c, b = some c ∧ R a c := by
  cases h with
  | some h => exact ⟨_, rfl, h⟩

/-- A bound variable is local, and its binder is declared in a chunk around it. -/
theorem Walk.declared_of_boundUse? (uri : Uri) {file : File} {p : Position} {x b : Ident}
    (h : file.boundUse? p = some (x, b)) (hplain : Name.IsPlain x.name) :
    ∃ stack e,
      (events uri file).findSome? (Document.hitOf? p) = some (.name (Name.normalize x.name) x.range true stack) ∧
      .declared e ∈ events uri file ∧ Declares e b stack ∧ b.name = x.name := by
  obtain ⟨σ, hmention, hσ, hbinder⟩ := File.boundUse?_eq_some h
  have hpoints := pointsAt_file uri file p
  rw [hmention] at hpoints
  obtain ⟨hit, hhit, hpoints⟩ := rel_some_left hpoints
  cases hpoints with
  | @used c _ _ name hk hname =>
    cases hname
    have hlocal : c.isLocal x.name = true := by
      rw [(hk hσ).isLocal_eq (e := .ident x) rfl fun y hy => by cases hy; exact hplain]
      simp [Scope.binds, Expr.root?, hbinder]
    obtain ⟨e, he, hdeclares⟩ := (hk hσ).declared b (List.mem_of_find?_eq_some hbinder)
    refine ⟨c.stack, e, ?_, he, hdeclares, by simpa using List.find?_some hbinder⟩
    rw [hhit, hlocal]
    rfl

/-- Every declaration that counts has its symbol. -/
theorem Document.symbol_of_declared (shelf : Shelf) {uri : Uri} {o : Outcome} {e : Declaration}
    (h : .declared e ∈ events uri o.file) (hcounts : e.onlyNew = false) :
    ∃ s ∈ (build shelf uri o).symbols, s.plain = (Declare.symbolOf shelf uri e).plain := by
  obtain ⟨before, after, hsplit⟩ := List.append_of_mem h
  have heffective : e ∈ Declare.effective [] (events uri o.file) := by
    rw [hsplit]
    exact Declare.effective_of_split (.inl hcounts)
  have hmem := List.mem_map_of_mem (f := (Declare.symbolOf shelf uri · |>.plain)) heffective
  cases o <;>
  · rw [← Declare.symbols_plain shelf uri _ _] at hmem
    exact List.mem_map.1 hmem

/-! ## Searching the own document first -/

namespace Index

theorem searchDefinition_own {x : Index} {uri : Uri} {d : Document} (hd : x.document? uri = some d) {query : String}
    {mode : SearchMode} {origin : SearchScope} (hfound : d.search query mode origin ≠ []) :
    x.searchDefinition uri query mode origin = d.search query mode origin := by
  obtain ⟨below, hwalk⟩ := walk_eq_cons hd
  unfold searchDefinition
  rw [hwalk]
  simp only [List.map_cons, List.cons_append, (document?_mem hd).2, if_true]
  unfold firstFound
  rw [if_neg (by simpa using hfound)]

end Index

/-! ## Picking among what is found -/

namespace Query

open LuaAtlas.Symbol

/-- The first of the closest locals with the name of a use is where the use goes, if it is in the same document. -/
theorem Use.pick?_eq_some {u : Use} {ss : List Symbol} {s : Symbol} (hlocal : u.isLocal = true) (hs : s ∈ ss)
    (huri : s.uri = u.uri) (hname : s.searchName = u.name) (hrival : isRival u.stack u.line s s = true)
    (h : s.IsFirstClosest ss u.stack u.line) : u.pick? (ss.filter (·.searchName = u.name)) = some s := by
  have hself : isLocalOf u.uri s = true := by
    have hlocal : s.isLocal = true := by
      simp only [isRival, Bool.and_eq_true] at hrival
      exact hrival.1.1
    simp [isLocalOf, hlocal, huri]
  have hpick : pickLocal? ((ss.filter (·.searchName = u.name)).filter (isLocalOf u.uri)) u.stack u.line = some s := by
    refine pickLocal?_eq_some ?_ hrival (fun r hr => ?_) ((h.filter (decide_eq_true hname)).filter hself)
    · simp [hs, hname, hself]
    · have hr := (List.mem_filter.1 (List.mem_filter.1 hr).1).2
      rw [hname]
      exact of_decide_eq_true hr
  unfold Use.pick?
  rw [if_pos hlocal, hpick]
  rfl

/-- A use of a local finds all symbols of its document with its name, if one of them has it. -/
theorem Use.found_local {x : Index} {u : Use} (hu : u.isLocal = true) {d : Document} (hd : x.document? u.uri = some d)
    (hname : Name.normalize u.name = u.name) {r : Symbol} (hr : r ∈ d.symbols) (hrname : r.searchName = u.name) :
    u.found x = d.symbols.filter (·.searchName = u.name) := by
  have hsearch : d.search u.name .exactlyEqual .all = d.symbols.filter (·.searchName = u.name) := by
    unfold Document.search
    rw [Partition.search_exactlyEqual, hname]
    rfl
  have hfound : d.search u.name .exactlyEqual .all ≠ [] := by
    rw [hsearch]
    exact List.ne_nil_of_mem (List.mem_filter.2 ⟨hr, decide_eq_true hrname⟩)
  unfold Use.found
  dsimp only
  rw [hu, if_pos rfl, Index.searchDefinition_own hd hfound, if_neg (by simp [hfound]), hsearch]

/-- The use that a cursor points at. -/
theorem definition?_of_hit {x : Index} {uri : Uri} {d : Document} (hd : x.document? uri = some d) {p : Position}
    {name : String} {range : Range} {isLocal : Bool} {stack : List ChunkRef}
    (hhit : d.hitAt? p = some (.name name range isLocal stack)) :
    definition? x uri p =
      (Use.pick? ⟨uri, name, isLocal, stack, range.start.line⟩ (Use.found x ⟨uri, name, isLocal, stack, range.start.line⟩)).map
        .symbol := by
  unfold definition?
  rw [hd]
  simp only [Option.bind_eq_bind, Option.bind_some, hhit]

/-- A use of a local goes to the first of the closest locals with its name. -/
theorem definition?_eq_some {x : Index} {uri : Uri} {d : Document} (hd : x.document? uri = some d) {p : Position}
    {name : String} {range : Range} {stack : List ChunkRef}
    (hhit : d.hitAt? p = some (.name (Name.normalize name) range true stack)) {s : Symbol} (hs : s ∈ d.symbols)
    (huri : s.uri = uri) (hname : s.searchName = Name.normalize name)
    (hrival : isRival stack range.start.line s s = true) (h : s.IsFirstClosest d.symbols stack range.start.line) :
    definition? x uri p = some (.symbol s) := by
  rw [definition?_of_hit hd hhit]
  let u : Use := ⟨uri, Name.normalize name, true, stack, range.start.line⟩
  have hall : u.found x = d.symbols.filter (·.searchName = Name.normalize name) :=
    Use.found_local (u := u) rfl hd (Name.normalize_normalize _) hs hname
  have hpick : u.pick? (u.found x) = some s := by
    rw [hall]
    exact Use.pick?_eq_some (u := u) rfl hs huri hname hrival h
  exact congrArg (Option.map Target.symbol) hpick

/-- A variable used by itself outside the conditions of `repeat` loops, in a document built from any text, that static
scoping binds: it is told to be local, and there is a symbol of a local with its name where it is bound, in a chunk
around the use. The definition of the use is that symbol, if it is the first of the closest locals with the name that the
use can see by chunks and lines. -/
theorem definition_of_bound_use {x : Index} {uri : Uri} {text : String} {p : Position} {use binder : Ident}
    (hd : (x.document? uri).map Document.bare = some (Document.build .workspace uri (parse text)))
    (huse : (parse text).file.boundUse? p = some (use, binder)) :
    let d := Document.build .workspace uri (parse text)
    ∃ stack, d.hitAt? p = some (.name (Name.normalize use.name) use.range true stack) ∧
      ∃ s ∈ d.symbols, s.searchName = Name.normalize use.name ∧ s.range = binder.range ∧ s.isLocal = true ∧
        s.containers <+: stack ∧
        (s.IsFirstClosest d.symbols stack use.range.start.line → definition? x uri p = some (.symbol s)) := by
  intro d
  have hplain : Name.IsPlain use.name := by
    obtain ⟨σ, hmention, -⟩ := File.boundUse?_eq_some huse
    exact isPlain_of_mem_mentions (File.mem_mentions_of_mentionAt? hmention) (List.mem_singleton_self use)
  obtain ⟨stack, e, hhit, he, hdeclares, hname⟩ := declared_of_boundUse? uri huse hplain
  obtain ⟨s, hs, hsymbol⟩ := Document.symbol_of_declared .workspace he hdeclares.counts
  have hcalled : s.searchName = Name.normalize use.name := by
    rw [← hname, ← hdeclares.called]
    exact congrArg Symbol.searchName hsymbol
  have hrange : s.range = binder.range := (congrArg Symbol.range hsymbol).trans hdeclares.range
  have hlocal : s.isLocal = true := (congrArg Symbol.isLocal hsymbol).trans hdeclares.isLocal
  have huri : s.uri = uri := congrArg Symbol.uri hsymbol
  have haround : s.containers <+: stack := by
    rw [show s.containers = e.stack from congrArg Symbol.containers hsymbol]
    exact hdeclares.around
  refine ⟨stack, (Document.hitAt?_build ..).trans hhit, s, hs, hcalled, hrange, hlocal, haround, ?_⟩
  intro hclosest
  have hline : s.startLine ≤ use.range.start.line := by
    rw [Symbol.startLine, hrange]
    exact Position.line_le (binder_start_le huse)
  have hrival : isRival stack use.range.start.line s s = true := by
    simp [isRival, hlocal, isVisibleFrom, hline, sharedDepth?, haround]
  -- the document in the index differs from `d` in its referrers only
  obtain ⟨d', hd', hbare⟩ := Option.map_eq_some_iff.1 hd
  have hhit' : d'.hitAt? p = some (.name (Name.normalize use.name) use.range true stack) := by
    rw [show d'.hitAt? p = d'.bare.hitAt? p from rfl, hbare, Document.hitAt?_build]
    exact hhit
  have hsymbols : d'.symbols = d.symbols := by
    show d'.bare.symbols = _
    rw [hbare]
  rw [← hsymbols] at hs hclosest
  exact definition?_eq_some hd' hhit' hs huri hcalled hrival hclosest

/-- The document of a text without faults is there when it has been built. -/
theorem document?_buildText (x : Index) (disk : Disk) (uri : Uri) {text : String}
    (h : (parse text).isDegraded = false) :
    ((x.buildText disk .workspace uri text).1.document? uri).map Document.bare =
      some (Document.build .workspace uri (parse text)) := by
  have hkept : (x.register uri).isKept .workspace uri text = false := by
    rw [Bool.eq_false_iff]
    intro hkept
    rw [(Index.isKept_iff.1 hkept).1] at h
    cases h
  obtain ⟨d, hd, hbare⟩ := (Index.rebuild_replaced hkept).self
  rw [Index.replacement_uri] at hd
  rw [Index.replacement_bare] at hbare
  obtain ⟨e, he, hbare'⟩ := Index.link_old hd hd
  rw [Index.buildText_workspace, he, Option.map_some, hbare', hbare]

def mainUri : Uri := ⟨"file:///m.lua"⟩

/-- The index of a workspace with one file. -/
def indexOf (text : String) : Index := ((Index.empty {}).buildText .empty .workspace mainUri text).1

def behindParameter : String := "local x\nfunction f(x) end\nx()\n"

/-- The variable behind a function that has a parameter of the same name. -/
theorem definition_behind_parameter :
    ∃ s, s.range = ⟨⟨0, 6⟩, ⟨0, 7⟩⟩ ∧ definition? (indexOf behindParameter) mainUri ⟨2, 0⟩ = some (.symbol s) := by
  obtain ⟨hcomplete, huse, hstack, hclosest⟩ : (parse behindParameter).isDegraded = false ∧
      (parse behindParameter).file.boundUse? ⟨2, 0⟩ =
        some (⟨"x", ⟨⟨2, 0⟩, ⟨2, 1⟩⟩⟩, ⟨"x", ⟨⟨0, 6⟩, ⟨0, 7⟩⟩⟩) ∧
      (∀ hit ∈ (Document.build .workspace mainUri (parse behindParameter)).hitAt? ⟨2, 0⟩,
        hit = .name "x" ⟨⟨2, 0⟩, ⟨2, 1⟩⟩ true [⟨"m.lua", ⟨⟨0, 0⟩, ⟨3, 0⟩⟩⟩]) ∧
      ∀ s ∈ (Document.build .workspace mainUri (parse behindParameter)).symbols, s.range = ⟨⟨0, 6⟩, ⟨0, 7⟩⟩ →
        s.IsFirstClosest (Document.build .workspace mainUri (parse behindParameter)).symbols
          [⟨"m.lua", ⟨⟨0, 0⟩, ⟨3, 0⟩⟩⟩] 2 := by
    decide +kernel
  obtain ⟨stack, hhit, s, hs, -, hrange, -, -, hgoes⟩ :=
    definition_of_bound_use (document?_buildText (.empty {}) .empty mainUri hcomplete) huse
  obtain ⟨-, -, -, rfl⟩ := Document.Hit.name.inj (hstack _ hhit)
  exact ⟨s, hrange, hgoes (hclosest s hs hrange)⟩

/-- A local of a block that has ended above the use is taken for the one that the use sees. -/
theorem ended_block_is_taken :
    (parse "local x\ndo local x end\nx()\n").isDegraded = false ∧
    (parse "local x\ndo local x end\nx()\n").file.boundUse? ⟨2, 0⟩ =
      some (⟨"x", ⟨⟨2, 0⟩, ⟨2, 1⟩⟩⟩, ⟨"x", ⟨⟨0, 6⟩, ⟨0, 7⟩⟩⟩) ∧
    ∃ s ∈ (Document.build .workspace mainUri (parse "local x\ndo local x end\nx()\n")).symbols,
      s.range = ⟨⟨1, 9⟩, ⟨1, 10⟩⟩ ∧
      definition? (indexOf "local x\ndo local x end\nx()\n") mainUri ⟨2, 0⟩ = some (.symbol s) := by
  decide +kernel

end Query

end LuaAtlas
