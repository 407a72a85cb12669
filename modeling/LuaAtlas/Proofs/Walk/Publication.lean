/-
What is published as local. Each symbol that is written out belongs to a mention and to the site that a cursor on it
points at, and the two are told the same about locality. There is one kind of statement for which this does not hold:
`function f` declares a global even where a local `f` is in scope.
-/
import LuaAtlas.Proofs.Walk.Locality
import LuaAtlas.Proofs.Walk.Views
import Mathlib.Data.List.Forall2

namespace LuaAtlas

open LuaAtlas.Syntax LuaAtlas.Walk

/-- How a function statement is published, with the keyword `local` or without, whose name is local at its site or
not. -/
def Syntax.PublishesFunction (atSite isLocal : Bool) : Bool → Expr → Prop
  | true, .ident _ => atSite = true ∧ isLocal = true
  | false, .member .. | false, .index .. => isLocal = atSite
  -- Of all these a text has only `function f`.
  | hasLocal, _ => isLocal = hasLocal

/-- How a mention that is written at the site `s` is published: the range of its symbol and whether that is local.
A name is written without the parentheses around it. -/
def Syntax.Mention.Publishes (s : Site) (range : Range) (isLocal : Bool) : Mention → Prop
  | .introduced x => s.range = x.range ∧ range = x.range ∧ s.isLocal = true ∧ isLocal = true
  | .key place owner => s.range = place ∧ range = place ∧ owner.Tells s.isLocal ∧ isLocal = s.isLocal
  | .assigned t σ =>
    s.range = t.inner.range ∧ range = t.range ∧ (σ.inCondition = false → s.isLocal = σ.binds t) ∧ isLocal = s.isLocal
  | .function hasLocal name σ =>
    s.range = name.inner.range ∧ range = name.range ∧ (σ.inCondition = false → s.isLocal = σ.binds name) ∧
      PublishesFunction s.isLocal isLocal hasLocal name
  | .used .. | .argument .. => False

/-- The symbol is that of a mention among `ms` which is written at the site. -/
def Symbol.IsPublishedAt (ms : List Mention) (y : Symbol) (s : Site) : Prop :=
  y.searchName = Name.normalize s.name ∧ y.containers = s.stack ∧ ∃ m ∈ ms, m.Publishes s y.range y.isLocal

namespace Walk

variable {E : List Event} {M : List Mention}

/-- Every declaration that is written out is published at its site, in order. -/
def Published (shelf : Shelf) (uri : Uri) (M : List Mention) (es : List Event) : Prop :=
  List.SublistForall₂ (Symbol.IsPublishedAt M) ((written es).map (Declare.symbolOf shelf uri)) (sites es)

section

variable {shelf : Shelf} {uri : Uri}

theorem Published.append {es fs : List Event} (h : Published shelf uri M es) (h' : Published shelf uri M fs) :
    Published shelf uri M (es ++ fs) := by
  unfold Published at h h' ⊢
  rw [List.sublistForall₂_iff] at h h' ⊢
  obtain ⟨ss, hss, hsub⟩ := h
  obtain ⟨ts, hts, hsub'⟩ := h'
  rw [written_append, List.map_append, sites_append]
  exact ⟨ss ++ ts, List.rel_append hss hts, hsub.append hsub'⟩

theorem published_of_written_nil {es : List Event} (h : written es = []) : Published shelf uri M es := by
  unfold Published
  rw [h]
  exact .nil

/-- A site with its declaration. -/
theorem published_pair {m : Mention} (hm : m ∈ M) {s : Site} {d : Declaration} (hname : d.name = s.name)
    (hstack : d.stack = s.stack) (h : m.Publishes s d.range d.isLocal) :
    Published shelf uri M [.site s, .declared d] := by
  have hwritten : written [.site s, .declared d] = [d].filter (!·.isImplicitSelf) := rfl
  have hpublished : (Declare.symbolOf shelf uri d).IsPublishedAt M s :=
    ⟨congrArg Name.normalize hname, hstack, m, hm, h⟩
  unfold Published
  rw [hwritten, show sites [.site s, .declared d] = [s] from rfl, List.filter_singleton]
  cases !d.isImplicitSelf with
  | true => exact .cons hpublished .nil
  | false => exact .nil

/-! ## Declarations -/

/-- A plain name is its own root. -/
theorem root_of_isPlain {name : String} (h : Name.IsPlain name) : Name.root name = name := by
  have happend : Name.root (name ++ "") = name := Name.root_append h Name.continues_empty
  rwa [String.append_empty] at happend

/-- Which functions are declared as locals, next to what their name is at that site. -/
theorem functionDeclaration_published {c : Context} {t : Expr} {name : String} {hasLocal : Bool} {f : FuncBody}
    (hname : t.dottedName? = some name) (hplain : ∀ x ∈ exprIdents t, Name.IsPlain x.name)
    (hself : ∀ id, hasLocal = true → t = .ident id → id.name ∈ c.locals) :
    PublishesFunction (c.isLocal name) (functionDeclaration c hasLocal t name f).isLocal hasLocal t := by
  cases hasLocal with
  | false => cases t <;> rfl
  | true =>
    cases t with
    | ident id =>
      cases hname
      refine ⟨?_, rfl⟩
      unfold Context.isLocal
      rw [root_of_isPlain (hplain id (List.mem_singleton_self id)), List.contains_iff_mem]
      exact hself id rfl rfl
    | _ => rfl

theorem Reports.published {ms : List Mention} {es : List Event} (h : Reports E ms es) (hM : ms ⊆ M)
    (hplain : ∀ m ∈ M, ∀ x ∈ m.idents, Name.IsPlain x.name) : Published shelf uri M es := by
  induction h with
  | nil => exact published_of_written_nil rfl
  | append _ _ ih ih' =>
    rw [List.append_subset] at hM
    exact (ih hM.1).append (ih' hM.2)
  | @silent e he =>
    cases e with
    | declared d => cases he
    | _ => exact published_of_written_nil rfl
  | self c owner range => exact published_of_written_nil (by simp [written, declarations])
  | used hk hname => exact published_of_written_nil rfl
  | argument edge range => exact published_of_written_nil rfl
  | introduced c x value? =>
    have hd := declares_localDeclaration c x value?
    exact published_pair (hM (List.mem_singleton_self _)) rfl rfl ⟨hd.range, hd.range, hd.isLocal, hd.isLocal⟩
  | @key owner c base name range value howns =>
    have hm : .key range owner ∈ M := hM (by simp)
    obtain ⟨hrange, hlocal⟩ := entryDeclaration_keeps c base name range value
    have htells : owner.Tells (entryDeclaration c base name range value).isLocal := by
      rw [hlocal]
      exact howns.tells (hplain _ hm)
    exact published_pair hm rfl rfl ⟨hrange, hrange, htells, rfl⟩
  | @assigned c σ t name value? hk hname =>
    have hm : .assigned t σ ∈ M := hM (by simp)
    obtain ⟨hcalled, hrange, hlocal, hstack⟩ := withValue_keeps
      ⟨name, name, .var, t.range, c.isLocal name, c.stack, [], none, none, true⟩ ("function " ++ name) value?
    exact published_pair hm hcalled hstack ⟨rfl, hrange, hk.isLocal_eq hname (hplain _ hm), hlocal⟩
  | @function c σ t name isLocal f hk hname hself =>
    have hm : .function isLocal t σ ∈ M := hM (by simp)
    refine published_pair hm rfl rfl ⟨rfl, rfl, hk.isLocal_eq hname (hplain _ hm), ?_⟩
    exact functionDeclaration_published hname (hplain _ hm) hself

end

end Walk

namespace Document

theorem sublistForall₂_of_sublist {α β : Type} {R : α → β → Prop} {as bs : List α} {cs : List β} (hsub : as.Sublist bs)
    (h : List.SublistForall₂ R bs cs) : List.SublistForall₂ R as cs := by
  induction h generalizing as with
  | nil =>
    cases hsub
    exact .nil
  | cons hab _ ih =>
    cases hsub with
    | cons _ hsub => exact .cons_right (ih hsub)
    | cons_cons _ hsub => exact .cons hab (ih hsub)
  | cons_right _ ih => exact .cons_right (ih hsub)

theorem writtenSymbols_plain (shelf : Shelf) (uri : Uri) (o : Outcome) :
    (build shelf uri o).writtenSymbols.map Symbol.plain =
      ((Declare.effective [] (events uri o.file)).filter (!·.isImplicitSelf)).map
        (Declare.symbolOf shelf uri · |>.plain) := by
  cases o <;> exact map_filter_zip (p := fun d : Declaration => !d.isImplicitSelf) (Declare.symbols_plain shelf uri _ _)

theorem writtenSymbols_published (shelf : Shelf) (uri : Uri) (o : Outcome) {M : List Mention}
    (h : Published shelf uri M (events uri o.file)) :
    List.SublistForall₂ (Symbol.IsPublishedAt M) (build shelf uri o).writtenSymbols (sites (events uri o.file)) := by
  have hcount := ((Declare.effective_sublist (events uri o.file) []).filter (!·.isImplicitSelf)).map
    (Declare.symbolOf shelf uri)
  have hall := List.sublistForall₂_map_left_iff.1 (sublistForall₂_of_sublist hcount h)
  -- What is learnt about the values changes nothing that matters here.
  have hplain : List.SublistForall₂ (Symbol.IsPublishedAt M) ((build shelf uri o).writtenSymbols.map Symbol.plain)
      (sites (events uri o.file)) := by
    rw [writtenSymbols_plain, List.sublistForall₂_map_left_iff]
    exact hall
  rw [List.sublistForall₂_map_left_iff] at hplain
  exact hplain

/-- In the document of any text a cursor points at the first mark that it stands in, and each symbol that is written
out is published at a site among the marks, in order: as the local that it introduces, or as local exactly if its name
is local at that site. Outside the conditions of `repeat` loops that is what static scoping says, for a key of a table
about the variable that the table is given to. Only a plain name in a `function` statement is not asked for its site:
it is published as a global. -/
theorem symbols_published_at_sites (shelf : Shelf) (uri : Uri) (text : String) :
    let d := build shelf uri (parse text)
    let es := events uri (parse text).file
    (∀ p, d.hitAt? p = ((marks es).find? (·.hitRange.contains p)).map Mark.hit) ∧
    List.SublistForall₂ (Symbol.IsPublishedAt (parse text).file.mentions) d.writtenSymbols (sites es) := by
  intro d es
  refine ⟨fun p => (hitAt?_build ..).trans (findSome?_hitOf? p es), writtenSymbols_published shelf uri _ ?_⟩
  exact (reports_file uri _).published (List.Subset.refl _) fun m hm x hx => isPlain_of_mem_mentions hm hx

/-- A function that is declared as a local first: a cursor on its name is told that the name is local, and its symbol
is a global. -/
theorem forward_declared_function_is_global :
    let d := build .workspace ⟨"file:///m.lua"⟩ (parse "local f\nfunction f() end\n")
    ∃ y ∈ d.writtenSymbols, y.isLocal = false ∧
      d.hitAt? y.range.start = some (.name y.searchName y.range true [⟨"m.lua", ⟨⟨0, 0⟩, ⟨2, 0⟩⟩⟩]) := by
  decide +kernel

end Document

end LuaAtlas
