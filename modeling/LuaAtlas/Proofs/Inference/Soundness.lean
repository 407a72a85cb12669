/-
Answers are justified. Whatever a query for a path finds, it finds as the meaning of a path that a chain of
substitutions leads to, and nothing is left out of that meaning. Every substitution keeps the end of the path,
so what is found ends like the path that was asked for.
-/
import LuaAtlas.Proofs.Inference.Agenda

namespace LuaAtlas.Inference

variable {x : Index} {purpose : Purpose}

/-! ## The search -/

/-- A search that ends with an answer ends with the meaning of a path that a chain leads to. -/
theorem resolvePath_sound {fuel : Nat} {p : Place} {t t' : Trail} {r : List Symbol}
    (h : resolvePath x purpose fuel p t = some (r, t')) (hr : r ≠ []) :
    ∃ q, Chain x purpose p q ∧ r = direct x purpose q := by
  obtain ⟨a, ha, rfl, -⟩ := tells_resolvePath fuel p t r t' h
  obtain ⟨task, htask, q, hq, hanswer⟩ := ha.sound hr
  cases List.mem_singleton.1 htask
  exact ⟨q, hq, hanswer⟩

/-- The first symbol that a search for a function finds is one that a chain from its name leads to. -/
theorem answers_of_resolvePath {fuel : Nat} {c : Place} {t t' : Trail} {f : Symbol} {fs : List Symbol}
    (h : resolvePath x purpose fuel c t = some (f :: fs, t')) : Answers x purpose c f := by
  obtain ⟨q, hchain, hq⟩ := resolvePath_sound h (List.cons_ne_nil _ _)
  exact ⟨q, fs, hchain, hq.symm⟩

/-- A query is one search with no place entered. -/
theorem resolve?_eq_some {fuel : Nat} {stats stats' : Stats} {path : String} {uri : Uri} {found : List Symbol}
    (h : resolve? x purpose fuel stats path uri = some (found, stats')) :
    ∃ t, resolvePath x purpose fuel ⟨uri, Name.normalize path⟩ ⟨[], { stats with queries := stats.queries + 1 }⟩ =
      some (found, t) ∧ t.stats.cycleRefusals = stats'.cycleRefusals := by
  obtain ⟨⟨r, t⟩, hrun, hstats⟩ := Option.bind_eq_some_iff.1 h
  cases hstats
  refine ⟨t, hrun, ?_⟩
  split <;> rfl

/-! ## Names along a chain -/

/-- The path is a field, and its last part is `last`. -/
def EndsIn (last : String) (p : Place) : Prop :=
  ∃ base rest, p.path = Name.field base rest ∧ Name.lastPart rest = last

theorem Follows.endsIn {answers : Place → Symbol → Prop} {p q : Place} (h : Follows x purpose answers p q) :
    EndsIn (Name.lastPart p.path) q := by
  obtain ⟨-, -⟩ := h
  exact ⟨_, _, rfl, (Name.lastPart_field ..).symm⟩

/-- However long the chain, the last part of the path stays. -/
theorem endsIn_of_transGen {answers : Place → Symbol → Prop} {p q : Place}
    (h : Relation.TransGen (Follows x purpose answers) p q) : EndsIn (Name.lastPart p.path) q := by
  induction h with
  | single h => exact h.endsIn
  | tail _ h ih =>
    obtain ⟨base, rest, hpath, hlast⟩ := ih
    have hend := h.endsIn
    rwa [hpath, Name.lastPart_field, hlast] at hend

/-! ## Names of what is found -/

/-- What a search around a document finds, it finds in some document. -/
theorem finds_of_searchAround {uri : Uri} {name : String} {mode : SearchMode} {s : Symbol}
    (h : s ∈ searchAround x purpose uri name mode) : x.Finds name mode s := by
  cases purpose with
  | definition => exact Index.finds_of_searchDefinition h
  | completion => exact Index.finds_of_searchCompletion h

theorem finds_of_lookup {uri : Uri} {name : String} {mode : SearchMode} {s : Symbol}
    (h : s ∈ lookup x purpose uri name mode) : x.Finds name mode s := by
  obtain ⟨l, hl, hs⟩ := Index.mem_firstFound h
  simp only [List.mem_cons, List.not_mem_nil, or_false] at hl
  rcases hl with rfl | rfl
  · exact Index.finds_of_searchDocument hs
  · exact finds_of_searchAround hs

/-- How a symbol ends that answers a query for a path with the last part `last`. -/
def Matches (purpose : Purpose) (last : String) (s : Symbol) : Prop :=
  match purpose with
  | .definition => Name.lastPart s.searchName = last
  | .completion => last.toList <+: (Name.lastPart s.searchName).toList

/-- What a path means by itself ends as the path does. For completion only beginnings of names are compared, but
equally many dots leave nothing but the last part to be longer. -/
theorem matches_of_mem_direct {last : String} (hcolon : ':' ∉ last.toList) {q : Place}
    (hq : EndsIn last q) {s : Symbol} (h : s ∈ direct x purpose q) : Matches purpose last s := by
  obtain ⟨base, rest, hpath, rfl⟩ := hq
  unfold direct at h
  rw [hpath] at h
  cases purpose with
  | definition =>
    show Name.lastPart s.searchName = _
    have hlast : Name.lastPart (Name.normalize (Name.field base rest) ++ "") = Name.lastPart rest ++ "" :=
      Name.lastPart_normalize_append hcolon (by simp)
    rw [(finds_of_lookup h).searchName_eq]
    simpa using hlast
  | completion =>
    obtain ⟨hlookup, hdots⟩ := List.mem_filter.1 h
    obtain ⟨d, scope, -, hs⟩ := finds_of_lookup hlookup
    obtain ⟨more, hmore⟩ := Document.searchName_begins hs
    have hname : s.searchName = Name.normalize (Name.field base rest) ++ String.ofList more :=
      String.ext (by rw [String.toList_append, String.toList_ofList, hmore])
    have hcount : Name.dots s.searchName = Name.dots (Name.normalize (Name.field base rest)) + more.count '.' := by
      unfold Name.dots
      rw [← hmore, List.count_append]
    have hle := Name.dots_le_normalize (Name.field base rest)
    have hnone : '.' ∉ (String.ofList more).toList := by
      rw [String.toList_ofList, ← List.count_eq_zero]
      have hsame : Name.dots s.searchName = Name.dots (Name.field base rest) := by simpa using hdots
      omega
    show _ <+: (Name.lastPart s.searchName).toList
    rw [hname, Name.lastPart_normalize_append hcolon hnone, String.toList_append]
    exact List.prefix_append ..

/-! ## Queries -/

theorem resolve?_sound {fuel : Nat} {stats stats' : Stats} {path : String} {uri : Uri} {found : List Symbol}
    (h : resolve? x purpose fuel stats path uri = some (found, stats')) (hne : found ≠ []) :
    ∃ q, Relation.TransGen (Follows x purpose (Answers x purpose)) ⟨uri, Name.normalize path⟩ q ∧
      found = direct x purpose q ∧ ∀ s ∈ found, Matches purpose (Name.lastPart (Name.normalize path)) s := by
  obtain ⟨t, hrun, -⟩ := resolve?_eq_some h
  obtain ⟨q, hchain, hq⟩ := resolvePath_sound hrun hne
  refine ⟨q, hchain.transGen, hq, fun s hs => ?_⟩
  rw [hq] at hs
  have hend := endsIn_of_transGen hchain.transGen
  exact matches_of_mem_direct (Name.colon_not_mem_lastPart path) hend hs

/-- What a query finds is the whole meaning of a path that one substitution or more leads to, and every symbol of
it ends like the path that was asked for. -/
theorem answers_follow_tags (config : Config) (steps : List Index.Step) (purpose : Purpose) {fuel : Nat}
    {stats stats' : Stats} {path : String} {uri : Uri} {found : List Symbol}
    (h : resolve? ((Index.empty config).run steps) purpose fuel stats path uri = some (found, stats'))
    (hne : found ≠ []) :
    ∃ q, Relation.TransGen
        (Follows ((Index.empty config).run steps) purpose (Answers ((Index.empty config).run steps) purpose))
        ⟨uri, Name.normalize path⟩ q ∧
      found = direct ((Index.empty config).run steps) purpose q ∧
      ∀ s ∈ found, Matches purpose (Name.lastPart (Name.normalize path)) s :=
  resolve?_sound h hne

def sampleUri : Uri := ⟨"file:///m.lua"⟩

/-- Building one file from its text. -/
def buildOf (text : String) : Index.Step := .build .empty .workspace sampleUri (some text)

set_option maxRecDepth 100000 in
/-- A variable that holds the result of `M.f` has the members of what `T.f` returns, where `M` is `T`. -/
theorem answers_follow_call :
    let x := (Index.empty {}).run [buildOf "function T.f() return r end r.x=1 M=T a=M.f()"]
    ∃ found stats', resolve? x .definition 4 {} "a.x" sampleUri = some (found, stats') ∧ found ≠ [] ∧
      ∃ q, Relation.TransGen (Follows x .definition (Answers x .definition)) ⟨sampleUri, Name.normalize "a.x"⟩ q ∧
        found = direct x .definition q ∧
        ∀ s ∈ found, Matches .definition (Name.lastPart (Name.normalize "a.x")) s := by
  have hany : (resolve? ((Index.empty {}).run [buildOf "function T.f() return r end r.x=1 M=T a=M.f()"]) .definition 4 {}
      "a.x" sampleUri).any (fun r => !r.1.isEmpty) = true := by decide +kernel
  intro x
  obtain ⟨⟨found, stats'⟩, hrun, hempty⟩ := (Option.any_eq_true ..).1 hany
  have hne : found ≠ [] := by
    rintro rfl
    cases hempty
  exact ⟨found, stats', hrun, hne, answers_follow_tags {} _ .definition hrun hne⟩

end LuaAtlas.Inference
