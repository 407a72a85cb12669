/-
Following a single tag. Where a document has one symbol of some name, a field of that name means what the field means at
the place its tag stands for, as soon as the document of that place has the field. What the document says about itself
comes first at every turn: no other file with the same names is asked, and nothing is cut off by a limit on candidates.
-/
import LuaAtlas.Proofs.Inference.Soundness
import LuaAtlas.Proofs.Query.Sight

namespace LuaAtlas.Inference

/-- The place that the tag of a symbol of the document `u` stands for, told by that document and by the modules alone. -/
inductive Stands (x : Index) (u : Uri) (s : Symbol) : Place → Prop
  /-- The variable that the required file returns. -/
  | required {m n : String} {v : Uri} {d : Document} : s.tagReason? = some .requireReturn →
      s.requiredModule? = some m → x.resolve? m = some v → x.document? v = some d → d.returnName? = some n →
      Stands x u s ⟨v, n⟩
  /-- A type or an assigned name that another symbol of the document has. -/
  | type {tag : Tag} {t : Symbol} : s.tag? = some tag → tag.reason = .userTag ∨ tag.reason = .equal →
      t ∈ x.searchDocument u tag.typeName .exactlyEqual .all → t ≠ s → Stands x u s ⟨u, tag.typeName⟩
  /-- The field `__index` of a metatable. -/
  | metatable {tag : Tag} : s.tag? = some tag → tag.reason = .metaTable →
      Stands x u s ⟨u, tag.typeName ++ ".__index"⟩
  /-- The variable that the called function returns, where another symbol of the document has the function's name. -/
  | called {f n : String} {g : Symbol} : s.tagReason? = some .callReturn → s.callReturnOf? = some f →
      (x.searchDocument u f .exactlyEqual .all).find? (· ≠ s) = some g → g.returnName? = some n →
      Stands x u s ⟨g.uri, n⟩

variable {x : Index} {purpose : Purpose}

/-! ## The longest first part -/

theorem cutChars_of_last {rest : List Char} (h : '.' ∉ rest) : ∀ first : List Char,
    ∃ more, cutChars (first ++ '.' :: rest) = (first, rest) :: more
  | [] => by
    have hnone : cutChars rest = [] := by
      refine List.eq_nil_iff_forall_not_mem.2 fun ⟨a, b⟩ hcut => h ?_
      rw [mem_cutChars.1 hcut]
      exact List.mem_append_right _ (List.mem_cons_self ..)
    refine ⟨[], ?_⟩
    rw [List.nil_append, cutChars, hnone]
    rfl
  | c :: first => by
    obtain ⟨more, hcut⟩ := cutChars_of_last h first
    rw [List.cons_append, cutChars, hcut]
    exact ⟨_, rfl⟩

/-- A field without dots of its own is first cut off as a whole. -/
theorem cuts_field (base : String) {name : String} (h : '.' ∉ name.toList) :
    ∃ more, cuts (Name.field base name) = (base, name) :: more := by
  obtain ⟨more, hcut⟩ := cutChars_of_last h base.toList
  unfold cuts
  rw [Name.toList_field, hcut, List.map_cons]
  dsimp only
  rw [String.ofList_toList, String.ofList_toList]
  exact ⟨_, rfl⟩

/-! ## A document's own symbols -/

theorem searchDocument_congr {u : Uri} {name name' : String} (h : Name.normalize name = Name.normalize name')
    (mode : SearchMode) (scope : SearchScope) : x.searchDocument u name mode scope = x.searchDocument u name' mode scope := by
  unfold Index.searchDocument Document.search
  rw [h]

theorem normalize_field_congr {base base' : String} (h : Name.normalize base = Name.normalize base') (name : String) :
    Name.normalize (Name.field base name) = Name.normalize (Name.field base' name) := by
  rw [Name.normalize_field, Name.normalize_field, h]

theorem firstFound_of_ne_nil {α : Type} {l : List α} (h : l ≠ []) (ls : List (List α)) : Index.firstFound (l :: ls) = l :=
  if_neg fun hempty => h (List.isEmpty_iff.1 hempty)

/-- What a document has itself is all that a name means in it. -/
theorem lookup_of_document {u : Uri} {name : String} {mode : SearchMode}
    (h : x.searchDocument u name mode .all ≠ []) :
    lookup x purpose u name mode = x.searchDocument u name mode .all :=
  firstFound_of_ne_nil h _

theorem lookupBeside_of_document {s : Symbol} {name : String}
    (h : (x.searchDocument s.uri name .exactlyEqual .all).filter (· ≠ s) ≠ []) :
    lookupBeside x purpose s name = (x.searchDocument s.uri name .exactlyEqual .all).filter (· ≠ s) :=
  firstFound_of_ne_nil h _

/-- A single symbol is followed whatever the limit on candidates is. -/
theorem kept_singleton {u : Uri} {name : String} {s : Symbol} (h : lookup x purpose u name .exactlyEqual = [s]) :
    kept x purpose u name = [s] := by
  unfold kept
  rw [h]
  split <;> rfl

/-- In an index whose documents own their symbols, a symbol found in a document has its URI. -/
theorem uri_of_mem_searchDocument (howns : ∀ d ∈ x.workspace.documents, d.Owns) {u : Uri} {name : String} {s : Symbol}
    (h : s ∈ x.searchDocument u name .exactlyEqual .all) : s.uri = u := by
  unfold Index.searchDocument at h
  cases hd : x.document? u with
  | none =>
    rw [hd] at h
    cases h
  | some d =>
    rw [hd] at h
    obtain ⟨hmem, huri⟩ := Index.document?_mem hd
    rw [← huri]
    exact (howns d hmem).uri s (Partition.mem_search_exactlyEqual.1 h).1

/-! ## The first place -/

/-- The first place that a tag leads to is the one it stands for. -/
theorem pointed_of_stands (purpose : Purpose) (howns : ∀ d ∈ x.workspace.documents, d.Owns) {s : Symbol} {q : Place}
    (h : Stands x s.uri s q) : deferred? x purpose s = none ∧ ∃ path,
      (pointed x purpose s).head? = some ⟨q.uri, path⟩ ∧ Name.normalize path = Name.normalize q.path := by
  have hnone : s.tagReason? ≠ some .callReturn → deferred? x purpose s = none := by
    intro hr
    refine Option.eq_none_iff_forall_ne_some.2 fun c hc => ?_
    obtain ⟨hcall, -, -⟩ := deferred?_eq_some.1 hc
    exact hr hcall
  cases h with
  | required hr hm hv hd hn =>
    refine ⟨hnone (by simp [hr]), _, ?_, rfl⟩
    unfold pointed
    simp [hr, hm, hv, hd, hn]
  | @type tag t ht hr hmem hne =>
    have hreason := tagReason?_of_tag ht
    obtain ⟨t', ts, hts⟩ := List.exists_cons_of_ne_nil
      (List.ne_nil_of_mem (List.mem_filter (p := (· ≠ s)) |>.2 ⟨hmem, decide_eq_true hne⟩))
    have hmem' : t' ∈ x.searchDocument s.uri tag.typeName .exactlyEqual .all := by
      refine List.mem_of_mem_filter (p := (· ≠ s)) ?_
      rw [hts]
      exact List.mem_cons_self ..
    have hbeside : lookupBeside x purpose s tag.typeName = t' :: ts := by
      rw [lookupBeside_of_document (by rw [hts]; exact List.cons_ne_nil _ _), hts]
    have hname : t'.searchName = Name.normalize tag.typeName := (Index.finds_of_searchDocument hmem').searchName_eq
    refine ⟨hnone ?_, t'.searchName, ?_, ?_⟩
    · rcases hr with hr | hr <;> simp [hreason, hr]
    · have huri := uri_of_mem_searchDocument howns hmem'
      unfold pointed
      rcases hr with hr | hr <;> rw [hr] at hreason <;> simp [hreason, ht, hbeside, huri]
    · rw [hname, Name.normalize_normalize]
  | @metatable tag ht hr =>
    have hreason := tagReason?_of_tag ht
    rw [hr] at hreason
    refine ⟨hnone (by simp [hreason]), _, ?_, rfl⟩
    unfold pointed
    simp [hreason, ht]
  | @called f n g hr hf hg hn =>
    have hhead : ((x.searchDocument s.uri f .exactlyEqual .all).filter (· ≠ s)).head? = some g := by
      rw [List.head?_filter, hg]
    obtain ⟨gs, hgs⟩ := List.head?_eq_some_iff.1 hhead
    have hbeside : lookupBeside x purpose s f = g :: gs := by
      rw [lookupBeside_of_document (by rw [hgs]; exact List.cons_ne_nil _ _), hgs]
    refine ⟨Option.eq_none_iff_forall_ne_some.2 fun c hc => ?_, n, ?_, rfl⟩
    · obtain ⟨-, hf', hl⟩ := deferred?_eq_some.1 hc
      cases hf.symm.trans hf'
      rw [hbeside] at hl
      cases hl
    · unfold pointed
      simp [hr, hf, hbeside, returned, hn]

/-! ## The search -/

/-- A loop ends with the answer of its first part, if that has one. -/
theorem firstAnswer_cons {α : Type} {f : α → Follow (List Symbol)} {a : α} {t u : Trail} {r : List Symbol}
    (h : f a t = some (r, u)) (hr : r ≠ []) (as : List α) : firstAnswer f (a :: as) t = some (r, u) := by
  rw [firstAnswer, bind_of_some h]
  cases r with
  | nil => exact absurd rfl hr
  | cons s ss => rfl

theorem merged_of_direct {resolve : Place → Follow (List Symbol)} {q : Place} (h : direct x purpose q ≠ []) (t : Trail) :
    merged x purpose resolve q t = some (direct x purpose q, t) := by
  unfold merged
  cases hd : direct x purpose q with
  | nil => exact absurd hd h
  | cons s ss => rfl

/-- A symbol answers for a field of it with what the document of the place has, without a further step. -/
theorem followSymbol_of_stands (howns : ∀ d ∈ x.workspace.documents, d.Owns)
    {resolve : Place → Follow (List Symbol)} {s : Symbol} {q : Place} {name : String} (hq : Stands x s.uri s q)
    (hfound : x.searchDocument q.uri (Name.field q.path name) .exactlyEqual .all ≠ []) (t : Trail) :
    followSymbol x .definition resolve name s t =
      some (x.searchDocument q.uri (Name.field q.path name) .exactlyEqual .all, t) := by
  obtain ⟨hnone, path, hhead, hpath⟩ := pointed_of_stands .definition howns hq
  obtain ⟨more, hpointed⟩ := List.head?_eq_some_iff.1 hhead
  have hsame : x.searchDocument q.uri (Name.field path name) .exactlyEqual .all =
      x.searchDocument q.uri (Name.field q.path name) .exactlyEqual .all :=
    searchDocument_congr (normalize_field_congr hpath name) ..
  have hdirect : direct x .definition ⟨q.uri, Name.field path name⟩ =
      x.searchDocument q.uri (Name.field q.path name) .exactlyEqual .all := by
    refine Eq.trans ?_ hsame
    exact lookup_of_document (hsame ▸ hfound)
  have hsubstitutes : substitutes x .definition resolve s t = some (⟨q.uri, path⟩ :: more, t) := by
    rw [substitutes_points hnone, hpointed]
    rfl
  unfold followSymbol
  rw [bind_of_some hsubstitutes]
  refine firstAnswer_cons ?_ hfound more
  rw [merged_of_direct (hdirect.symm ▸ hfound), hdirect]

/-- A search for a field of a name that one symbol of the document has ends with its first attempt. -/
theorem resolvePath_of_stands (howns : ∀ d ∈ x.workspace.documents, d.Owns) {u : Uri} {base name : String} {s : Symbol}
    {q : Place} (hbase : x.searchDocument u base .exactlyEqual .all = [s]) (hdot : '.' ∉ name.toList)
    (hq : Stands x u s q) (hfound : x.searchDocument q.uri (Name.field q.path name) .exactlyEqual .all ≠ [])
    (fuel : Nat) {t : Trail} (ht : (⟨u, Name.field base name⟩ : Place) ∉ t.entered) :
    ∃ t', resolvePath x .definition (fuel + 1) ⟨u, Name.field base name⟩ t =
      some (x.searchDocument q.uri (Name.field q.path name) .exactlyEqual .all, t') := by
  have hlookup : lookup x .definition u base .exactlyEqual = [s] := by
    rw [lookup_of_document (by rw [hbase]; exact List.cons_ne_nil _ _), hbase]
  have huri : s.uri = u := uri_of_mem_searchDocument howns (hbase.symm ▸ List.mem_singleton_self s)
  subst huri
  obtain ⟨more, hcuts⟩ := cuts_field base hdot
  rw [resolvePath_succ, if_neg ht, hcuts]
  have hcut : ∃ t', followCut x .definition (resolvePath x .definition fuel) s.uri (base, name)
      (t.enter ⟨s.uri, Name.field base name⟩) =
        some (x.searchDocument q.uri (Name.field q.path name) .exactlyEqual .all, t') := by
    unfold followCut
    rw [bind_of_some (candidates_eq ..), kept_singleton hlookup]
    exact ⟨_, firstAnswer_cons (followSymbol_of_stands howns hq hfound _) hfound []⟩
  obtain ⟨t', hcut⟩ := hcut
  exact ⟨t', firstAnswer_cons hcut hfound more⟩

theorem resolve?_of_stands (howns : ∀ d ∈ x.workspace.documents, d.Owns) {u : Uri} {base name : String} {s : Symbol}
    {q : Place} (hbase : x.searchDocument u base .exactlyEqual .all = [s]) (hdot : '.' ∉ name.toList)
    (hcolon : ':' ∉ name.toList) (hq : Stands x u s q)
    (hfound : x.searchDocument q.uri (Name.field q.path name) .exactlyEqual .all ≠ []) (fuel : Nat) (stats : Stats) :
    ∃ stats', resolve? x .definition (fuel + 1) stats (Name.field base name) u =
      some (x.searchDocument q.uri (Name.field q.path name) .exactlyEqual .all, stats') := by
  have hpath : Name.normalize (Name.field base name) = Name.field (Name.normalize base) name := by
    rw [Name.normalize_field, Name.normalize_eq_self hcolon]
  have hbase' : x.searchDocument u (Name.normalize base) .exactlyEqual .all = [s] := by
    rw [searchDocument_congr (Name.normalize_normalize base), hbase]
  obtain ⟨t', hrun⟩ := resolvePath_of_stands howns hbase' hdot hq hfound fuel
    (t := ⟨[], { stats with queries := stats.queries + 1 }⟩) List.not_mem_nil
  unfold resolve?
  rw [hpath]
  exact ⟨_, congrArg (Option.bind · _) hrun⟩

theorem resolve_eq {path : String} {u : Uri} {found : List Symbol}
    (h : ∀ fuel, ∃ stats', resolve? x purpose (fuel + 1) {} path u = some (found, stats')) :
    resolve x purpose path u = found := by
  obtain ⟨fuel, hfuel⟩ : ∃ fuel, maxSteps = fuel + 1 := ⟨maxSteps - 1, rfl⟩
  obtain ⟨stats', hrun⟩ := h fuel
  unfold resolve
  rw [hfuel, hrun]
  rfl

/-- One tag is followed exactly. Where a document has a single symbol named `base`, whose tag stands for `q`, a query for
a field of `base` gives what the document of `q` has under that field of `q`, all of it and nothing else, if it has any:
whatever the limits of the index are, and whatever other documents hold. -/
theorem resolve_one_tag (config : Config) (steps : List Index.Step) {u : Uri} {base name : String} {s : Symbol} {q : Place}
    (hbase : ((Index.empty config).run steps).searchDocument u base .exactlyEqual .all = [s])
    (hdot : '.' ∉ name.toList) (hcolon : ':' ∉ name.toList) (hq : Stands ((Index.empty config).run steps) u s q)
    (hfound : ((Index.empty config).run steps).searchDocument q.uri (Name.field q.path name) .exactlyEqual .all ≠ []) :
    resolve ((Index.empty config).run steps) .definition (Name.field base name) u =
      ((Index.empty config).run steps).searchDocument q.uri (Name.field q.path name) .exactlyEqual .all := by
  have howns : ∀ d ∈ ((Index.empty config).run steps).workspace.documents, d.Owns :=
    fun d hd => Index.run_owns config steps ⟨.workspace, hd⟩
  exact resolve_eq fun fuel => resolve?_of_stands howns hbase hdot hcolon hq hfound fuel {}

/-- Two files that both have a field `T.x`. The one returns its own `T`, which `m` of the other holds; there `a` is the
`T` of that file. -/
def twoTables : List Index.Step :=
  let disk : Disk := .empty
  [.build disk .workspace ⟨"file:///t.lua"⟩ (some "T={x=1} return T"),
   .build disk .workspace sampleUri (some "T={x=2} m=require't' a=T")]

set_option maxRecDepth 100000 in
/-- Each of the two is followed to its own table. -/
theorem resolve_two_tables :
    let x := (Index.empty { maxTagFanout := 0 }).run twoTables
    resolve x .definition (Name.field "m" "x") sampleUri =
        x.searchDocument ⟨"file:///t.lua"⟩ (Name.field "T" "x") .exactlyEqual .all ∧
      resolve x .definition (Name.field "a" "x") sampleUri =
        x.searchDocument sampleUri (Name.field "T" "x") .exactlyEqual .all := by
  have hfacts : let x := (Index.empty { maxTagFanout := 0 }).run twoTables
      (∃ m ∈ x.searchDocument sampleUri "m" .exactlyEqual .all,
        x.searchDocument sampleUri "m" .exactlyEqual .all = [m] ∧ m.tagReason? = some .requireReturn ∧
          m.requiredModule? = some "t") ∧
      x.resolve? "t" = some ⟨"file:///t.lua"⟩ ∧
      (x.document? ⟨"file:///t.lua"⟩).bind (·.returnName?) = some "T" ∧
      x.searchDocument ⟨"file:///t.lua"⟩ (Name.field "T" "x") .exactlyEqual .all ≠ [] ∧
      (∃ a ∈ x.searchDocument sampleUri "a" .exactlyEqual .all,
        x.searchDocument sampleUri "a" .exactlyEqual .all = [a] ∧ a.tag? = some ⟨.equal, "T"⟩ ∧
          ∃ t ∈ x.searchDocument sampleUri "T" .exactlyEqual .all, t ≠ a) ∧
      x.searchDocument sampleUri (Name.field "T" "x") .exactlyEqual .all ≠ [] := by decide +kernel
  have hdot : '.' ∉ "x".toList := by decide
  have hcolon : ':' ∉ "x".toList := by decide
  intro x
  obtain ⟨⟨m, -, hm, hreason, hmodule⟩, huri, hreturn, hother, ⟨a, -, ha, htag, t, ht, hne⟩, hown⟩ := hfacts
  obtain ⟨d, hd, hname⟩ := Option.bind_eq_some_iff.1 hreturn
  have hmodule : Stands x sampleUri m ⟨⟨"file:///t.lua"⟩, "T"⟩ := .required hreason hmodule huri hd hname
  have htable : Stands x sampleUri a ⟨sampleUri, "T"⟩ := .type htag (.inr rfl) ht hne
  have hother := resolve_one_tag _ _ hm hdot hcolon hmodule hother
  have hown := resolve_one_tag _ _ ha hdot hcolon htable hown
  exact ⟨hother, hown⟩

end LuaAtlas.Inference
