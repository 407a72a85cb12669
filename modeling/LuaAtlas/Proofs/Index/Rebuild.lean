/-
Replacing one document. A document is determined by its source up to its referrers, which it keeps
when it is replaced; a text with syntax errors replaces no complete document. In the workspace the
targets that are required no more lose the referrer, and everything else stays.
-/
import LuaAtlas.Index
import LuaAtlas.Proofs.Index.Library
import Mathlib.Data.List.Nodup

namespace LuaAtlas

open LuaAtlas.Syntax

/-! ## Documents up to their referrers -/

namespace Document

/-- The document with other referrers. -/
def withReferrers (d : Document) (us : List Uri) : Document := { d with referencedBy := us }

/-- The document without its referrers: what its source alone determines. -/
def bare (d : Document) : Document := d.withReferrers []

@[simp] theorem withReferrers_bare (d : Document) (us : List Uri) : (d.withReferrers us).bare = d.bare := rfl

@[simp] theorem withReferrers_referencedBy (d : Document) (us : List Uri) :
    (d.withReferrers us).referencedBy = us := rfl

@[simp] theorem withReferrers_uri (d : Document) (us : List Uri) : (d.withReferrers us).uri = d.uri := rfl

@[simp] theorem addReference_bare (d : Document) (u : Uri) : (d.addReference u).bare = d.bare := by
  unfold addReference; split <;> rfl

@[simp] theorem addReference_uri (d : Document) (u : Uri) : (d.addReference u).uri = d.uri := by
  unfold addReference; split <;> rfl

@[simp] theorem dropReference_bare (d : Document) (u : Uri) : (d.dropReference u).bare = d.bare := rfl

@[simp] theorem dropReference_uri (d : Document) (u : Uri) : (d.dropReference u).uri = d.uri := rfl

theorem mem_addReference {d : Document} {u q : Uri} :
    q ∈ (d.addReference u).referencedBy ↔ q ∈ d.referencedBy ∨ q = u := by
  unfold addReference
  split
  · rename_i h
    have hu : u ∈ d.referencedBy := by simpa using h
    exact ⟨.inl, fun h => h.elim id fun h => h ▸ hu⟩
  · simp

theorem mem_dropReference {d : Document} {u q : Uri} :
    q ∈ (d.dropReference u).referencedBy ↔ q ∈ d.referencedBy ∧ q ≠ u := by
  simp [dropReference]

theorem addReference_of_mem {d : Document} {u : Uri} (h : u ∈ d.referencedBy) : d.addReference u = d := by
  unfold addReference; rw [if_pos (by simpa using h)]

@[simp] theorem addReference_addReference (d : Document) (u : Uri) :
    (d.addReference u).addReference u = d.addReference u :=
  addReference_of_mem (mem_addReference.2 (.inr rfl))

theorem addReference_nodup {d : Document} (h : d.referencedBy.Nodup) (u : Uri) :
    (d.addReference u).referencedBy.Nodup := by
  unfold addReference
  split
  · exact h
  · rename_i hu
    refine List.nodup_append.2 ⟨h, List.nodup_singleton u, fun a ha b hb hab => ?_⟩
    rw [List.mem_singleton] at hb
    subst hb; subst hab
    exact hu (by simpa using ha)

@[simp] theorem build_uri (shelf : Shelf) (uri : Uri) (o : Outcome) : (build shelf uri o).uri = uri := by
  cases o <;> rfl

@[simp] theorem build_referencedBy (shelf : Shelf) (uri : Uri) (o : Outcome) :
    (build shelf uri o).referencedBy = [] := by
  cases o <;> rfl

@[simp] theorem build_bare (shelf : Shelf) (uri : Uri) (o : Outcome) :
    (build shelf uri o).bare = build shelf uri o := by
  cases o <;> rfl

theorem build_state (shelf : Shelf) (uri : Uri) (o : Outcome) :
    (build shelf uri o).state = if o.isDegraded then .degraded else .complete := by
  cases o <;> rfl

end Document

namespace Index

/-! ## Modules and targets -/

theorem mem_targets {x : Index} {d : Document} {t : Uri} :
    t ∈ x.targets d ↔ ∃ r ∈ d.requires, x.resolve? r.targetModule = some t := by
  simp [targets]

/-- The targets of a document depend on the modules and on the document's source only. -/
theorem targets_congr {x y : Index} (hm : y.modules = x.modules) {d e : Document} (hb : e.bare = d.bare) :
    y.targets e = x.targets d := by
  have hr : e.requires = d.requires := by injection hb
  unfold targets resolve?
  rw [hm, hr]

theorem resolve?_mem {x : Index} {required : String} {t : Uri} (h : x.resolve? required = some t) :
    t ∈ x.modules.map (·.2) := by
  unfold resolve? at h
  obtain ⟨m, hm, rfl⟩ := Option.map_eq_some_iff.1 h
  exact List.mem_map_of_mem (List.mem_of_find?_eq_some hm)

theorem targets_subset (x : Index) (d : Document) : x.targets d ⊆ x.modules.map (·.2) := by
  intro t ht
  obtain ⟨r, -, hr⟩ := mem_targets.1 ht
  exact resolve?_mem hr

theorem document?_changeDocument (x : Index) (u : Uri) {f : Document → Document} (hf : ∀ d, (f d).uri = d.uri)
    (v : Uri) : (x.changeDocument u f).document? v = (x.document? v).map fun d => if v = u then f d else d :=
  Library.find?_change x.workspace u hf v

theorem document?_insert (x : Index) (d : Document) (v : Uri) :
    { x with workspace := x.workspace.insert d }.document? v = if v = d.uri then some d else x.document? v := by
  refine (Library.find?_insert x.workspace d v).trans ?_
  exact if_congr eq_comm rfl rfl

theorem document?_mem {x : Index} {u : Uri} {d : Document} (h : x.document? u = some d) :
    d ∈ x.workspace.documents ∧ d.uri = u :=
  ⟨List.mem_of_find?_eq_some h, Library.find?_uri h⟩

theorem library_withLibrary (x : Index) (l : Library) (shelf sh : Shelf) :
    (x.withLibrary l shelf).library sh = if sh = shelf then l else x.library sh := by
  cases shelf <;> cases sh <;> rfl

theorem document?_withLibrary (x : Index) (l : Library) {shelf : Shelf} (hs : shelf ≠ .workspace) (v : Uri) :
    (x.withLibrary l shelf).document? v = x.document? v := by
  cases shelf with
  | workspace => exact absurd rfl hs
  | stdlib => rfl
  | user => rfl

theorem targets_withLibrary (x : Index) (l : Library) (shelf : Shelf) (d : Document) :
    (x.withLibrary l shelf).targets d = x.targets d := by
  cases shelf <;> rfl

/-- What work on workspace documents never touches: the settings, the modules and the stubs; and the
order of the workspace, which it keeps. -/
structure Frame (x y : Index) : Prop where
  config : y.config = x.config
  modules : y.modules = x.modules
  stdlib : y.stdlib = x.stdlib
  user : y.user = x.user
  ordered : x.workspace.Ordered → y.workspace.Ordered

theorem Frame.refl (x : Index) : Frame x x := ⟨rfl, rfl, rfl, rfl, id⟩

theorem Frame.trans {x y z : Index} (h1 : Frame x y) (h2 : Frame y z) : Frame x z :=
  ⟨h2.config.trans h1.config, h2.modules.trans h1.modules, h2.stdlib.trans h1.stdlib, h2.user.trans h1.user,
    h2.ordered ∘ h1.ordered⟩

/-- The libraries after work on workspace documents: only the workspace is another one. -/
theorem Frame.library {x y : Index} (h : Frame x y) {shelf : Shelf} (hs : shelf ≠ .workspace) :
    y.library shelf = x.library shelf := by
  cases shelf with
  | workspace => exact absurd rfl hs
  | stdlib => exact h.stdlib
  | user => exact h.user

theorem frame_insert (x : Index) (d : Document) : Frame x { x with workspace := x.workspace.insert d } :=
  ⟨rfl, rfl, rfl, rfl, fun h => h.insert d⟩

theorem frame_changeDocument (x : Index) (u : Uri) {f : Document → Document} (hf : ∀ d, (f d).uri = d.uri) :
    Frame x (x.changeDocument u f) :=
  ⟨rfl, rfl, rfl, rfl, fun h => h.change u hf⟩

/-! ## The replaced document -/

/-- The document that a text gives `uri`, with the referrers of the one before. -/
def replacement (x : Index) (shelf : Shelf) (uri : Uri) (text : String) : Document :=
  (Document.build shelf uri (parse text)).withReferrers ((((x.library shelf).find? uri).map (·.referencedBy)).getD [])

/-- What the workspace document of `uri` requires and `d` does not. -/
def stale (x : Index) (uri : Uri) (d : Document) : List Uri :=
  (((x.document? uri).map x.targets).getD []).filter fun t => !(x.targets d).contains t

@[simp] theorem replacement_uri (x : Index) (shelf : Shelf) (uri : Uri) (text : String) :
    (x.replacement shelf uri text).uri = uri := by
  unfold replacement; rw [Document.withReferrers_uri, Document.build_uri]

@[simp] theorem replacement_bare (x : Index) (shelf : Shelf) (uri : Uri) (text : String) :
    (x.replacement shelf uri text).bare = .build shelf uri (parse text) := by
  unfold replacement; rw [Document.withReferrers_bare, Document.build_bare]

theorem replacement_referencedBy {x : Index} {shelf : Shelf} {uri : Uri} {d : Document}
    (h : (x.library shelf).find? uri = some d) (text : String) :
    (x.replacement shelf uri text).referencedBy = d.referencedBy := by
  unfold replacement; rw [h, Document.withReferrers_referencedBy]; rfl

theorem replacement_new {x : Index} {shelf : Shelf} {uri : Uri} (h : (x.library shelf).find? uri = none)
    (text : String) :
    x.replacement shelf uri text = .build shelf uri (parse text) := by
  unfold replacement
  rw [h, Option.map_none, Option.getD_none]
  generalize parse text = o
  exact Document.build_bare ..

theorem mem_stale {x : Index} {uri t : Uri} {d : Document} :
    t ∈ x.stale uri d ↔ (∃ e, x.document? uri = some e ∧ t ∈ x.targets e) ∧ t ∉ x.targets d := by
  unfold stale
  cases x.document? uri <;> simp

/-- Whether a text with syntax errors comes upon a complete document, which it does not replace. -/
def isKept (x : Index) (shelf : Shelf) (uri : Uri) (text : String) : Bool :=
  (parse text).isDegraded && ((x.library shelf).find? uri).any (·.state = .complete)

theorem isKept_iff {x : Index} {shelf : Shelf} {uri : Uri} {text : String} : x.isKept shelf uri text = true ↔
    (parse text).isDegraded = true ∧ ∃ d, (x.library shelf).find? uri = some d ∧ d.state = .complete := by
  unfold isKept
  rw [Bool.and_eq_true_iff, Option.any_eq_true]
  simp only [decide_eq_true_eq]

theorem rebuild_kept {x : Index} {shelf : Shelf} {uri : Uri} {text : String} (h : x.isKept shelf uri text = true) :
    x.rebuild shelf uri text = (x, .complete) := by
  unfold isKept at h
  unfold rebuild
  rw [if_pos h]

theorem rebuild_workspace {x : Index} {uri : Uri} {text : String} (h : x.isKept .workspace uri text = false) :
    x.rebuild .workspace uri text =
      ((x.stale uri (x.replacement .workspace uri text)).foldl (fun z t => z.changeDocument t (·.dropReference uri))
        { x with workspace := x.workspace.insert (x.replacement .workspace uri text) },
        (x.replacement .workspace uri text).state) := by
  unfold isKept at h
  unfold rebuild replacement
  generalize parse text = o at h ⊢
  rw [if_neg (by simp [h])]
  dsimp only
  rw [if_pos rfl]
  rfl

theorem rebuild_stub {x : Index} {shelf : Shelf} {uri : Uri} {text : String} (hs : shelf ≠ .workspace)
    (h : x.isKept shelf uri text = false) :
    x.rebuild shelf uri text = (x.withLibrary ((x.library shelf).insert (x.replacement shelf uri text)) shelf,
      (x.replacement shelf uri text).state) := by
  unfold isKept at h
  unfold rebuild replacement
  generalize parse text = o at h ⊢
  rw [if_neg (by simp [h])]
  dsimp only
  rw [if_neg hs]
  rfl

/-! ## Replacing seen through look-up -/

theorem frame_dropReferences (uri : Uri) : ∀ (ts : List Uri) (x : Index),
    Frame x (ts.foldl (fun z t => z.changeDocument t (·.dropReference uri)) x)
  | [], x => Frame.refl x
  | t :: ts, x =>
    (frame_changeDocument x t fun d => Document.dropReference_uri d uri).trans (frame_dropReferences uri ts _)

theorem document?_dropReferences (uri : Uri) : ∀ (ts : List Uri) (x : Index) (v : Uri),
    (ts.foldl (fun z t => z.changeDocument t (·.dropReference uri)) x).document? v =
      (x.document? v).map fun d => if v ∈ ts then d.dropReference uri else d
  | [], x, v => by simp
  | t :: ts, x, v => by
    rw [List.foldl_cons, document?_dropReferences uri ts,
      document?_changeDocument x t fun d => Document.dropReference_uri d uri, Option.map_map]
    congr 1
    funext d
    by_cases hv : v = t <;> by_cases hts : v ∈ ts <;> simp [hv, hts, Document.dropReference]

/-- What replacing the workspace document of `d`'s URI by `d` makes of `x`. -/
structure Replaced (x : Index) (d : Document) (y : Index) : Prop where
  frame : Frame x y
  document : ∀ v, y.document? v =
    (if v = d.uri then some d else x.document? v).map fun e => if v ∈ x.stale d.uri d then e.dropReference d.uri else e

theorem rebuild_replaced {x : Index} {uri : Uri} {text : String} (h : x.isKept .workspace uri text = false) :
    Replaced x (x.replacement .workspace uri text) (x.rebuild .workspace uri text).1 := by
  have huri := replacement_uri x .workspace uri text
  rw [rebuild_workspace h]
  generalize x.replacement .workspace uri text = d at huri ⊢
  subst huri
  refine ⟨(frame_insert x d).trans (frame_dropReferences d.uri _ _), fun v => ?_⟩
  rw [document?_dropReferences, document?_insert]

/-- The replaced document is there, up to its referrers. -/
theorem Replaced.self {x y : Index} {d : Document} (h : Replaced x d y) :
    ∃ e, y.document? d.uri = some e ∧ e.bare = d.bare := by
  rw [h.document, if_pos rfl]
  refine ⟨_, rfl, ?_⟩
  split
  · exact Document.dropReference_bare ..
  · rfl

/-- The other documents are there, up to a dropped referrer. -/
theorem Replaced.other {x y : Index} {d : Document} (h : Replaced x d y) {v : Uri} (hv : v ≠ d.uri) :
    y.document? v = (x.document? v).map fun e => if v ∈ x.stale d.uri d then e.dropReference d.uri else e := by
  rw [h.document, if_neg hv]

/-- A document of the new index comes from `d` or from the document of the same URI, and its referrers are
theirs without one who requires it no more. -/
theorem Replaced.origin {x y : Index} {d : Document} (h : Replaced x d y) {v : Uri} {e : Document}
    (he : y.document? v = some e) :
    ∃ e₀, (if v = d.uri then some d else x.document? v) = some e₀ ∧ e.referencedBy.Sublist e₀.referencedBy ∧
      (v ∈ x.stale d.uri d → d.uri ∉ e.referencedBy) := by
  rw [h.document] at he
  obtain ⟨e₀, h₀, rfl⟩ := Option.map_eq_some_iff.1 he
  refine ⟨e₀, h₀, ?_⟩
  split
  · exact ⟨List.filter_sublist, fun _ hm => (Document.mem_dropReference.1 hm).2 rfl⟩
  · rename_i hv
    exact ⟨List.Sublist.refl _, fun hs => absurd hs hv⟩

/-- Replacing removes no document; all but the replaced one are the same up to their referrers. -/
theorem Replaced.old {x y : Index} {d : Document} (h : Replaced x d y) {v : Uri} {e : Document} (hv : v ≠ d.uri)
    (he : x.document? v = some e) : ∃ e', y.document? v = some e' ∧ e'.bare = e.bare := by
  rw [h.other hv, he]
  refine ⟨_, rfl, ?_⟩
  split
  · exact Document.dropReference_bare ..
  · rfl

/-- Putting a text in adds no document but that of its URI. -/
theorem rebuild_none {x : Index} {uri v : Uri} (hv : v ≠ uri) (hx : x.document? v = none) (text : String) :
    (x.rebuild .workspace uri text).1.document? v = none := by
  cases hk : x.isKept .workspace uri text with
  | true => rw [rebuild_kept hk]; exact hx
  | false => rw [(rebuild_replaced hk).other (by rw [replacement_uri]; exact hv), hx]; rfl

/-- After its text has been put in, the document of `uri` is there. -/
theorem rebuild_self (x : Index) (uri : Uri) (text : String) :
    ∃ d, (x.rebuild .workspace uri text).1.document? uri = some d := by
  cases hk : x.isKept .workspace uri text with
  | true =>
    rw [rebuild_kept hk]
    obtain ⟨-, d, hd, -⟩ := isKept_iff.1 hk
    exact ⟨d, hd⟩
  | false =>
    obtain ⟨e, he, -⟩ := (rebuild_replaced hk).self
    rw [replacement_uri] at he
    exact ⟨e, he⟩

end Index

end LuaAtlas
