/-
What a build leaves alone. A failed build changes nothing. A build that succeeds removes no document
and changes no document but its own, save that in the workspace others may lose the built document as
a referrer, and gain it or one that the build has added. A stub build changes the one document alone.
A text with syntax errors changes nothing about a complete document, so that what is complete stays
complete until all documents are forgotten.

The link loop carries the argument: every document that was there is the same up to referrers added
behind the old ones, each of them the built document or one that was not there before.
-/
import LuaAtlas.Proofs.Index.Run

namespace LuaAtlas

open LuaAtlas.Syntax

/-! ## Documents up to referrers that come and go -/

namespace Document

/-- `e` is `d` up to its referrers: at most `gone` is lost, and only such as `came` allows stand
behind those that are left. -/
def Relisted (gone : Uri) (came : Uri → Prop) (d e : Document) : Prop :=
  ∃ kept added, (kept = d.referencedBy ∨ kept = d.referencedBy.filter (· ≠ gone)) ∧ (∀ q ∈ added, came q) ∧
    e = d.withReferrers (kept ++ added)

theorem Relisted.refl (gone : Uri) (came : Uri → Prop) (d : Document) : Relisted gone came d d :=
  ⟨d.referencedBy, [], .inl rfl, fun _ h => absurd h List.not_mem_nil, by rw [List.append_nil]; rfl⟩

theorem Relisted.bare {gone : Uri} {came : Uri → Prop} {d e : Document} (h : Relisted gone came d e) :
    e.bare = d.bare := by
  obtain ⟨kept, added, -, -, rfl⟩ := h
  rfl

theorem state_of_bare {d e : Document} (h : e.bare = d.bare) : e.state = d.state := by
  injection h

theorem addReference_eq (d : Document) (u : Uri) :
    ∃ more, (∀ q ∈ more, q = u) ∧ d.addReference u = d.withReferrers (d.referencedBy ++ more) := by
  unfold addReference
  split
  · exact ⟨[], fun _ h => absurd h List.not_mem_nil, by rw [List.append_nil]; rfl⟩
  · exact ⟨[u], fun _ h => List.mem_singleton.1 h, rfl⟩

end Document

namespace Index

/-! ## The link loop -/

theorem link_frame {disk : Disk} {x : Index} {uri : Uri} {d : Document} (hd : x.document? uri = some d) :
    Frame x (link disk x uri) :=
  link_induction (P := fun _ y => Frame x y) hd (fun _ _ _ _ _ _ h _ hl => h.trans hl.frame) (Frame.refl x)

/-- `q` has a workspace document in `y` and had none in `x`. -/
def Added (x y : Index) (q : Uri) : Prop := x.document? q = none ∧ ∃ e, y.document? q = some e

/-- The state of the link loop for `uri` from `x`: who is pending was built or added, and the documents
of `x` have got such referrers only. -/
structure Linking (x : Index) (uri : Uri) (pending : List Uri) (y : Index) : Prop where
  pending : ∀ p ∈ pending, p = uri ∨ Added x y p
  old : ∀ v d, x.document? v = some d → ∃ added, (∀ q ∈ added, q = uri ∨ Added x y q) ∧
    y.document? v = some (d.withReferrers (d.referencedBy ++ added))

/-- One round of the loop keeps its invariant. -/
theorem Linking.round {disk : Disk} {x y z : Index} {uri u : Uri} {d : Document} {pending loaded : List Uri}
    (h : Linking x uri (pending ++ [u]) y) (hl : Linked disk u (y.targets d) y z loaded) :
    Linking x uri (pending ++ loaded) z := by
  have hkeep : ∀ q, q = uri ∨ Added x y q → q = uri ∨ Added x z q := by
    rintro q (hq | ⟨hx, e, he⟩)
    · exact .inl hq
    · exact .inr ⟨hx, _, hl.old he⟩
  refine ⟨fun p hp => ?_, fun v e he => ?_⟩
  · rcases List.mem_append.1 hp with hp | hp
    · exact hkeep p (h.pending p (List.mem_append_left _ hp))
    · -- a loaded document had none in `y`, hence none in `x`
      obtain ⟨ht, hy, -⟩ := (hl.loaded_iff p).1 hp
      obtain ⟨e, he, -⟩ := hl.target ht
      refine .inr ⟨?_, e, he⟩
      cases hx : x.document? p with
      | none => rfl
      | some e₀ =>
        obtain ⟨added, -, hy'⟩ := h.old p e₀ hx
        rw [hy] at hy'; cases hy'
  · obtain ⟨added, hadded, hy⟩ := h.old v e he
    have hu := hkeep u (h.pending u (by simp))
    rw [hl.old hy]
    split
    · obtain ⟨more, hmore, heq⟩ := Document.addReference_eq (e.withReferrers (e.referencedBy ++ added)) u
      refine ⟨added ++ more, fun q hq => ?_, ?_⟩
      · rcases List.mem_append.1 hq with hq | hq
        · exact hkeep q (hadded q hq)
        · rw [hmore q hq]; exact hu
      · rw [heq, ← List.append_assoc]; rfl
    · exact ⟨added, fun q hq => hkeep q (hadded q hq), rfl⟩

theorem link_linking {disk : Disk} {x : Index} {uri : Uri} {d : Document} (hd : x.document? uri = some d) :
    Linking x uri [] (link disk x uri) := by
  refine link_induction hd (fun _ _ _ _ _ _ h _ hl => h.round hl) ⟨fun p hp => ?_, fun v e he => ?_⟩
  · exact .inl (List.mem_singleton.1 hp)
  · exact ⟨[], fun _ h => absurd h List.not_mem_nil, by rw [List.append_nil, he]; rfl⟩

/-! ## Other documents -/

theorem register_isKept (x : Index) (uri : Uri) (shelf : Shelf) (text : String) :
    (x.register uri).isKept shelf uri text = x.isKept shelf uri text := by
  unfold isKept; rw [register_library]

theorem rebuild_frame (x : Index) (uri : Uri) (text : String) : Frame x (x.rebuild .workspace uri text).1 := by
  cases hk : x.isKept .workspace uri text with
  | true => rw [rebuild_kept hk]; exact Frame.refl x
  | false => exact (rebuild_replaced hk).frame

/-- A text put in for `uri` takes `uri` from the referrers of other documents at most. -/
theorem rebuild_other {x : Index} {uri v : Uri} {d : Document} (hv : v ≠ uri) (hd : x.document? v = some d)
    (text : String) :
    ∃ kept, (kept = d.referencedBy ∨ kept = d.referencedBy.filter (· ≠ uri)) ∧
      (x.rebuild .workspace uri text).1.document? v = some (d.withReferrers kept) := by
  cases hk : x.isKept .workspace uri text with
  | true => rw [rebuild_kept hk]; exact ⟨d.referencedBy, .inl rfl, hd⟩
  | false =>
    rw [(rebuild_replaced hk).other (by rw [replacement_uri]; exact hv), hd, Option.map_some, replacement_uri]
    split
    · exact ⟨_, .inr rfl, rfl⟩
    · exact ⟨_, .inl rfl, rfl⟩

/-- Putting in a stub changes no other document. -/
theorem rebuild_stub_other {x : Index} {shelf sh : Shelf} {uri v : Uri} {text : String} (hs : shelf ≠ .workspace)
    (hv : (sh, v) ≠ (shelf, uri)) :
    ((x.rebuild shelf uri text).1.library sh).find? v = (x.library sh).find? v := by
  cases hk : x.isKept shelf uri text with
  | true => rw [rebuild_kept hk]
  | false =>
    rw [rebuild_stub hs hk, library_withLibrary]
    by_cases hsh : sh = shelf
    · subst hsh
      have hne : uri ≠ v := fun h => hv (by rw [h])
      rw [if_pos rfl, Library.find?_insert, replacement_uri, if_neg hne]
    · rw [if_neg hsh]

theorem rebuild_stub_frame {x : Index} {shelf : Shelf} (hs : shelf ≠ .workspace) (uri : Uri) (text : String) :
    (x.rebuild shelf uri text).1.config = x.config ∧ (x.rebuild shelf uri text).1.modules = x.modules := by
  cases hk : x.isKept shelf uri text with
  | true => rw [rebuild_kept hk]; exact ⟨rfl, rfl⟩
  | false => rw [rebuild_stub hs hk]; cases shelf <;> exact ⟨rfl, rfl⟩

theorem buildText_frame (x : Index) (disk : Disk) (uri : Uri) (text : String) :
    Frame (x.register uri) (x.buildText disk .workspace uri text).1 := by
  obtain ⟨d, hd⟩ := rebuild_self (x.register uri) uri text
  rw [buildText_workspace]
  exact (rebuild_frame (x.register uri) uri text).trans (link_frame hd)

/-- A workspace build changes other workspace documents in their referrers only. -/
theorem buildText_other {x : Index} {uri v : Uri} {d : Document} (hv : v ≠ uri) (hd : x.document? v = some d)
    (disk : Disk) (text : String) :
    ∃ e, (x.buildText disk .workspace uri text).1.document? v = some e ∧
      d.Relisted uri (fun q => q = uri ∨ Added x (x.buildText disk .workspace uri text).1 q) e := by
  rw [buildText_workspace]
  obtain ⟨d₀, hself⟩ := rebuild_self (x.register uri) uri text
  obtain ⟨kept, hkept, hd'⟩ := rebuild_other hv ((register_document? x uri v).trans hd) text
  obtain ⟨added, hadded, he⟩ := (link_linking hself).old v _ hd'
  refine ⟨_, he, kept, added, hkept, fun q hq => ?_, rfl⟩
  refine (hadded q hq).imp id ?_
  rintro ⟨hnone, hsome⟩
  refine ⟨?_, hsome⟩
  -- what had no document after the rebuild had none before
  cases hx : x.document? q with
  | none => rfl
  | some e =>
    by_cases hqu : q = uri
    · subst hqu
      rw [hself] at hnone; cases hnone
    · obtain ⟨_, -, hq'⟩ := rebuild_other hqu ((register_document? x uri q).trans hx) text
      rw [hq'] at hnone; cases hnone

/-- A build changes other documents in their referrers only, and those of stubs not at all. -/
theorem buildText_untouched {x : Index} {shelf sh : Shelf} {uri v : Uri} {d : Document}
    (hv : (sh, v) ≠ (shelf, uri)) (hd : (x.library sh).find? v = some d) (disk : Disk) (text : String) :
    ∃ e, ((x.buildText disk shelf uri text).1.library sh).find? v = some e ∧
      d.Relisted uri (fun q => q = uri ∨ Added x (x.buildText disk shelf uri text).1 q) e := by
  by_cases hs : shelf = .workspace
  · subst hs
    by_cases hsh : sh = .workspace
    · subst hsh
      exact buildText_other (fun h => hv (by rw [h])) hd disk text
    · rw [(buildText_frame x disk uri text).library hsh, register_library]
      exact ⟨d, hd, .refl ..⟩
  · rw [buildText_stub x disk hs, rebuild_stub_other hs hv, hd]
    exact ⟨d, rfl, .refl ..⟩

/-! ## The built document -/

/-- A complete document that meets a text with syntax errors stays as it is, up to its referrers. -/
theorem buildText_kept {x : Index} {shelf : Shelf} {uri : Uri} {d : Document} {text : String} (disk : Disk)
    (hk : x.isKept shelf uri text = true) (hd : (x.library shelf).find? uri = some d) :
    (x.buildText disk shelf uri text).2 = .complete ∧
      ∃ e, ((x.buildText disk shelf uri text).1.library shelf).find? uri = some e ∧ e.bare = d.bare := by
  by_cases hs : shelf = .workspace
  · subst hs
    have hk' := (register_isKept x uri .workspace text).trans hk
    have hd' : (x.register uri).document? uri = some d := (register_document? x uri uri).trans hd
    rw [buildText_workspace, buildText_state, rebuild_kept hk']
    exact ⟨rfl, link_old hd' hd'⟩
  · rw [buildText_stub x disk hs, rebuild_kept hk]
    exact ⟨rfl, d, hd, rfl⟩

/-- A text that is not held back is what the document says, and tells its state. -/
theorem buildText_replaced {x : Index} {shelf : Shelf} {uri : Uri} {text : String} (disk : Disk)
    (hk : x.isKept shelf uri text = false) :
    (x.buildText disk shelf uri text).2 = (Document.build shelf uri (parse text)).state ∧
      ∃ e, ((x.buildText disk shelf uri text).1.library shelf).find? uri = some e ∧
        e.bare = .build shelf uri (parse text) := by
  have hstate : ∀ y : Index, (y.replacement shelf uri text).state = (Document.build shelf uri (parse text)).state :=
    fun y => Document.state_of_bare ((replacement_bare y shelf uri text).trans (Document.build_bare ..).symm)
  by_cases hs : shelf = .workspace
  · subst hs
    have hk' := (register_isKept x uri .workspace text).trans hk
    obtain ⟨d, hd, hbare⟩ := (rebuild_replaced hk').self
    rw [replacement_uri] at hd
    rw [replacement_bare] at hbare
    obtain ⟨e, he, hbare'⟩ : ∃ e, (x.buildText disk .workspace uri text).1.document? uri = some e ∧
        e.bare = d.bare := by
      rw [buildText_workspace]
      exact link_old hd hd
    refine ⟨?_, e, he, hbare'.trans hbare⟩
    rw [buildText_state, rebuild_workspace hk', ← hstate (x.register uri)]
  · have hrebuild : x.buildText disk shelf uri text = _ := (buildText_stub x disk hs uri text).trans (rebuild_stub hs hk)
    refine ⟨?_, x.replacement shelf uri text, ?_, replacement_bare x shelf uri text⟩
    · rw [hrebuild, ← hstate x]
    · rw [hrebuild, library_withLibrary, if_pos rfl, Library.find?_insert, replacement_uri, if_pos rfl]

/-- The built document says what the text says, or it is the complete one that was there before. -/
theorem buildText_source (x : Index) (disk : Disk) (shelf : Shelf) (uri : Uri) (text : String) :
    ∃ e, ((x.buildText disk shelf uri text).1.library shelf).find? uri = some e ∧
      (e.bare = .build shelf uri (parse text) ∨
        ∃ d, (x.library shelf).find? uri = some d ∧ d.state = .complete ∧ e.bare = d.bare) := by
  cases hk : x.isKept shelf uri text with
  | true =>
    obtain ⟨-, d, hd, hcomplete⟩ := isKept_iff.1 hk
    obtain ⟨-, e, he, hbare⟩ := buildText_kept disk hk hd
    exact ⟨e, he, .inr ⟨d, hd, hcomplete, hbare⟩⟩
  | false =>
    obtain ⟨-, e, he, hbare⟩ := buildText_replaced disk hk
    exact ⟨e, he, .inl hbare⟩

theorem buildText_library_self (x : Index) (disk : Disk) (shelf : Shelf) (uri : Uri) (text : String) :
    ∃ e, ((x.buildText disk shelf uri text).1.library shelf).find? uri = some e := by
  obtain ⟨e, he, -⟩ := buildText_source x disk shelf uri text
  exact ⟨e, he⟩

/-- A text without syntax errors gives a complete document. -/
theorem buildText_complete {x : Index} {disk : Disk} {shelf : Shelf} {uri : Uri} {text : String}
    (h : (parse text).isDegraded = false) :
    ∃ e, ((x.buildText disk shelf uri text).1.library shelf).find? uri = some e ∧ e.state = .complete := by
  have hstate : (Document.build shelf uri (parse text)).state = .complete := by
    rw [Document.build_state, h]; rfl
  have hk : x.isKept shelf uri text = false := by
    rw [Bool.eq_false_iff]
    intro hk
    rw [(isKept_iff.1 hk).1] at h
    cases h
  obtain ⟨-, e, he, hbare⟩ := buildText_replaced disk hk
  exact ⟨e, he, (Document.state_of_bare (hbare.trans (Document.build_bare ..).symm)).trans hstate⟩

/-- A complete document stays complete through any build. -/
theorem buildText_stays_complete {x : Index} {sh : Shelf} {v : Uri} {d : Document} (disk : Disk) (shelf : Shelf)
    (uri : Uri) (text : String) (hd : (x.library sh).find? v = some d) (hc : d.state = .complete) :
    ∃ e, ((x.buildText disk shelf uri text).1.library sh).find? v = some e ∧ e.state = .complete := by
  by_cases hv : (sh, v) = (shelf, uri)
  · cases hv
    cases hp : (parse text).isDegraded with
    | false => exact buildText_complete hp
    | true =>
      obtain ⟨-, e, he, hb⟩ := buildText_kept disk (isKept_iff.2 ⟨hp, d, hd, hc⟩) hd
      exact ⟨e, he, (Document.state_of_bare hb).trans hc⟩
  · obtain ⟨e, he, hr⟩ := buildText_untouched hv hd disk text
    exact ⟨e, he, (Document.state_of_bare hr.bare).trans hc⟩

theorem step_stays_complete {x : Index} {sh : Shelf} {v : Uri} {s : Step} (hs : s.forgets = false)
    (h : ∃ d, (x.library sh).find? v = some d ∧ d.state = .complete) :
    ∃ d, ((x.step s).library sh).find? v = some d ∧ d.state = .complete := by
  obtain ⟨d, hd, hc⟩ := h
  cases s with
  | register uri =>
    show ∃ d, ((x.register uri).library sh).find? v = some d ∧ d.state = .complete
    rw [register_library]
    exact ⟨d, hd, hc⟩
  | build disk shelf uri text? =>
    rcases step_build x disk shelf uri text? with ⟨text, -, hy⟩ | ⟨err, -, hy⟩
    · rw [hy]; exact buildText_stays_complete disk shelf uri text hd hc
    · rw [hy]; exact ⟨d, hd, hc⟩
  | reset => cases hs
  | init config => cases hs

/-! ## The build as a whole -/

/-- What a build touches. It fails for want of a text only, and then the index stays as it was. If it
succeeds, the built document is there; every other document is still there and is the same up to its
referrers, of which only the built URI may be gone and only the built URI or the URIs of added documents
have come; a stub build leaves the modules, the settings and every other document alone; and a complete
document that meets a text with syntax errors is the same up to its referrers. So a complete document stays
complete until all is forgotten. -/
theorem build_touches_only (x : Index) (disk : Disk) (shelf : Shelf) (uri : Uri) (text? : Option String) :
    (∀ y err, x.build disk shelf uri text? = (y, .error err) → x.sourceText disk uri text? = .error err ∧ y = x) ∧
    (∀ y state, x.build disk shelf uri text? = (y, .ok state) →
      (∃ e, (y.library shelf).find? uri = some e) ∧
      (∀ sh v d, (sh, v) ≠ (shelf, uri) → (x.library sh).find? v = some d →
        ∃ e, (y.library sh).find? v = some e ∧ d.Relisted uri (fun q => q = uri ∨ Added x y q) e) ∧
      (shelf ≠ .workspace → y.config = x.config ∧ y.modules = x.modules ∧
        ∀ sh v, (sh, v) ≠ (shelf, uri) → (y.library sh).find? v = (x.library sh).find? v) ∧
      ∀ d text, (x.library shelf).find? uri = some d → d.state = .complete →
        x.sourceText disk uri text? = .ok text → (parse text).isDegraded = true →
        state = .complete ∧ ∃ e, (y.library shelf).find? uri = some e ∧ e.bare = d.bare) ∧
    ∀ steps : List Step, (∀ s ∈ steps, s.forgets = false) → ∀ sh v d, (x.library sh).find? v = some d →
      d.state = .complete → ∃ e, ((x.run steps).library sh).find? v = some e ∧ e.state = .complete := by
  refine ⟨fun y err => build_error, fun y state hb => ?_, fun steps hs sh v d hd hc => ?_⟩
  · obtain ⟨text, htext, ht⟩ := build_ok hb
    have hy : y = (x.buildText disk shelf uri text).1 := by rw [ht]
    have hstate : state = (x.buildText disk shelf uri text).2 := by rw [ht]
    refine ⟨?_, fun sh v d hv hd => ?_, fun hs => ?_, fun d text' hd hc htext' hp => ?_⟩
    · rw [hy]; exact buildText_library_self x disk shelf uri text
    · rw [hy]; exact buildText_untouched hv hd disk text
    · rw [hy, buildText_stub x disk hs]
      obtain ⟨hc, hm⟩ := rebuild_stub_frame hs uri text
      exact ⟨hc, hm, fun sh v hv => rebuild_stub_other hs hv⟩
    · cases htext.symm.trans htext'
      rw [hy, hstate]
      exact buildText_kept disk (isKept_iff.2 ⟨hp, d, hd, hc⟩) hd
  · exact run_induction (P := fun y => ∃ e, (y.library sh).find? v = some e ∧ e.state = .complete) steps
      (fun y s hs' h => step_stays_complete (hs s hs') h) x ⟨d, hd, hc⟩

end Index

end LuaAtlas
