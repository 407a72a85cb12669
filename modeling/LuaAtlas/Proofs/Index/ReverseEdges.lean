/-
Reverse edges. In every index that a run can reach, a referrer of a document is a document of the
workspace that requires it, and is listed once; stubs have no referrers. After a build, what the built
document requires is there and lists it, and so for every document that the build has added.

Soundness is an invariant of each operation: a rebuilt document takes its reverse edges back from the
targets it requires no more, computed with all modules known by then, and linking adds an edge only
from a document to its targets. Completeness is an invariant of the link loop: a document is either
still pending or linked to all its targets.
-/
import LuaAtlas.Proofs.Index.Run

namespace LuaAtlas.Index

open LuaAtlas.Syntax

/-! ## Soundness -/

/-- The reverse edges of an index are sound: every referrer of a workspace document requires it. -/
structure Sound (x : Index) : Prop where
  ordered : ∀ shelf, (x.library shelf).Ordered
  stubs : ∀ shelf u d, shelf ≠ .workspace → (x.library shelf).find? u = some d → d.referencedBy = []
  nodup : ∀ u d, x.document? u = some d → d.referencedBy.Nodup
  edges : ∀ u d p, x.document? u = some d → p ∈ d.referencedBy → ∃ e, x.document? p = some e ∧ u ∈ x.targets e

theorem sound_empty (config : Config) : Sound (empty config) := by
  refine ⟨fun shelf => ?_, fun shelf u d _ h => ?_, fun u d h => ?_, fun u d p h => ?_⟩
  · cases shelf <;> exact Library.ordered_empty
  · cases shelf <;> cases h
  · cases h
  · cases h

theorem Sound.register {x : Index} (h : Sound x) (uri : Uri) : Sound (x.register uri) := by
  refine ⟨fun shelf => ?_, fun shelf u d hs hd => ?_, fun u d hd => ?_, fun u d p hd hp => ?_⟩
  · rw [register_library]; exact h.ordered shelf
  · rw [register_library] at hd; exact h.stubs shelf u d hs hd
  · rw [register_document?] at hd; exact h.nodup u d hd
  · rw [register_document?] at hd
    obtain ⟨e, he, ht⟩ := h.edges u d p hd hp
    exact ⟨e, by rw [register_document?]; exact he, register_targets ht uri⟩

/-- Work on workspace documents keeps soundness when it keeps the part about the workspace. -/
theorem Sound.of_frame {x y : Index} (h : Sound x) (hf : Frame x y)
    (nodup : ∀ u d, y.document? u = some d → d.referencedBy.Nodup)
    (edges : ∀ u d p, y.document? u = some d → p ∈ d.referencedBy → ∃ e, y.document? p = some e ∧ u ∈ y.targets e) :
    Sound y := by
  refine ⟨fun shelf => ?_, fun shelf u d hs hd => ?_, nodup, edges⟩
  · by_cases hs : shelf = .workspace
    · subst hs; exact hf.ordered (h.ordered .workspace)
    · rw [hf.library hs]; exact h.ordered shelf
  · rw [hf.library hs] at hd; exact h.stubs shelf u d hs hd

theorem replacement_referrers {x : Index} {uri p : Uri} {text : String}
    (hp : p ∈ (x.replacement .workspace uri text).referencedBy) :
    ∃ e, x.document? uri = some e ∧ (x.replacement .workspace uri text).referencedBy = e.referencedBy := by
  cases h : x.document? uri with
  | none =>
    have hlib : (x.library .workspace).find? uri = none := h
    rw [replacement_new hlib, Document.build_referencedBy] at hp
    cases hp
  | some e =>
    have hlib : (x.library .workspace).find? uri = some e := h
    exact ⟨e, rfl, replacement_referencedBy hlib text⟩

/-- Replacing a document by one with the same referrers keeps the reverse edges sound: an edge of the
old document is an edge of the new one, or its target is stale and has lost it. -/
theorem Sound.replaced {x y : Index} {d : Document} (h : Sound x) (hr : Replaced x d y)
    (hd : ∀ p ∈ d.referencedBy, ∃ e, x.document? d.uri = some e ∧ d.referencedBy = e.referencedBy) : Sound y := by
  -- a referrer of a new document is one of the old document of the same URI
  have hold : ∀ v e p, y.document? v = some e → p ∈ e.referencedBy →
      ∃ e', x.document? v = some e' ∧ p ∈ e'.referencedBy := by
    intro v e p he hp
    obtain ⟨e₀, h₀, hsub, -⟩ := hr.origin he
    have hp₀ := hsub.subset hp
    by_cases hv : v = d.uri
    · rw [if_pos hv] at h₀
      cases h₀
      obtain ⟨e', he', heq⟩ := hd p hp₀
      exact ⟨e', hv ▸ he', heq ▸ hp₀⟩
    · rw [if_neg hv] at h₀
      exact ⟨e₀, h₀, hp₀⟩
  refine h.of_frame hr.frame (fun v e he => ?_) (fun v e p he hp => ?_)
  · obtain ⟨e₀, h₀, hsub, -⟩ := hr.origin he
    refine hsub.nodup ?_
    by_cases hv : v = d.uri
    · rw [if_pos hv] at h₀
      cases h₀
      cases hl : d.referencedBy with
      | nil => exact List.nodup_nil
      | cons p ps =>
        obtain ⟨e', he', heq⟩ := hd p (by rw [hl]; exact List.mem_cons_self ..)
        rw [← hl, heq]
        exact h.nodup _ e' he'
    · rw [if_neg hv] at h₀
      exact h.nodup v e₀ h₀
  · obtain ⟨e', he', hp'⟩ := hold v e p he hp
    obtain ⟨f, hf, ht⟩ := h.edges v e' p he' hp'
    by_cases hpd : p = d.uri
    · subst hpd
      obtain ⟨g, hg, hgb⟩ := hr.self
      refine ⟨g, hg, ?_⟩
      rw [targets_congr hr.frame.modules hgb]
      by_contra hn
      obtain ⟨-, -, -, hstale⟩ := hr.origin he
      exact hstale (mem_stale.2 ⟨⟨f, hf, ht⟩, hn⟩) hp
    · obtain ⟨f', hf', hb⟩ := hr.old hpd hf
      exact ⟨f', hf', by rw [targets_congr hr.frame.modules hb]; exact ht⟩

theorem Sound.rebuild {x : Index} (h : Sound x) (uri : Uri) (text : String) :
    Sound (x.rebuild .workspace uri text).1 := by
  cases hk : x.isKept .workspace uri text with
  | true => rw [rebuild_kept hk]; exact h
  | false =>
    refine h.replaced (rebuild_replaced hk) fun p hp => ?_
    rw [replacement_uri]
    exact replacement_referrers hp

/-- Linking a document to its own targets keeps the reverse edges sound. -/
theorem Sound.linked {disk : Disk} {x y : Index} {uri : Uri} {d : Document} {loaded : List Uri} (h : Sound x)
    (hd : x.document? uri = some d) (hl : Linked disk uri (x.targets d) x y loaded) : Sound y := by
  have hbare : ∀ v e, x.document? v = some e → ∃ e', y.document? v = some e' ∧ y.targets e' = x.targets e := by
    intro v e he
    obtain ⟨e', he', hb⟩ := hl.old_bare he
    exact ⟨e', he', targets_congr hl.frame.modules hb⟩
  refine h.of_frame hl.frame (fun v e he => ?_) (fun v e p he hp => ?_)
  · cases hx : x.document? v with
    | some e₀ =>
      rw [hl.old hx] at he
      cases he
      split
      · exact Document.addReference_nodup (h.nodup v e₀ hx) uri
      · exact h.nodup v e₀ hx
    | none =>
      obtain ⟨-, rfl⟩ := hl.new hx he
      refine Document.addReference_nodup ?_ uri
      rw [onDisk_referencedBy]
      exact List.nodup_nil
  · -- the referrer was there before, or it is the linked document
    have hcases : (∃ e₀, x.document? v = some e₀ ∧ p ∈ e₀.referencedBy) ∨ (p = uri ∧ v ∈ x.targets d) := by
      cases hx : x.document? v with
      | some e₀ =>
        rw [hl.old hx] at he
        cases he
        by_cases hv : v ∈ x.targets d
        · rw [if_pos hv] at hp
          exact (Document.mem_addReference.1 hp).imp (fun hp => ⟨e₀, rfl, hp⟩) fun hp => ⟨hp, hv⟩
        · rw [if_neg hv] at hp
          exact .inl ⟨e₀, rfl, hp⟩
      | none =>
        obtain ⟨hv, rfl⟩ := hl.new hx he
        rw [Document.mem_addReference, onDisk_referencedBy] at hp
        exact .inr ⟨hp.resolve_left List.not_mem_nil, hv⟩
    rcases hcases with ⟨e₀, he₀, hp₀⟩ | ⟨rfl, hv⟩
    · obtain ⟨f, hf, ht⟩ := h.edges v e₀ p he₀ hp₀
      obtain ⟨f', hf', hft⟩ := hbare p f hf
      exact ⟨f', hf', hft ▸ ht⟩
    · obtain ⟨d', hd', hdt⟩ := hbare p d hd
      exact ⟨d', hd', hdt ▸ hv⟩

theorem Sound.link {disk : Disk} {x : Index} {uri : Uri} {d : Document} (h : Sound x) (hd : x.document? uri = some d) :
    Sound (link disk x uri) :=
  link_induction (P := fun _ x => Sound x) hd (fun _ _ _ _ _ _ h hu hl => h.linked hu hl) h

/-- A stub that is replaced still has no referrers. -/
theorem Sound.rebuild_stub {x : Index} (h : Sound x) {shelf : Shelf} (hs : shelf ≠ .workspace) (uri : Uri)
    (text : String) :
    Sound (x.rebuild shelf uri text).1 := by
  cases hk : x.isKept shelf uri text with
  | true => rw [rebuild_kept hk]; exact h
  | false =>
    have hnil : (x.replacement shelf uri text).referencedBy = [] := by
      cases hd : (x.library shelf).find? uri with
      | none => rw [replacement_new hd, Document.build_referencedBy]
      | some d => rw [replacement_referencedBy hd, h.stubs shelf uri d hs hd]
    rw [Index.rebuild_stub hs hk]
    generalize x.replacement shelf uri text = d at hnil ⊢
    refine ⟨fun sh => ?_, fun sh u e hsh he => ?_, ?_, ?_⟩
    · rw [library_withLibrary]
      split
      · exact (h.ordered shelf).insert d
      · exact h.ordered sh
    · rw [library_withLibrary] at he
      split at he
      · rw [Library.find?_insert] at he
        split at he
        · cases he; exact hnil
        · exact h.stubs shelf u e hs he
      · exact h.stubs sh u e hsh he
    · intro u e he
      rw [document?_withLibrary x _ hs] at he
      exact h.nodup u e he
    · intro u e p he hp
      rw [document?_withLibrary x _ hs] at he
      obtain ⟨f, hf, ht⟩ := h.edges u e p he hp
      exact ⟨f, by rw [document?_withLibrary x _ hs]; exact hf, by rw [targets_withLibrary]; exact ht⟩

theorem Sound.buildText {x : Index} (h : Sound x) (disk : Disk) (shelf : Shelf) (uri : Uri) (text : String) :
    Sound (x.buildText disk shelf uri text).1 := by
  by_cases hs : shelf = .workspace
  · subst hs
    rw [buildText_workspace]
    obtain ⟨d, hd⟩ := rebuild_self (x.register uri) uri text
    exact ((h.register uri).rebuild uri text).link hd
  · rw [buildText_stub x disk hs]
    exact h.rebuild_stub hs uri text

theorem Sound.step {x : Index} (h : Sound x) (s : Step) : Sound (x.step s) := by
  cases s with
  | register uri => exact h.register uri
  | build disk shelf uri text? =>
    rcases step_build x disk shelf uri text? with ⟨text, -, hy⟩ | ⟨err, -, hy⟩
    · rw [hy]; exact h.buildText disk shelf uri text
    · rw [hy]; exact h
  | reset => exact sound_empty x.config
  | init config => exact sound_empty config

/-- The reverse edges of every index that a run reaches are sound. -/
theorem sound_run (config : Config) (steps : List Step) : Sound ((empty config).run steps) :=
  run_induction steps (fun _ s _ h => h.step s) _ (sound_empty config)

/-! ## Completeness -/

/-- The document of `v`, if there is one, is listed by all its targets. -/
def Listed (x : Index) (v : Uri) : Prop :=
  ∀ d, x.document? v = some d → ∀ t ∈ x.targets d, ∃ e, x.document? t = some e ∧ v ∈ e.referencedBy

/-- A round lists the document it links, keeps listed what was, and leaves what it loads pending. -/
theorem Linked.listed {disk : Disk} {x y : Index} {u : Uri} {d : Document} {loaded : List Uri}
    (hd : x.document? u = some d) (hl : Linked disk u (x.targets d) x y loaded) {v : Uri}
    (h : v = u ∨ Listed x v) : v ∈ loaded ∨ Listed y v := by
  cases hx : x.document? v with
  | some e₀ =>
    refine .inr fun e he t ht => ?_
    obtain ⟨e', he', hb⟩ := hl.old_bare hx
    cases he.symm.trans he'
    rw [targets_congr hl.frame.modules hb] at ht
    rcases h with rfl | h
    · cases hd.symm.trans hx
      exact hl.target ht
    · obtain ⟨f, hf, hv⟩ := h e₀ hx t ht
      refine ⟨_, hl.old hf, ?_⟩
      split
      · exact Document.mem_addReference.2 (.inl hv)
      · exact hv
  | none =>
    cases hr : x.diskText? disk v with
    | some text =>
      by_cases hv : v ∈ x.targets d
      · exact .inl ((hl.loaded_iff v).2 ⟨hv, hx, by rw [hr]; rfl⟩)
      · exact .inr fun e he => absurd (hl.new hx he).1 hv
    | none =>
      -- a placeholder requires nothing
      refine .inr fun e he t ht => ?_
      obtain ⟨-, rfl⟩ := hl.new hx he
      rw [targets_congr hl.frame.modules (Document.addReference_bare ..), onDisk_unreadable hr] at ht
      cases ht

/-- Linking lists the document and all that it adds: `E` are documents whose edges are of no concern. -/
theorem link_listed {E : Uri → Prop} {disk : Disk} {x : Index} {uri : Uri} {d : Document}
    (hd : x.document? uri = some d) (h : ∀ v, E v ∨ v = uri ∨ Listed x v) (v : Uri) :
    E v ∨ Listed (link disk x uri) v := by
  suffices hi : ∀ v, E v ∨ v ∈ ([] : List Uri) ∨ Listed (link disk x uri) v by
    simpa using hi v
  refine link_induction (P := fun pending y => ∀ v, E v ∨ v ∈ pending ∨ Listed y v) hd ?_ ?_
  · intro pending u d x y loaded hp hu hl v
    rcases hp v with hv | hv | hv
    · exact .inl hv
    · rcases List.mem_append.1 hv with hv | hv
      · exact .inr (.inl (List.mem_append_left _ hv))
      · exact .inr ((hl.listed hu (.inl (List.mem_singleton.1 hv))).imp (List.mem_append_right _) id)
    · exact .inr ((hl.listed hu (.inr hv)).imp (List.mem_append_right _) id)
  · intro v
    exact (h v).imp id (Or.imp List.mem_singleton.2 id)

/-- After a build, the built document and every document that was not there before are listed by
their targets. -/
theorem buildText_listed (x : Index) (disk : Disk) (uri : Uri) (text : String) {v : Uri}
    (hv : v = uri ∨ x.document? v = none) : Listed (x.buildText disk .workspace uri text).1 v := by
  rw [buildText_workspace]
  obtain ⟨d, hd⟩ := rebuild_self (x.register uri) uri text
  refine (link_listed (E := fun v => v ≠ uri ∧ x.document? v ≠ none) hd (fun v => ?_) v).resolve_left ?_
  · by_cases hu : v = uri
    · exact .inr (.inl hu)
    · cases hx : x.document? v with
      | some e => exact .inl ⟨hu, Option.some_ne_none e⟩
      | none =>
        refine .inr (.inr fun e he => ?_)
        rw [rebuild_none hu (by rw [register_document?]; exact hx)] at he
        cases he
  · rintro ⟨h1, h2⟩
    exact hv.elim h1 h2

/-! ## Every run -/

theorem Sound.document? {x : Index} (h : Sound x) {d : Document} (hd : d ∈ x.workspace.documents) :
    x.document? d.uri = some d :=
  (h.ordered .workspace).find?_mem hd

/-- In every reachable index no document lists a referrer twice, stubs list none, and who is listed by
a workspace document is itself one and requires it. Right after a workspace build, the built document
and every document that was not there before are listed by all that they require. -/
theorem reverse_edges_exact (config : Config) (steps : List Step) :
    let x := (empty config).run steps
    (∀ shelf, ∀ d ∈ (x.library shelf).documents,
      d.referencedBy.Nodup ∧ (shelf ≠ .workspace → d.referencedBy = [])) ∧
    (∀ d ∈ x.workspace.documents, ∀ p ∈ d.referencedBy, ∃ e ∈ x.workspace.documents, e.uri = p ∧
      ∃ r ∈ e.requires, x.resolve? r.targetModule = some d.uri) ∧
    ∀ disk uri text? y state, x.build disk .workspace uri text? = (y, .ok state) →
      (∃ d ∈ y.workspace.documents, d.uri = uri) ∧
      ∀ d ∈ y.workspace.documents, (d.uri = uri ∨ ∀ e ∈ x.workspace.documents, e.uri ≠ d.uri) →
        ∀ r ∈ d.requires, ∀ t, y.resolve? r.targetModule = some t →
          ∃ e ∈ y.workspace.documents, e.uri = t ∧ d.uri ∈ e.referencedBy := by
  intro x
  have h : Sound x := sound_run config steps
  refine ⟨fun shelf d hd => ?_, fun d hd p hp => ?_, fun disk uri text? y state hb => ?_⟩
  · have hf := (h.ordered shelf).find?_mem hd
    by_cases hs : shelf = .workspace
    · subst hs
      exact ⟨h.nodup d.uri d hf, fun hn => absurd rfl hn⟩
    · have hnil := h.stubs shelf d.uri d hs hf
      exact ⟨by rw [hnil]; exact List.nodup_nil, fun _ => hnil⟩
  · obtain ⟨e, he, ht⟩ := h.edges d.uri d p (h.document? hd) hp
    obtain ⟨hmem, huri⟩ := document?_mem he
    exact ⟨e, hmem, huri, mem_targets.1 ht⟩
  · obtain ⟨text, -, ht⟩ := build_ok hb
    have hy : y = (x.buildText disk .workspace uri text).1 := by rw [ht]
    have hsound : Sound y := hy ▸ h.buildText disk .workspace uri text
    refine ⟨?_, fun d hd hnew r hr t hrt => ?_⟩
    · obtain ⟨d, hd⟩ := buildText_self x disk uri text
      rw [← hy] at hd
      obtain ⟨hmem, huri⟩ := document?_mem hd
      exact ⟨d, hmem, huri⟩
    · have hv : d.uri = uri ∨ x.document? d.uri = none := by
        refine hnew.imp id fun hn => ?_
        cases hx : x.document? d.uri with
        | none => rfl
        | some e =>
          obtain ⟨hmem, huri⟩ := document?_mem hx
          exact absurd huri (hn e hmem)
      have hl := buildText_listed x disk uri text hv
      rw [← hy] at hl
      obtain ⟨e, he, hde⟩ := hl d (hsound.document? hd) t (mem_targets.2 ⟨r, hr, hrt⟩)
      obtain ⟨hmem, huri⟩ := document?_mem he
      exact ⟨e, hmem, huri, hde⟩

end LuaAtlas.Index
