/-
Building the same again. In every index that a run reaches, a build that is repeated at once has the same
result and changes nothing any more.

After the first build everything is where the second would put it: the module is registered; the document
is the one of the text, or the complete one that a text with syntax errors did not replace; nothing is
required that was not required before; and all that it requires is there and lists it, so there is
nothing to load and no referrer to add.
-/
import LuaAtlas.Proofs.Index.Batch

namespace LuaAtlas.Index

open LuaAtlas.Syntax

/-! ## Putting the same document in -/

@[simp] theorem withLibrary_library (x : Index) (shelf : Shelf) : x.withLibrary (x.library shelf) shelf = x := by
  cases shelf <;> rfl

/-- A document says what a text says, or it is complete and the text has syntax errors. -/
def Settled (x : Index) (shelf : Shelf) (uri : Uri) (text : String) (d : Document) : Prop :=
  (x.library shelf).find? uri = some d ∧
    (d.bare = .build shelf uri (parse text) ∨ (parse text).isDegraded = true ∧ d.state = .complete)

/-- A text that a document agrees with replaces nothing. -/
theorem Settled.rebuild_eq {x : Index} {shelf : Shelf} {uri : Uri} {text : String} {d : Document}
    (h : x.Settled shelf uri text d) (hordered : (x.library shelf).Ordered) :
    x.rebuild shelf uri text = (x, d.state) := by
  obtain ⟨hd, hsays⟩ := h
  cases hk : x.isKept shelf uri text with
  | true =>
    obtain ⟨-, e, he, hcomplete⟩ := isKept_iff.1 hk
    cases hd.symm.trans he
    rw [rebuild_kept hk, hcomplete]
  | false =>
    have hbare : d.bare = .build shelf uri (parse text) := by
      refine hsays.resolve_right fun ⟨hdegraded, hcomplete⟩ => ?_
      rw [isKept_iff.2 ⟨hdegraded, d, hd, hcomplete⟩] at hk
      cases hk
    have hsame : x.replacement shelf uri text = d := by
      unfold replacement
      rw [hd, ← hbare]
      rfl
    have huri : d.uri = uri := Library.find?_uri hd
    have hinsert : (x.library shelf).insert d = x.library shelf := hordered.insert_of_find? (huri ▸ hd)
    by_cases hs : shelf = .workspace
    · subst hs
      have hstale : x.stale uri d = [] := by
        refine List.eq_nil_iff_forall_not_mem.2 fun t ht => ?_
        obtain ⟨⟨e, he, hte⟩, hn⟩ := mem_stale.1 ht
        cases he.symm.trans hd
        exact hn hte
      have hworkspace : x.workspace.insert d = x.workspace := hinsert
      rw [rebuild_workspace hk, hsame, hstale, hworkspace]
      rfl
    · rw [rebuild_stub hs hk, hsame, hinsert, withLibrary_library]

/-! ## Linking what is linked -/

theorem Frame.eq_of_document? {x y : Index} (h : Frame x y) (hordered : x.workspace.Ordered)
    (hdocument : ∀ v, y.document? v = x.document? v) : y = x := by
  have hworkspace : y.workspace = x.workspace := (h.ordered hordered).ext hordered hdocument
  obtain ⟨config, workspace, stdlib, user, modules⟩ := y
  obtain ⟨hconfig, hmodules, hstdlib, huser, -⟩ := h
  dsimp only at hconfig hmodules hstdlib huser hworkspace
  subst hconfig hmodules hstdlib huser hworkspace
  rfl

/-- Linking a document that its targets list has no effect, and nothing is loaded. -/
theorem linkRequires_eq {x : Index} {uri : Uri} {d : Document} (disk : Disk) (hordered : x.workspace.Ordered)
    (hd : x.document? uri = some d) (hlisted : Listed x uri) : linkRequires disk x uri = (x, []) := by
  have hl := linkRequires_linked disk hd
  have htarget : ∀ t ∈ x.targets d, ∃ e, x.document? t = some e ∧ uri ∈ e.referencedBy := hlisted d hd
  have hindex : (linkRequires disk x uri).1 = x := by
    refine hl.frame.eq_of_document? hordered fun v => ?_
    rw [hl.document]
    by_cases hv : v ∈ x.targets d
    · obtain ⟨e, he, hmem⟩ := htarget v hv
      rw [if_pos hv, he, Option.getD_some, Document.addReference_of_mem hmem]
    · rw [if_neg hv]
  have hloaded : (linkRequires disk x uri).2 = [] := by
    refine List.eq_nil_iff_forall_not_mem.2 fun v hv => ?_
    obtain ⟨ht, hnone, -⟩ := (hl.loaded_iff v).1 hv
    obtain ⟨e, he, -⟩ := htarget v ht
    rw [hnone] at he
    cases he
  exact Prod.ext hindex hloaded

theorem linkPending_nil (disk : Disk) (n : Nat) (x : Index) : linkPending disk n [] x = x := by
  cases n <;> rfl

theorem link_eq {x : Index} {uri : Uri} {d : Document} (disk : Disk) (hordered : x.workspace.Ordered)
    (hd : x.document? uri = some d) (hlisted : Listed x uri) : link disk x uri = x := by
  have hpending : linkPending disk (x.modules.length + 1) [uri] x =
      linkPending disk x.modules.length ([] ++ (linkRequires disk x uri).2) (linkRequires disk x uri).1 := rfl
  unfold link
  rw [hpending, linkRequires_eq disk hordered hd hlisted]
  exact linkPending_nil disk _ x

/-! ## Building the same again -/

/-- What a build has built agrees with the text, and is in the state that the build tells. -/
theorem buildText_settled (x : Index) (disk : Disk) (shelf : Shelf) (uri : Uri) (text : String) :
    ∃ d, (x.buildText disk shelf uri text).1.Settled shelf uri text d ∧
      (x.buildText disk shelf uri text).2 = d.state := by
  cases hk : x.isKept shelf uri text with
  | true =>
    obtain ⟨hdegraded, d, hd, hcomplete⟩ := isKept_iff.1 hk
    obtain ⟨hstate, e, he, hbare⟩ := buildText_kept disk hk hd
    have hcomplete' : e.state = .complete := (Document.state_of_bare hbare).trans hcomplete
    exact ⟨e, ⟨he, .inr ⟨hdegraded, hcomplete'⟩⟩, hstate.trans hcomplete'.symm⟩
  | false =>
    obtain ⟨hstate, e, he, hbare⟩ := buildText_replaced disk hk
    exact ⟨e, ⟨he, .inl hbare⟩,
      hstate.trans (Document.state_of_bare (hbare.trans (Document.build_bare ..).symm)).symm⟩

theorem buildText_config (x : Index) (disk : Disk) (shelf : Shelf) (uri : Uri) (text : String) :
    (x.buildText disk shelf uri text).1.config = x.config := by
  by_cases hs : shelf = .workspace
  · subst hs
    rw [(buildText_frame x disk uri text).config, register_config]
  · rw [buildText_stub x disk hs]
    exact (rebuild_stub_frame hs uri text).1

/-- After a workspace build its module is registered. -/
theorem buildText_registered (x : Index) (disk : Disk) (uri : Uri) (text : String) :
    (x.buildText disk .workspace uri text).1.register uri = (x.buildText disk .workspace uri text).1 := by
  refine register_of_isRegistered ?_
  unfold isRegistered
  rw [(buildText_frame x disk uri text).modules]
  exact register_isRegistered x uri

/-- Building the same text again changes nothing, whatever has become of the disk. -/
theorem Sound.buildText_again {x : Index} (h : Sound x) (disk disk' : Disk) (shelf : Shelf) (uri : Uri)
    (text : String) :
    (x.buildText disk shelf uri text).1.buildText disk' shelf uri text = x.buildText disk shelf uri text := by
  obtain ⟨d, hsettled, hstate⟩ := buildText_settled x disk shelf uri text
  have hsound := h.buildText disk shelf uri text
  have hrebuild := hsettled.rebuild_eq (hsound.ordered shelf)
  by_cases hs : shelf = .workspace
  · subst hs
    have hlink := link_eq disk' (hsound.ordered .workspace) hsettled.1
      (buildText_listed x disk uri text (.inl rfl))
    refine Prod.ext ?_ ?_
    · rw [buildText_workspace _ disk', buildText_registered, hrebuild, hlink]
    · rw [buildText_state, buildText_registered, hrebuild, hstate]
  · rw [buildText_stub _ disk' hs, hrebuild, ← hstate]

theorem sourceText_congr {x y : Index} (h : y.config = x.config) (disk : Disk) (uri : Uri) (text? : Option String) :
    y.sourceText disk uri text? = x.sourceText disk uri text? := by
  unfold sourceText
  rw [h]

/-- In every reachable index, whatever document is built of whatever text: the same build made again, from the
given text or from a disk that is as before, has the same result, be it the state of the document or an error, and
leaves the index as the first one left it. The disk may even have changed in between if only the text is the same, as
a given one is. -/
theorem build_again (config : Config) (steps : List Step) (disk : Disk) (shelf : Shelf) (uri : Uri)
    (text? : Option String) :
    let x := (empty config).run steps
    let s := Step.build disk shelf uri text?
    (x.step s).build disk shelf uri text? = x.build disk shelf uri text? ∧
    (x.step s).step s = x.step s ∧
    ∀ disk', x.sourceText disk' uri text? = x.sourceText disk uri text? →
      (x.step s).build disk' shelf uri text? = x.build disk shelf uri text? := by
  intro x s
  have hsound : Sound x := sound_run config steps
  have hagain : ∀ disk', x.sourceText disk' uri text? = x.sourceText disk uri text? →
      (x.step s).build disk' shelf uri text? = x.build disk shelf uri text? := by
    intro disk' hsource
    rcases step_build x disk shelf uri text? with ⟨text, htext, hstep⟩ | ⟨err, herr, hstep⟩
    · have hsource' : (x.buildText disk shelf uri text).1.sourceText disk' uri text? = .ok text := by
        rw [sourceText_congr (buildText_config x disk shelf uri text), hsource, htext]
      rw [hstep, build_of_ok hsource', build_of_ok htext, hsound.buildText_again disk disk' shelf uri text]
    · rw [hstep, build_of_error (hsource.trans herr), build_of_error herr]
  exact ⟨hagain disk rfl, congrArg Prod.fst (hagain disk rfl), hagain⟩

end LuaAtlas.Index
