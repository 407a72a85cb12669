/-
Building files in a batch. When all modules are registered first and no file on disk says otherwise
than the text it is built from, the batch is exact: its documents are those of the given files and of
all that these require, directly or not; each is what its text says, or a placeholder; and the reverse
edges are the edges turned round. So the order of the builds shows nowhere but in the order of referrers.

A document may be met before its own turn, as a placeholder or read from disk, and is rebuilt then. The
invariant after each build is that every document is what the texts given so far say of it, that all
documents are listed by their targets, and that none is there without being required.
-/
import LuaAtlas.Proofs.Index.ReverseEdges
import LuaAtlas.Proofs.Index.Untouched
import Mathlib.Logic.Relation

namespace LuaAtlas.Index

open LuaAtlas.Syntax

/-! ## What the texts say -/

/-- The text given for a URI. -/
def given? (bs : List (Uri × String)) (u : Uri) : Option String := (bs.find? (·.1 = u)).map (·.2)

theorem given?_some {bs : List (Uri × String)} {u : Uri} {text : String} (h : given? bs u = some text) :
    (u, text) ∈ bs := by
  obtain ⟨b, hb, rfl⟩ := Option.map_eq_some_iff.1 h
  have hu : b.1 = u := by simpa using List.find?_some hb
  exact hu ▸ List.mem_of_find?_eq_some hb

theorem given?_none {bs : List (Uri × String)} {u : Uri} (h : given? bs u = none) : ∀ b ∈ bs, b.1 ≠ u := by
  intro b hb
  have := List.find?_eq_none.1 (Option.map_eq_none_iff.1 h) b hb
  simpa using this

theorem given?_mem {bs : List (Uri × String)} (hn : (bs.map (·.1)).Nodup) {b : Uri × String} (hb : b ∈ bs) :
    given? bs b.1 = some b.2 := by
  cases h : given? bs b.1 with
  | none => exact absurd rfl (given?_none h b hb)
  | some text => rw [List.inj_on_of_nodup_map hn hb (given?_some h) rfl]

theorem given?_append {bs : List (Uri × String)} {b : Uri × String} {u : Uri} (hu : u ≠ b.1) :
    given? (bs ++ [b]) u = given? bs u := by
  unfold given?
  rw [List.find?_append, List.find?_cons_of_neg (by simpa using hu.symm), List.find?_nil, Option.or_none]

theorem given?_append_self {bs : List (Uri × String)} {b : Uri × String} (h : given? bs b.1 = none) :
    given? (bs ++ [b]) b.1 = some b.2 := by
  unfold given? at h ⊢
  rw [List.find?_append, Option.map_eq_none_iff.1 h, Option.none_or, List.find?_cons_of_pos (by simp)]
  rfl

/-- Distinct keys in another order give the same texts. -/
theorem given?_perm {bs bs' : List (Uri × String)} (hn : (bs.map (·.1)).Nodup) (h : bs.Perm bs') (u : Uri) :
    given? bs' u = given? bs u := by
  have hn' : (bs'.map (·.1)).Nodup := (h.map _).nodup_iff.1 hn
  cases hu : given? bs u with
  | some text => exact given?_mem hn' (h.mem_iff.1 (given?_some hu))
  | none =>
    cases hu' : given? bs' u with
    | none => rfl
    | some text => exact absurd rfl (given?_none hu _ (h.mem_iff.2 (given?_some hu')))

/-- The document of a URI as the given texts, or else the disk, have it: a placeholder if there is no
text. -/
def expected (x : Index) (disk : Disk) (bs : List (Uri × String)) (u : Uri) : Document :=
  match (given? bs u).or (x.diskText? disk u) with
  | some text => .build .workspace u (parse text)
  | none => .placeholder u

theorem expected_given {x : Index} {disk : Disk} {bs : List (Uri × String)} {u : Uri} {text : String}
    (h : given? bs u = some text) : x.expected disk bs u = .build .workspace u (parse text) := by
  unfold expected; rw [h]; rfl

theorem expected_onDisk {x : Index} {disk : Disk} {bs : List (Uri × String)} {u : Uri} (h : given? bs u = none) :
    x.expected disk bs u = x.onDisk disk u := by
  unfold expected onDisk
  rw [h]
  cases x.diskText? disk u <;> rfl

/-- `u` requires `v`, as far as the texts go. -/
def Requires (x : Index) (disk : Disk) (bs : List (Uri × String)) (u v : Uri) : Prop :=
  v ∈ x.targets (x.expected disk bs u)

/-! ## The batch -/

/-- The index in which the modules of `us` are known and nothing is built. -/
def registered (config : Config) (us : List Uri) : Index := (empty config).run (us.map .register)

/-- The builds of the given texts into the workspace, in order. -/
def builds (disk : Disk) (bs : List (Uri × String)) : List Step :=
  bs.map fun b => .build disk .workspace b.1 (some b.2)

theorem builds_cons (disk : Disk) (b : Uri × String) (bs : List (Uri × String)) :
    builds disk (b :: bs) = .build disk .workspace b.1 (some b.2) :: builds disk bs := rfl

/-- Whether a module name is taken. -/
def isRegistered (x : Index) (uri : Uri) : Bool := x.modules.any (·.1 = uri.moduleName)

theorem register_isRegistered (x : Index) (uri : Uri) : (x.register uri).isRegistered uri = true := by
  unfold register
  split
  · assumption
  · simp [isRegistered]

theorem isRegistered_register {x : Index} {u : Uri} (h : x.isRegistered u = true) (uri : Uri) :
    (x.register uri).isRegistered u = true := by
  obtain ⟨more, hr⟩ := register_eq x uri
  unfold isRegistered at h ⊢
  rw [hr, List.any_append, h]
  rfl

/-- A module whose name is taken is registered in vain. -/
theorem register_of_isRegistered {x : Index} {uri : Uri} (h : x.isRegistered uri = true) : x.register uri = x := by
  unfold isRegistered at h
  unfold register; rw [if_pos h]

theorem run_register_isRegistered : ∀ (us : List Uri) (x : Index) (u : Uri), u ∈ us ∨ x.isRegistered u = true →
    (x.run (us.map .register)).isRegistered u = true
  | [], x, u, h => h.resolve_left List.not_mem_nil
  | v :: us, x, u, h => by
    refine run_register_isRegistered us (x.register v) u ?_
    rcases h with h | h
    · rcases List.mem_cons.1 h with rfl | h
      · exact .inr (register_isRegistered x u)
      · exact .inl h
    · exact .inr (isRegistered_register h v)

theorem run_register_library : ∀ (us : List Uri) (x : Index) (shelf : Shelf),
    (x.run (us.map .register)).library shelf = x.library shelf
  | [], _, _ => rfl
  | u :: us, x, shelf => (run_register_library us (x.register u) shelf).trans (register_library x u shelf)

theorem run_register_config : ∀ (us : List Uri) (x : Index), (x.run (us.map .register)).config = x.config
  | [], _ => rfl
  | u :: us, x => (run_register_config us (x.register u)).trans (register_config x u)

theorem registered_config (config : Config) (us : List Uri) : (registered config us).config = config :=
  run_register_config us (empty config)

theorem registered_library (config : Config) (us : List Uri) (shelf : Shelf) :
    (registered config us).library shelf = .empty := by
  refine (run_register_library us (empty config) shelf).trans ?_
  cases shelf <;> rfl

theorem run_register_modules : ∀ (us : List Uri) (x : Index) (m : String × Uri),
    m ∈ (x.run (us.map .register)).modules → m ∈ x.modules ∨ m.2 ∈ us
  | [], _, _, h => .inl h
  | u :: us, x, m, h => by
    rcases run_register_modules us (x.register u) m h with h | h
    · rcases mem_register h with h | rfl
      · exact .inl h
      · exact .inr (List.mem_cons_self ..)
    · exact .inr (List.mem_cons_of_mem _ h)

/-- Only what has been registered is required. -/
theorem registered_targets {config : Config} {us : List Uri} {d : Document} {t : Uri}
    (h : t ∈ (registered config us).targets d) : t ∈ us := by
  obtain ⟨m, hm, rfl⟩ := List.mem_map.1 (targets_subset _ d h)
  exact (run_register_modules us (empty config) m hm).resolve_left List.not_mem_nil

/-! ## Linking along the texts -/

/-- What is known of every document, and of every URI that a document leads to, is known of the
documents that linking adds. -/
theorem link_contents {C : Uri → Document} {Q : Uri → Prop} {disk : Disk} {x : Index} {uri : Uri} {d : Document}
    (hd : x.document? uri = some d) (hnew : ∀ v, x.document? v = none → x.onDisk disk v = C v)
    (hclosed : ∀ p t, Q p → t ∈ x.targets (C p) → Q t)
    (h : ∀ v e, x.document? v = some e → e.bare = C v ∧ Q v) :
    ∀ v e, (link disk x uri).document? v = some e → e.bare = C v ∧ Q v := by
  have hi : Frame x (link disk x uri) ∧ (∀ v, (link disk x uri).document? v = none → x.document? v = none) ∧
      ∀ v e, (link disk x uri).document? v = some e → e.bare = C v ∧ Q v := by
    refine link_induction (P := fun _ y => Frame x y ∧ (∀ v, y.document? v = none → x.document? v = none) ∧
      ∀ v e, y.document? v = some e → e.bare = C v ∧ Q v) hd ?_ ⟨Frame.refl x, fun _ h => h, h⟩
    rintro pending u d y z loaded ⟨hf, hnone, hy⟩ hu hl
    refine ⟨hf.trans hl.frame, fun v hv => hnone v (hl.none_iff.1 hv).2, fun v e he => ?_⟩
    cases hyv : y.document? v with
    | some e₀ =>
      obtain ⟨e', he', hb⟩ := hl.old_bare hyv
      cases he.symm.trans he'
      rw [hb]
      exact hy v e₀ hyv
    | none =>
      obtain ⟨ht, rfl⟩ := hl.new hyv he
      obtain ⟨hb, hq⟩ := hy u d hu
      have hC : d.bare = (C u).bare := by rw [← hb]; rfl
      rw [targets_congr hf.modules hC] at ht
      refine ⟨?_, hclosed u v hq ht⟩
      rw [Document.addReference_bare, onDisk_bare, onDisk_congr hf.config, hnew v (hnone v hyv)]
  exact hi.2.2

/-! ## The invariant -/

/-- The files of a batch: distinct, all registered, and on disk as given or not at all. -/
structure Consistent (r : Index) (disk : Disk) (bs : List (Uri × String)) : Prop where
  nodup : (bs.map (·.1)).Nodup
  registered : ∀ b ∈ bs, r.isRegistered b.1 = true
  disk : ∀ b ∈ bs, r.diskText? disk b.1 = none ∨ r.diskText? disk b.1 = some b.2

/-- The texts given so far say of a URI what all texts say, or that it is a placeholder. -/
theorem Consistent.expected_cases {r : Index} {disk : Disk} {bs done : List (Uri × String)} (hc : Consistent r disk bs)
    (hsub : done ⊆ bs) (u : Uri) :
    r.expected disk done u = r.expected disk bs u ∨ r.expected disk done u = .placeholder u := by
  cases hd : given? done u with
  | some text =>
    have hb : given? bs u = some text := given?_mem hc.nodup (hsub (given?_some hd))
    exact .inl (by rw [expected_given hd, expected_given hb])
  | none =>
    rw [expected_onDisk hd]
    cases hb : given? bs u with
    | none => exact .inl (by rw [expected_onDisk hb])
    | some text =>
      rcases hc.disk _ (given?_some hb) with hr | hr
      · exact .inr (onDisk_unreadable hr)
      · exact .inl (by rw [expected_given hb, onDisk_readable hr])

/-- The next text of a batch has not been given before. -/
theorem Consistent.not_given {r : Index} {disk : Disk} {bs done rest : List (Uri × String)} {b : Uri × String}
    (hc : Consistent r disk bs) (hsplit : done ++ b :: rest = bs) : given? done b.1 = none := by
  cases hg : given? done b.1 with
  | none => rfl
  | some text =>
    have hn := hc.nodup
    rw [← hsplit, List.map_append, List.map_cons] at hn
    have hd : b.1 ∈ done.map (·.1) := List.mem_map_of_mem (f := (·.1)) (given?_some hg)
    exact absurd rfl ((List.nodup_append.1 hn).2.2 b.1 hd b.1 (List.mem_cons_self ..))

/-- The index after the builds `done` of a batch `bs` on the registered index `r`. -/
structure Built (r : Index) (disk : Disk) (bs done : List (Uri × String)) (x : Index) : Prop where
  sound : Sound x
  frame : Frame r x
  listed : ∀ v, Listed x v
  present : ∀ b ∈ done, ∃ d, x.document? b.1 = some d
  content : ∀ v d, x.document? v = some d → d.bare = r.expected disk done v ∧
    ∃ b ∈ done, Relation.ReflTransGen (r.Requires disk bs) b.1 v

/-- Replacing a document by one with the same referrers keeps all others listed. -/
theorem Replaced.listed {x y : Index} {d : Document} (hr : Replaced x d y)
    (hd : ∀ e, x.document? d.uri = some e → d.referencedBy = e.referencedBy) {v : Uri} (hv : v ≠ d.uri)
    (h : Listed x v) : Listed y v := by
  intro e he t ht
  obtain ⟨e₀, he₀, hb⟩ : ∃ e₀, x.document? v = some e₀ ∧ e.bare = e₀.bare := by
    cases hx : x.document? v with
    | none => rw [hr.other hv, hx] at he; cases he
    | some e₀ =>
      obtain ⟨e', he', hb⟩ := hr.old hv hx
      cases he.symm.trans he'
      exact ⟨e₀, rfl, hb⟩
  rw [targets_congr hr.frame.modules hb] at ht
  obtain ⟨f, hf, hvf⟩ := h e₀ he₀ t ht
  have hsrc : ∃ g, (if t = d.uri then some d else x.document? t) = some g ∧ v ∈ g.referencedBy := by
    by_cases htd : t = d.uri
    · subst htd
      exact ⟨d, if_pos rfl, by rw [hd f hf]; exact hvf⟩
    · exact ⟨f, by rw [if_neg htd]; exact hf, hvf⟩
  obtain ⟨g, hg, hvg⟩ := hsrc
  rw [hr.document, hg]
  refine ⟨_, rfl, ?_⟩
  split
  · exact Document.mem_dropReference.2 ⟨hvg, hv⟩
  · exact hvg

/-- Rebuilding one document keeps all others listed. -/
theorem rebuild_listed {x : Index} {uri : Uri} {text : String} (h : ∀ v, Listed x v) (v : Uri) :
    v = uri ∨ Listed (x.rebuild .workspace uri text).1 v := by
  cases hk : x.isKept .workspace uri text with
  | true => rw [rebuild_kept hk]; exact .inr (h v)
  | false =>
    by_cases hv : v = uri
    · exact .inl hv
    · refine .inr ((rebuild_replaced hk).listed (fun e he => ?_) (by rw [replacement_uri]; exact hv) (h v))
      rw [replacement_uri] at he
      exact replacement_referencedBy (show (x.library .workspace).find? uri = some e from he) text

/-- If all documents are listed by their targets, they still are after the build of a known module. -/
theorem buildText_all_listed {x : Index} {uri : Uri} (h : ∀ v, Listed x v) (hreg : x.register uri = x) (disk : Disk)
    (text : String) (v : Uri) : Listed (x.buildText disk .workspace uri text).1 v := by
  obtain ⟨d, hd⟩ := rebuild_self x uri text
  rw [buildText_workspace, hreg]
  exact (link_listed (E := fun _ => False) hd (fun v => .inr (rebuild_listed h v)) v).resolve_left id

/-- In a batch no build is held back: a document that is there before its turn is complete only if its
text has no syntax errors. -/
theorem Built.not_kept {r x : Index} {disk : Disk} {bs done : List (Uri × String)} {b : Uri × String}
    (hc : Consistent r disk bs) (h : Built r disk bs done x) (hb : b ∈ bs) (hnew : given? done b.1 = none) :
    x.isKept .workspace b.1 b.2 = false := by
  rw [Bool.eq_false_iff]
  intro hk
  obtain ⟨hp, d, hd, hcomplete⟩ := isKept_iff.1 hk
  have hbare := (h.content b.1 d hd).1
  rw [expected_onDisk hnew, ← onDisk_bare] at hbare
  rw [Document.state_of_bare hbare] at hcomplete
  rcases hc.disk b hb with hr | hr
  · rw [onDisk_unreadable hr] at hcomplete
    cases hcomplete
  · rw [onDisk_readable hr, Document.build_state, hp] at hcomplete
    cases hcomplete

/-! A build puts the text in and links. In between the documents are those of the texts up to this one. -/

theorem Built.rebuild_present {r x : Index} {disk : Disk} {bs done : List (Uri × String)} (h : Built r disk bs done x)
    (b : Uri × String) : ∀ c ∈ done ++ [b], ∃ e, (x.rebuild .workspace b.1 b.2).1.document? c.1 = some e := by
  intro c hcd
  by_cases hcb : c.1 = b.1
  · rw [hcb]
    exact rebuild_self x b.1 b.2
  · have hdone : c ∈ done := (List.mem_append.1 hcd).resolve_right fun hc => hcb (by rw [List.mem_singleton.1 hc])
    obtain ⟨e, he⟩ := h.present c hdone
    obtain ⟨_, -, he'⟩ := rebuild_other hcb he b.2
    exact ⟨_, he'⟩

theorem Built.rebuild_content {r x : Index} {disk : Disk} {bs done : List (Uri × String)} {b : Uri × String}
    (h : Built r disk bs done x) (hk : x.isKept .workspace b.1 b.2 = false) (hnew : given? done b.1 = none) :
    ∀ v e, (x.rebuild .workspace b.1 b.2).1.document? v = some e → e.bare = r.expected disk (done ++ [b]) v ∧
      ∃ c ∈ done ++ [b], Relation.ReflTransGen (r.Requires disk bs) c.1 v := by
  intro v e he
  by_cases hv : v = b.1
  · subst hv
    obtain ⟨e', he', hbare⟩ := (rebuild_replaced hk).self
    rw [replacement_uri] at he'
    cases he.symm.trans he'
    rw [hbare, replacement_bare, expected_given (given?_append_self hnew)]
    exact ⟨rfl, b, by simp, .refl⟩
  · cases hx : x.document? v with
    | none => rw [rebuild_none hv hx] at he; cases he
    | some e₀ =>
      obtain ⟨kept, -, he'⟩ := rebuild_other hv hx b.2
      cases he.symm.trans he'
      obtain ⟨hbare, c, hcd, hreach⟩ := h.content v e₀ hx
      refine ⟨?_, c, List.mem_append_left _ hcd, hreach⟩
      rw [Document.withReferrers_bare, hbare]
      unfold expected
      rw [given?_append hv]

/-- What the texts so far require is required by all texts. -/
theorem Consistent.requires {r : Index} {disk : Disk} {bs done : List (Uri × String)} (hc : Consistent r disk bs)
    (hsub : done ⊆ bs) {p t : Uri} (ht : t ∈ r.targets (r.expected disk done p)) : r.Requires disk bs p t := by
  rcases hc.expected_cases hsub p with heq | heq
  · rw [heq] at ht
    exact ht
  · rw [heq] at ht
    cases ht

/-- The next build of a batch keeps the invariant. -/
theorem Built.next {r x : Index} {disk : Disk} {bs done : List (Uri × String)} {b : Uri × String}
    (hc : Consistent r disk bs) (h : Built r disk bs done x) (hsub : done ++ [b] ⊆ bs) (hnew : given? done b.1 = none) :
    Built r disk bs (done ++ [b]) (x.buildText disk .workspace b.1 b.2).1 := by
  have hb : b ∈ bs := hsub (by simp)
  have hreg : x.register b.1 = x := register_of_isRegistered (by
    have := hc.registered b hb
    unfold isRegistered at this ⊢
    rw [h.frame.modules]; exact this)
  have hk := h.not_kept hc hb hnew
  have hframe := buildText_frame x disk b.1 b.2
  have hsound := h.sound.buildText disk .workspace b.1 b.2
  have hlisted := buildText_all_listed h.listed hreg disk b.2
  obtain ⟨d, hd⟩ := rebuild_self x b.1 b.2
  rw [hreg] at hframe
  rw [buildText_workspace, hreg] at hframe hsound hlisted ⊢
  have hrebuild : Frame r (x.rebuild .workspace b.1 b.2).1 := h.frame.trans (rebuild_replaced hk).frame
  refine ⟨hsound, h.frame.trans hframe, hlisted, fun c hcd => ?_, ?_⟩
  · obtain ⟨e, he⟩ := h.rebuild_present b c hcd
    obtain ⟨e', he', -⟩ := link_old hd he
    exact ⟨e', he'⟩
  · refine link_contents hd (fun v hv => ?_) (fun p t hp ht => ?_) (h.rebuild_content hk hnew)
    · -- a URI without a document has no given text so far
      have hg : given? (done ++ [b]) v = none := by
        cases hg : given? (done ++ [b]) v with
        | none => rfl
        | some text =>
          obtain ⟨e, he⟩ := h.rebuild_present b _ (given?_some hg)
          rw [hv] at he; cases he
      rw [expected_onDisk hg, onDisk_congr hrebuild.config]
    · obtain ⟨c, hcd, hreach⟩ := hp
      rw [targets_congr hrebuild.modules rfl] at ht
      exact ⟨c, hcd, hreach.tail (hc.requires hsub ht)⟩

theorem Built.run {r : Index} {disk : Disk} {bs : List (Uri × String)} (hc : Consistent r disk bs) :
    ∀ (rest done : List (Uri × String)) (x : Index), done ++ rest = bs → Built r disk bs done x →
      Built r disk bs bs (x.run (builds disk rest))
  | [], done, x, hsplit, h => by
    rw [List.append_nil] at hsplit
    subst hsplit
    exact h
  | b :: rest, done, x, hsplit, h => by
    have hnew := hc.not_given hsplit
    have hsplit' : (done ++ [b]) ++ rest = bs := by rw [List.append_assoc]; exact hsplit
    have hsub : done ++ [b] ⊆ bs := hsplit' ▸ List.subset_append_left _ _
    have hstep : x.step (.build disk .workspace b.1 (some b.2)) = (x.buildText disk .workspace b.1 b.2).1 := by
      rcases step_build x disk .workspace b.1 (some b.2) with ⟨text, ht, hy⟩ | ⟨err, ht, -⟩
      · cases ht; exact hy
      · cases ht
    rw [builds_cons, run_cons, hstep]
    exact Built.run hc rest (done ++ [b]) _ hsplit' (h.next hc hsub hnew)

/-- Nothing is built yet. -/
theorem built_registered {config : Config} {us : List Uri} {disk : Disk} {bs : List (Uri × String)} :
    Built (registered config us) disk bs [] (registered config us) := by
  have hnone : ∀ v, (registered config us).document? v = none := fun v =>
    congrArg (·.find? v) (registered_library config us .workspace)
  refine ⟨sound_run config _, Frame.refl _, fun v d hd => ?_, fun b hb => absurd hb List.not_mem_nil, fun v d hd => ?_⟩
  · rw [hnone] at hd; cases hd
  · rw [hnone] at hd; cases hd

/-! ## Exactness -/

/-- The same index up to the order of referrers. -/
structure Agrees (x y : Index) : Prop where
  config : y.config = x.config
  modules : y.modules = x.modules
  stdlib : y.stdlib = x.stdlib
  user : y.user = x.user
  workspace : List.Forall₂ (fun d e : Document => e.bare = d.bare ∧ e.referencedBy.Perm d.referencedBy)
    x.workspace.documents y.workspace.documents

theorem Built.targets_eq {r x : Index} {disk : Disk} {bs done : List (Uri × String)} (h : Built r disk bs done x)
    {u : Uri} {d : Document} (hd : x.document? u = some d) : x.targets d = r.targets (r.expected disk done u) := by
  have hbare : d.bare = (r.expected disk done u).bare := by rw [← (h.content u d hd).1]; rfl
  exact targets_congr h.frame.modules hbare

/-- After a batch a URI has a document exactly if a given file leads to it. -/
theorem Built.document_iff {r x : Index} {disk : Disk} {bs : List (Uri × String)} (h : Built r disk bs bs x) (u : Uri) :
    (∃ d, x.document? u = some d) ↔ ∃ b ∈ bs, Relation.ReflTransGen (r.Requires disk bs) b.1 u := by
  constructor
  · rintro ⟨d, hd⟩
    exact (h.content u d hd).2
  · rintro ⟨b, hb, hreach⟩
    induction hreach with
    | refl => exact h.present b hb
    | @tail p t _ hpt ih =>
      obtain ⟨d, hd⟩ := ih
      obtain ⟨e, he, -⟩ := h.listed p d hd t (h.targets_eq hd ▸ hpt)
      exact ⟨e, he⟩

/-- After a batch the referrers of a document are those who require it. -/
theorem Built.referencedBy_iff {r x : Index} {disk : Disk} {bs done : List (Uri × String)} (h : Built r disk bs done x)
    {u p : Uri} {d : Document} (hd : x.document? u = some d) :
    p ∈ d.referencedBy ↔ ∃ e, x.document? p = some e ∧ u ∈ x.targets e := by
  constructor
  · exact fun hp => h.sound.edges u d p hd hp
  · rintro ⟨e, he, ht⟩
    obtain ⟨d', hd', hp⟩ := h.listed p e he u ht
    cases hd.symm.trans hd'
    exact hp

/-- Two batches of the same files on the same registered index agree. -/
theorem Built.agrees {r x y : Index} {disk : Disk} {bs bs' : List (Uri × String)} (hn : (bs.map (·.1)).Nodup)
    (hp : bs.Perm bs') (h : Built r disk bs bs x) (h' : Built r disk bs' bs' y) : Agrees x y := by
  have hexp : r.expected disk bs' = r.expected disk bs := by
    funext u; unfold expected; rw [given?_perm hn hp]
  have hreq : r.Requires disk bs' = r.Requires disk bs := by
    unfold Requires; rw [hexp]
  have hdom : ∀ u, (∃ d, x.document? u = some d) ↔ ∃ e, y.document? u = some e := by
    intro u
    rw [h.document_iff, h'.document_iff, hreq]
    simp only [hp.mem_iff]
  -- the same documents have the same edges, so they require the same
  have htargets : ∀ p d e, x.document? p = some d → y.document? p = some e → y.targets e = x.targets d := by
    intro p d e hd he
    refine targets_congr (h'.frame.modules.trans h.frame.modules.symm) ?_
    rw [(h'.content p e he).1, hexp, (h.content p d hd).1]
  have hmem : ∀ u d e, x.document? u = some d → y.document? u = some e →
      ∀ p, p ∈ e.referencedBy ↔ p ∈ d.referencedBy := by
    intro u d e hd he p
    rw [h.referencedBy_iff hd, h'.referencedBy_iff he]
    constructor
    · rintro ⟨f', hf', ht⟩
      obtain ⟨f, hf⟩ := (hdom p).2 ⟨f', hf'⟩
      exact ⟨f, hf, htargets p f f' hf hf' ▸ ht⟩
    · rintro ⟨f, hf, ht⟩
      obtain ⟨f', hf'⟩ := (hdom p).1 ⟨f, hf⟩
      exact ⟨f', hf', (htargets p f f' hf hf').symm ▸ ht⟩
  refine ⟨h'.frame.config.trans h.frame.config.symm, h'.frame.modules.trans h.frame.modules.symm,
    h'.frame.stdlib.trans h.frame.stdlib.symm, h'.frame.user.trans h.frame.user.symm, ?_⟩
  refine Library.forall₂_of_find? (h.sound.ordered .workspace) (h'.sound.ordered .workspace) fun u => ?_
  show Option.Rel _ (x.document? u) (y.document? u)
  cases hx : x.document? u with
  | none =>
    cases hy : y.document? u with
    | none => exact .none
    | some e =>
      obtain ⟨d, hd⟩ := (hdom u).2 ⟨e, hy⟩
      rw [hx] at hd; cases hd
  | some d =>
    obtain ⟨e, hy⟩ := (hdom u).1 ⟨d, hx⟩
    rw [hy]
    refine .some ⟨?_, ?_⟩
    · rw [(h'.content u e hy).1, hexp, (h.content u d hx).1]
    · exact (List.perm_ext_iff_of_nodup (h'.sound.nodup u e hy) (h.sound.nodup u d hx)).2 (hmem u d e hx hy)

/-- A batch is exact. Let the modules `us` be registered and the texts `bs` be built into the workspace, for
distinct URIs of `us` whose files cannot be read or hold the same text. Then the documents are those of `bs`
and all that these require, directly or not; each is the document of its given text, else of its file, else
a placeholder; its referrers are those who require it; and in whatever order the texts are built, the index
is the same up to the order of referrers. -/
theorem batch_exact (config : Config) (disk : Disk) (us : List Uri) (bs : List (Uri × String))
    (hnodup : (bs.map (·.1)).Nodup) (hus : ∀ b ∈ bs, b.1 ∈ us)
    (hdisk : ∀ b ∈ bs, (registered config us).diskText? disk b.1 = none ∨
      (registered config us).diskText? disk b.1 = some b.2) :
    let r := registered config us
    let x := r.run (builds disk bs)
    (∀ u, (∃ d, x.document? u = some d) ↔ ∃ b ∈ bs, Relation.ReflTransGen (r.Requires disk bs) b.1 u) ∧
    (∀ u d, x.document? u = some d → d.bare = r.expected disk bs u) ∧
    (∀ u d, x.document? u = some d → ∀ p, p ∈ d.referencedBy ↔ ∃ e, x.document? p = some e ∧ u ∈ x.targets e) ∧
    ∀ bs', bs.Perm bs' → Agrees x (r.run (builds disk bs')) := by
  intro r x
  have hc : Consistent r disk bs :=
    ⟨hnodup, fun b hb => run_register_isRegistered us (empty config) b.1 (.inl (hus b hb)), hdisk⟩
  have h : Built r disk bs bs x := Built.run hc bs [] r rfl built_registered
  refine ⟨h.document_iff, fun u d hd => (h.content u d hd).1, fun u d hd p => h.referencedBy_iff hd, fun bs' hp => ?_⟩
  have hc' : Consistent r disk bs' :=
    ⟨(hp.map _).nodup_iff.1 hnodup, fun b hb => hc.registered b (hp.mem_iff.2 hb),
      fun b hb => hc.disk b (hp.mem_iff.2 hb)⟩
  exact h.agrees hnodup hp (Built.run hc' bs' [] r rfl built_registered)

/-- An unsaved file that requires a module, and the module itself. -/
def draftAndModule : List (Uri × String) := [(⟨"untitled:a"⟩, "local b = require('b')"), (⟨"file:///b"⟩, "x")]

/-- The disk that holds the module alone. -/
def moduleDisk : Disk := { files := [(["b"], [120])], directories := [], current := [] }

def plainConfig : Config := {}

theorem moduleDisk_module (us : List Uri) :
    (registered plainConfig us).diskText? moduleDisk ⟨"file:///b"⟩ = some "x" := by
  have hpath : Uri.path? ⟨"file:///b"⟩ = some "/b" := by decide +kernel
  have hread : moduleDisk.readSource "/b" plainConfig.maxFileSize = .ok "x" := by decide +kernel
  unfold diskText?
  rw [registered_config, hpath, Option.bind_some, hread]
  rfl

theorem moduleDisk_draft (us : List Uri) : (registered plainConfig us).diskText? moduleDisk ⟨"untitled:a"⟩ = none := by
  have hpath : Uri.path? ⟨"untitled:a"⟩ = none := by decide +kernel
  unfold diskText?
  rw [hpath]
  rfl

/-- The unsaved file loads the module from disk when it is built first, and meets it when it is built last. -/
theorem batch_exact_draft :
    let r := registered plainConfig (draftAndModule.map (·.1))
    let x := r.run (builds moduleDisk draftAndModule)
    r.diskText? moduleDisk ⟨"untitled:a"⟩ = none ∧ r.diskText? moduleDisk ⟨"file:///b"⟩ = some "x" ∧
    (∃ d, x.document? ⟨"file:///b"⟩ = some d ∧ d.bare = .build .workspace ⟨"file:///b"⟩ (parse "x")) ∧
    Agrees x (r.run (builds moduleDisk draftAndModule.reverse)) := by
  -- the registered modules stay a variable: as a closed term they would be evaluated
  generalize hus : draftAndModule.map (·.1) = us
  intro r x
  have hmem : ∀ b ∈ draftAndModule, b.1 ∈ us := fun b hb => hus ▸ List.mem_map_of_mem hb
  have hdisk : ∀ b ∈ draftAndModule, r.diskText? moduleDisk b.1 = none ∨ r.diskText? moduleDisk b.1 = some b.2 := by
    intro b hb
    rcases List.mem_pair.1 hb with rfl | rfl
    · exact .inl (moduleDisk_draft us)
    · exact .inr (moduleDisk_module us)
  obtain ⟨hdocuments, hcontents, -, horder⟩ :=
    batch_exact plainConfig moduleDisk us draftAndModule (by decide +kernel) hmem hdisk
  obtain ⟨d, hd⟩ := (hdocuments ⟨"file:///b"⟩).2 ⟨(⟨"file:///b"⟩, "x"), List.mem_pair.2 (.inr rfl), .refl⟩
  have hgiven : given? draftAndModule ⟨"file:///b"⟩ = some "x" := by decide +kernel
  refine ⟨moduleDisk_draft us, moduleDisk_module us, ⟨d, hd, ?_⟩, horder _ (List.reverse_perm _).symm⟩
  rw [hcontents _ d hd, expected_given hgiven]

end LuaAtlas.Index
