/-
How deep a walk gets. A walk goes on from every document that it meets before its last level, so it visits exactly what
is reached without going on from a document of the last level. On which level a document is met depends on the order of
the walk: a deeper walk can come upon a document by a long way round, on its last level, where a shallower walk had met
it early and gone on. Behind such a document, and nowhere else, a deeper walk loses documents.
-/
import LuaAtlas.Proofs.Index.Answers
import LuaAtlas.Proofs.Index.Run

namespace LuaAtlas.Index

/-! ## Levels -/

/-- A walk from the URIs `us` in turn as in `Walks`, with how many more levels may follow below each visited document. -/
inductive Levels (x : Index) : Nat → List Uri → List Uri → List (Document × Nat) → List Uri → Prop
  | nil {depth : Nat} {seen : List Uri} : Levels x depth [] seen [] seen
  | deep {u : Uri} {us seen seen' : List Uri} {ls : List (Document × Nat)} : Levels x 0 us seen ls seen' →
      Levels x 0 (u :: us) seen ls seen'
  | again {depth : Nat} {u : Uri} {us seen seen' : List Uri} {ls : List (Document × Nat)} : u ∈ seen →
      Levels x (depth + 1) us seen ls seen' → Levels x (depth + 1) (u :: us) seen ls seen'
  | missing {depth : Nat} {u : Uri} {us seen seen' : List Uri} {ls : List (Document × Nat)} : u ∉ seen →
      x.document? u = none → Levels x (depth + 1) us (u :: seen) ls seen' →
      Levels x (depth + 1) (u :: us) seen ls seen'
  | visit {depth : Nat} {u : Uri} {us seen seen' seen'' : List Uri} {d : Document}
      {below beside : List (Document × Nat)} : u ∉ seen → x.document? u = some d →
      Levels x depth (x.neighbours d) (u :: seen) below seen' → Levels x (depth + 1) us seen' beside seen'' →
      Levels x (depth + 1) (u :: us) seen ((d, depth) :: (below ++ beside)) seen''

section

variable {x : Index} {depth : Nat} {us seen seen' : List Uri}

theorem Walks.levels {ds : List Document} (h : Walks x depth us seen ds seen') :
    ∃ ls, Levels x depth us seen ls seen' ∧ ls.map (·.1) = ds := by
  induction h with
  | nil => exact ⟨[], .nil, rfl⟩
  | deep _ ih => exact ih.imp fun _ => And.imp_left .deep
  | again hu _ ih => exact ih.imp fun _ => And.imp_left (.again hu)
  | missing hu hnone _ ih => exact ih.imp fun _ => And.imp_left (.missing hu hnone)
  | visit hu hd _ _ ihbelow ihbeside =>
    obtain ⟨below, hbelow, rfl⟩ := ihbelow
    obtain ⟨beside, hbeside, rfl⟩ := ihbeside
    exact ⟨_, .visit hu hd hbelow hbeside, by rw [List.map_cons, List.map_append]⟩

variable {ls : List (Document × Nat)}

theorem Levels.walks (h : Levels x depth us seen ls seen') : Walks x depth us seen (ls.map (·.1)) seen' := by
  induction h with
  | nil => exact .nil
  | deep _ ih => exact .deep ih
  | again hu _ ih => exact .again hu ih
  | missing hu hnone _ ih => exact .missing hu hnone ih
  | visit hu hd _ _ ihbelow ihbeside =>
    rw [List.map_cons, List.map_append]
    exact .visit hu hd ihbelow ihbeside

/-- A walk leaves no choice, its levels included. -/
theorem Levels.unique (h : Levels x depth us seen ls seen') {ls' : List (Document × Nat)} {seen'' : List Uri}
    (h' : Levels x depth us seen ls' seen'') : ls' = ls ∧ seen'' = seen' := by
  induction h generalizing ls' seen'' with
  | nil => cases h'; exact ⟨rfl, rfl⟩
  | deep _ ih => cases h' with | deep h' => exact ih h'
  | again hu _ ih =>
    cases h' with
    | again _ h' => exact ih h'
    | missing hu' | visit hu' => exact absurd hu hu'
  | missing hu hnone _ ih =>
    cases h' with
    | missing _ _ h' => exact ih h'
    | again hu' => exact absurd hu' hu
    | visit _ hd' => rw [hnone] at hd'; cases hd'
  | visit hu hd _ _ ihbelow ihbeside =>
    cases h' with
    | visit _ hd' hbelow' hbeside' =>
      cases hd.symm.trans hd'
      obtain ⟨rfl, rfl⟩ := ihbelow hbelow'
      obtain ⟨rfl, rfl⟩ := ihbeside hbeside'
      exact ⟨rfl, rfl⟩
    | again hu' => exact absurd hu' hu
    | missing _ hnone' => rw [hd] at hnone'; cases hnone'

theorem Levels.lt (h : Levels x depth us seen ls seen') : ∀ l ∈ ls, l.2 < depth := by
  induction h with
  | nil => exact fun _ hl => absurd hl List.not_mem_nil
  | deep _ ih | again _ _ ih | missing _ _ _ ih => exact ih
  | visit _ _ _ _ ihbelow ihbeside =>
    intro l hl
    rcases List.mem_cons.1 hl with rfl | hl
    · exact Nat.lt_succ_self _
    · rcases List.mem_append.1 hl with hl | hl
      · exact Nat.lt_succ_of_lt (ihbelow l hl)
      · exact ihbeside l hl

/-- With a level left, all that the walk starts from comes to be seen. -/
theorem Levels.covers (h : Levels x (depth + 1) us seen ls seen') : us ⊆ seen' := by
  generalize hdepth : depth + 1 = n at h
  induction h with
  | nil => exact List.nil_subset _
  | deep => omega
  | again hu h ih => exact List.cons_subset.2 ⟨h.walks.subset hu, ih hdepth⟩
  | missing _ _ h ih => exact List.cons_subset.2 ⟨h.walks.subset (List.mem_cons_self ..), ih hdepth⟩
  | visit _ _ hbelow hbeside _ ih =>
    exact List.cons_subset.2 ⟨hbeside.walks.subset (hbelow.walks.subset (List.mem_cons_self ..)), ih hdepth⟩

/-- What a document leads to that is met above the last level comes to be seen. -/
theorem Levels.closed (h : Levels x depth us seen ls seen') :
    ∀ d left, (d, left + 1) ∈ ls → x.neighbours d ⊆ seen' := by
  induction h with
  | nil => exact fun _ _ hl => absurd hl List.not_mem_nil
  | deep _ ih | again _ _ ih | missing _ _ _ ih => exact ih
  | visit _ _ hbelow hbeside ihbelow ihbeside =>
    intro d left hl
    rcases List.mem_cons.1 hl with heq | hl
    · obtain ⟨rfl, rfl⟩ := Prod.mk.inj heq
      exact fun v hv => hbeside.walks.subset (hbelow.covers hv)
    · rcases List.mem_append.1 hl with hl | hl
      · exact fun v hv => hbeside.walks.subset (ihbelow d left hl hv)
      · exact ihbeside d left hl

/-- The listed documents are passed from one to the next, none of them on the last level. -/
def PassesIn (x : Index) (ls : List (Document × Nat)) (u v : Uri) : Prop :=
  ∃ d left, (d, left + 1) ∈ ls ∧ d.uri = u ∧ v ∈ x.neighbours d

theorem reached_mono {ls ls' : List (Document × Nat)} (hsub : ls ⊆ ls') {u v : Uri}
    (h : Relation.ReflTransGen (x.PassesIn ls) u v) : Relation.ReflTransGen (x.PassesIn ls') u v := by
  refine Relation.ReflTransGen.mono ?_ _ _ h
  rintro a b ⟨d, left, hl, hd⟩
  exact ⟨d, left, hsub hl, hd⟩

/-- Every visited document is reached by passing on from visited documents above the last level. -/
theorem Levels.reached (h : Levels x depth us seen ls seen') :
    ∀ l ∈ ls, ∃ u ∈ us, Relation.ReflTransGen (x.PassesIn ls) u l.1.uri := by
  induction h with
  | nil => exact fun _ hl => absurd hl List.not_mem_nil
  | deep _ ih | again _ _ ih | missing _ _ _ ih =>
    intro l hl
    obtain ⟨v, hv, hreach⟩ := ih l hl
    exact ⟨v, List.mem_cons_of_mem _ hv, hreach⟩
  | @visit depth u us seen seen' seen'' d below beside hu hd hbelow hbeside ihbelow ihbeside =>
    have huri : d.uri = u := (document?_mem hd).2
    have hsubbelow : below ⊆ (d, depth) :: (below ++ beside) := fun l hl =>
      List.mem_cons_of_mem _ (List.mem_append_left _ hl)
    have hsubbeside : beside ⊆ (d, depth) :: (below ++ beside) := fun l hl =>
      List.mem_cons_of_mem _ (List.mem_append_right _ hl)
    intro l hl
    rcases List.mem_cons.1 hl with rfl | hl
    · exact ⟨u, List.mem_cons_self .., by rw [huri]⟩
    · rcases List.mem_append.1 hl with hl | hl
      · obtain ⟨v, hv, hreach⟩ := ihbelow l hl
        obtain ⟨left, rfl⟩ : ∃ left, depth = left + 1 := ⟨depth - 1, by have := hbelow.lt l hl; omega⟩
        exact ⟨u, List.mem_cons_self .., .head ⟨d, left, List.mem_cons_self .., huri, hv⟩ (reached_mono hsubbelow hreach)⟩
      · obtain ⟨v, hv, hreach⟩ := ihbeside l hl
        exact ⟨v, List.mem_cons_of_mem _ hv, reached_mono hsubbeside hreach⟩

/-- A walk meets a document on one level only. -/
theorem Levels.left_unique (h : Levels x depth us seen ls seen') {d e : Document} {n m : Nat} (hd : (d, n) ∈ ls)
    (he : (e, m) ∈ ls) (huri : d.uri = e.uri) : d = e ∧ n = m := by
  have hnodup : (ls.map fun l => l.1.uri).Nodup := by simpa [Function.comp_def] using h.walks.nodup
  exact Prod.mk.inj (List.inj_on_of_nodup_map hnodup hd he huri)

end

/-! ## The last level -/

/-- The walk around `uri` meets the document of `v` on its last level, and does not go on from there. -/
def EndsAt (x : Index) (uri v : Uri) : Prop :=
  ∃ ls seen d, Levels x (x.config.maxRequireDepth + 1) [uri] [] ls seen ∧ (d, 0) ∈ ls ∧ d.uri = v

/-- The walk around `uri` may go on from `u` to `v`. -/
def Passes (x : Index) (uri u v : Uri) : Prop := x.Adjacent u v ∧ ¬ x.EndsAt uri u

variable {x : Index} {uri : Uri}

theorem levels_walk (x : Index) (uri : Uri) : ∃ ls seen, Levels x (x.config.maxRequireDepth + 1) [uri] [] ls seen ∧
    ls.map (·.1) = (x.walk uri).map (·.1) := by
  obtain ⟨seen, hwalks⟩ := walks_walk x uri
  obtain ⟨ls, hls, hmap⟩ := hwalks.levels
  exact ⟨ls, seen, hls, hmap⟩

/-- Where the first document is on the last level already, there is only one level. -/
theorem EndsAt.self (h : x.EndsAt uri uri) : x.config.maxRequireDepth = 0 := by
  obtain ⟨ls, seen, d, hls, hd, huri⟩ := h
  have hall := hls
  cases hls with
  | again hu => cases hu
  | missing _ _ hrest =>
    cases hrest
    cases hd
  | visit _ he =>
    have heuri := (document?_mem he).2
    exact (hall.left_unique hd (List.mem_cons_self ..) (huri.trans heuri.symm)).2.symm

/-- A walk visits what is reached from its start without going on from a document of its last level, and nothing else. -/
theorem mem_walk_iff_passes {d : Document} : d ∈ (x.walk uri).map (·.1) ↔
    x.document? d.uri = some d ∧ Relation.ReflTransGen (x.Passes uri) uri d.uri := by
  obtain ⟨ls, seen, hls, hmap⟩ := levels_walk x uri
  have hvisited : ∀ e, e ∈ ls.map (·.1) ↔ x.document? e.uri = some e ∧ e.uri ∉ [] ∧ e.uri ∈ seen :=
    fun e => hls.walks.mem_iff
  rw [← hmap]
  constructor
  · intro hd
    refine ⟨((hvisited d).1 hd).1, ?_⟩
    obtain ⟨l, hl, rfl⟩ := List.mem_map.1 hd
    obtain ⟨u, hu, hreach⟩ := hls.reached l hl
    cases List.mem_singleton.1 hu
    refine Relation.ReflTransGen.mono ?_ _ _ hreach
    rintro u v ⟨e, left, he, rfl, hv⟩
    have hdoc := ((hvisited e).1 (List.mem_map_of_mem he)).1
    refine ⟨⟨e, hdoc, mem_neighbours.1 hv⟩, ?_⟩
    rintro ⟨ls', seen', e', hls', he', huri⟩
    obtain ⟨rfl, -⟩ := hls.unique hls'
    have hleft := (hls.left_unique he' he huri).2
    omega
  · rintro ⟨hdoc, hreach⟩
    suffices hseen : ∀ v, Relation.ReflTransGen (x.Passes uri) uri v → v ∈ seen from
      (hvisited d).2 ⟨hdoc, List.not_mem_nil, hseen _ hreach⟩
    intro v hv
    induction hv with
    | refl => exact hls.covers (List.mem_singleton_self uri)
    | @tail u v _ hstep ih =>
      obtain ⟨⟨e, he, hv⟩, hgoes⟩ := hstep
      have heuri : e.uri = u := (document?_mem he).2
      have hmem : e ∈ ls.map (·.1) := (hvisited e).2 ⟨by rw [heuri]; exact he, List.not_mem_nil, heuri ▸ ih⟩
      obtain ⟨⟨e', left⟩, hl, rfl⟩ := List.mem_map.1 hmem
      cases left with
      | zero => exact absurd ⟨ls, seen, e', hls, hl, heuri⟩ hgoes
      | succ left => exact hls.closed e' left hl (mem_neighbours.2 hv)

/-! ## Another cap -/

/-- The same documents and modules, with another cap on the depth of walks. -/
def withDepth (x : Index) (c : Nat) : Index := { x with config := { x.config with maxRequireDepth := c } }

/-- The cap has no part in the edges. -/
@[simp] theorem joined_withDepth {c n : Nat} {u v : Uri} : (x.withDepth c).Joined n u v ↔ x.Joined n u v := by
  constructor
  · intro h
    induction h with
    | here u => exact .here u
    | step huv _ ih => exact .step huv ih
  · intro h
    induction h with
    | here u => exact .here u
    | step huv _ ih => exact .step huv ih

theorem Joined.snoc {n : Nat} {u v w : Uri} (h : x.Joined n u v) (hvw : x.Adjacent v w) : x.Joined (n + 1) u w := by
  induction h with
  | here u => exact .step hvw (.here w)
  | step huv _ ih => exact .step huv (ih hvw)

/-- A chain is passed if no document before its end is met on the last level. -/
theorem Joined.passes {n : Nat} {u v : Uri} (h : x.Joined n u v) : ∀ {m : Nat}, x.Joined m uri u →
    (∀ w k, k < m + n → x.Joined k uri w → ¬ x.EndsAt uri w) → Relation.ReflTransGen (x.Passes uri) u v := by
  induction h with
  | here u => exact fun _ _ => .refl
  | @step n u v w huv _ ih =>
    intro m hm hgoes
    have hfirst : x.Passes uri u v := ⟨huv, hgoes u m (by omega) hm⟩
    exact .head hfirst (ih (hm.snoc huv) fun w k hk => hgoes w k (by omega))

/-- The pairs of a walk are told by its documents. -/
theorem mem_walk_of_mem {y : Index} {v : Document × SearchScope} (hv : v ∈ x.walk uri)
    (h : v.1 ∈ (y.walk uri).map (·.1)) : v ∈ y.walk uri := by
  obtain ⟨w, hw, heq⟩ := List.mem_map.1 h
  have hscope : w.2 = v.2 := by rw [walk_scope hw, walk_scope hv, heq]
  rwa [← Prod.ext heq hscope]

/-- Where a walk finds something, a walk with the same documents and more finds that and more. -/
theorem searchCompletion_subset {y : Index} (hsub : x.walk uri ⊆ y.walk uri) {query : String} {mode : SearchMode}
    (hfound : ∃ v ∈ x.walk uri, v.1.search query mode v.2 ≠ []) :
    x.searchCompletion uri query mode ⊆ y.searchCompletion uri query mode := by
  have haround : ∀ z : Index, (∃ v ∈ z.walk uri, v.1.search query mode v.2 ≠ []) →
      z.searchCompletion uri query mode = (z.walk uri).flatMap fun v => v.1.search query mode v.2 := by
    rintro z ⟨v, hv, hne⟩
    refine if_neg fun hempty => hne ?_
    exact List.flatMap_eq_nil_iff.1 (List.isEmpty_iff.1 hempty) v hv
  rw [haround x hfound, haround y (hfound.imp fun v => And.imp_left fun hv => hsub hv)]
  intro s hs
  obtain ⟨v, hv, hs⟩ := List.mem_flatMap.1 hs
  exact List.mem_flatMap.2 ⟨v, hsub hv, hs⟩

/-- What a walk visits, a deeper walk visits if it gets there without going on from a document of its last level. So
nothing is lost if the first cap is no more than one, if the second is enough for all documents, or if the deeper walk
meets on its last level no document that is fewer steps away than the first cap; and then completion finds at least what
the walk had found. -/
theorem walk_deeper (x : Index) (uri : Uri) {c c' : Nat} (hc : c ≤ c') :
    (∀ v ∈ (x.withDepth c).walk uri, v ∈ (x.withDepth c').walk uri ↔
      Relation.ReflTransGen ((x.withDepth c').Passes uri) uri v.1.uri) ∧
    (c ≤ 1 ∨ x.workspace.size ≤ c' + 1 ∨ (∀ w n, n < c → x.Joined n uri w → ¬ (x.withDepth c').EndsAt uri w) →
      (x.withDepth c).walk uri ⊆ (x.withDepth c').walk uri ∧
      ∀ query mode, (∃ v ∈ (x.withDepth c).walk uri, v.1.search query mode v.2 ≠ []) →
        (x.withDepth c).searchCompletion uri query mode ⊆ (x.withDepth c').searchCompletion uri query mode) := by
  have hkept : ∀ v ∈ (x.withDepth c).walk uri, v ∈ (x.withDepth c').walk uri ↔
      Relation.ReflTransGen ((x.withDepth c').Passes uri) uri v.1.uri := by
    intro v hv
    have hdoc := document?_of_mem_walk hv
    constructor
    · exact fun h => (mem_walk_iff_passes.1 (List.mem_map_of_mem h)).2
    · exact fun h => mem_walk_of_mem hv (mem_walk_iff_passes.2 ⟨hdoc, h⟩)
  refine ⟨hkept, fun hcap => ?_⟩
  have hsub : (x.withDepth c).walk uri ⊆ (x.withDepth c').walk uri := by
    intro v hv
    have hdoc := document?_of_mem_walk hv
    obtain ⟨n, hn, hjoined⟩ := ((walk_depth_first (x.withDepth c) uri).2.2.2.1 v hv).2
    have hn : n ≤ c := hn
    have hjoined : (x.withDepth c').Joined n uri v.1.uri := joined_withDepth.2 (joined_withDepth.1 hjoined)
    have hpasses : (∀ w k, k < n → (x.withDepth c').Joined k uri w → ¬ (x.withDepth c').EndsAt uri w) →
        v ∈ (x.withDepth c').walk uri := by
      exact fun hgoes => (hkept v hv).2 (hjoined.passes (.here uri) fun w k hk => hgoes w k (by omega))
    rcases hcap with hone | hsize | hgoes
    · -- the only document fewer than one step away is the first
      refine hpasses fun w k hk hw hends => ?_
      obtain rfl : k = 0 := by omega
      cases hw
      have hzero : c' = 0 := hends.self
      omega
    · exact mem_walk_of_mem hv (mem_walk_of_reachable hsize hdoc hjoined.reachable)
    · exact hpasses fun w k hk hw => hgoes w k (by omega) (joined_withDepth.1 hw)
  exact ⟨hsub, fun query mode hfound => searchCompletion_subset hsub hfound⟩

/-- A workspace in which `v` is one step from `r`, and three steps by the way round that is walked first. -/
def wayRound : List Step :=
  let file (name text : String) : Step :=
    .build .empty .workspace ⟨"file:///" ++ name ++ ".lua"⟩ (some text)
  [file "w" "", file "v" "require'w'", file "b" "require'v'", file "a" "require'b'", file "r" "require'v' require'a'"]

/-- From a cap of one on nothing is lost in it. -/
theorem walk_deeper_wayRound : 1 ≤ 3 ∧ (((empty {}).run wayRound).withDepth 1).walk ⟨"file:///r.lua"⟩ ⊆
    (((empty {}).run wayRound).withDepth 3).walk ⟨"file:///r.lua"⟩ :=
  ⟨by decide, ((walk_deeper ((empty {}).run wayRound) _ (by decide)).2 (.inl (by decide))).1⟩

set_option maxRecDepth 100000 in
/-- A deeper walk need not visit all that a shallower one does: with a cap of three `v` is met on the last level, and `w`
behind it is lost, which a cap of two had found. -/
theorem walk_loses_behind_last_level : ¬ ∀ (config : Config) (steps : List Step) (uri : Uri) (c c' : Nat), c ≤ c' →
    (((empty config).run steps).withDepth c).walk uri ⊆ (((empty config).run steps).withDepth c').walk uri := by
  intro h
  have hfacts :
      (⟨"file:///w.lua"⟩ : Uri) ∈
        ((((empty {}).run wayRound).withDepth 2).walk ⟨"file:///r.lua"⟩).map (·.1.uri) ∧
      (⟨"file:///w.lua"⟩ : Uri) ∉
        ((((empty {}).run wayRound).withDepth 3).walk ⟨"file:///r.lua"⟩).map (·.1.uri) := by decide +kernel
  have hsub := h {} wayRound ⟨"file:///r.lua"⟩ 2 3 (by decide)
  -- the index is not to be evaluated again
  generalize (empty {}).run wayRound = x at hfacts hsub
  exact hfacts.2 (List.map_subset (fun v => v.1.uri) hsub hfacts.1)

end LuaAtlas.Index
