/-
The walk around a document. It visits the documents in depth-first order, each once, and none that is
more steps away than the settings allow; if they allow as many steps as there are documents, it visits
all that can be reached. Whoever is handed the documents one by one and stops has seen a beginning of it.

A walk from several URIs in turn is described by one relation, with one rule for each thing that can
happen to a URI: it lies too deep, it has been seen, it has no document, or its document is visited.
All that is said about walks is shown by induction on these rules. That the cap hides nothing is
carried by a count: there are never more documents unseen than steps left.
-/
import LuaAtlas.Proofs.Index.Rebuild
import Mathlib.Logic.Relation

namespace LuaAtlas.Index

/-! ## What a walk does -/

/-- The URIs that a walk goes on to from a document, in this order. -/
def neighbours (x : Index) (d : Document) : List Uri := (x.targets d).reverse ++ d.referencedBy.reverse

theorem mem_neighbours {x : Index} {d : Document} {v : Uri} :
    v ∈ x.neighbours d ↔ v ∈ x.targets d ∨ v ∈ d.referencedBy := by
  simp [neighbours]

/-- Walking from the URIs `us` in turn, with at most `depth` documents one below the other, when `seen` have
been seen: `ds` are visited, and `seen'` have been seen then. -/
inductive Walks (x : Index) : Nat → List Uri → List Uri → List Document → List Uri → Prop
  | nil {depth : Nat} {seen : List Uri} : Walks x depth [] seen [] seen
  | deep {u : Uri} {us seen seen' : List Uri} {ds : List Document} : Walks x 0 us seen ds seen' →
      Walks x 0 (u :: us) seen ds seen'
  | again {depth : Nat} {u : Uri} {us seen seen' : List Uri} {ds : List Document} : u ∈ seen →
      Walks x (depth + 1) us seen ds seen' → Walks x (depth + 1) (u :: us) seen ds seen'
  | missing {depth : Nat} {u : Uri} {us seen seen' : List Uri} {ds : List Document} : u ∉ seen →
      x.document? u = none → Walks x (depth + 1) us (u :: seen) ds seen' →
      Walks x (depth + 1) (u :: us) seen ds seen'
  | visit {depth : Nat} {u : Uri} {us seen seen' seen'' : List Uri} {d : Document} {below beside : List Document} :
      u ∉ seen → x.document? u = some d → Walks x depth (x.neighbours d) (u :: seen) below seen' →
      Walks x (depth + 1) us seen' beside seen'' →
      Walks x (depth + 1) (u :: us) seen (d :: (below ++ beside)) seen''

section

variable {x : Index} {depth : Nat} {us seen seen' : List Uri} {ds : List Document}

theorem Walks.append (h : Walks x depth us seen ds seen') {us' seen'' : List Uri} {ds' : List Document}
    (h' : Walks x depth us' seen' ds' seen'') : Walks x depth (us ++ us') seen (ds ++ ds') seen'' := by
  induction h with
  | nil => exact h'
  | deep _ ih => exact .deep (ih h')
  | again hu _ ih => exact .again hu (ih h')
  | missing hu hnone _ ih => exact .missing hu hnone (ih h')
  | visit hu hd hbelow _ _ ih =>
    rw [List.cons_append, List.cons_append, List.append_assoc]
    exact .visit hu hd hbelow (ih h')

/-- If walks from single URIs are such walks, walks from several in turn are. -/
theorem walks_foldl (hwalk : ∀ u seen, Walks x depth [u] seen (x.walkFrom depth u seen).1 (x.walkFrom depth u seen).2) :
    ∀ (us : List Uri) (acc : List Document) (seen : List Uri), ∃ ds seen',
      us.foldl (fun (visits, seen) next =>
        let (more, seen) := x.walkFrom depth next seen
        (visits ++ more, seen)) (acc, seen) = (acc ++ ds, seen') ∧ Walks x depth us seen ds seen' := by
  intro us
  induction us with
  | nil => exact fun acc seen => ⟨[], seen, by rw [List.append_nil]; rfl, .nil⟩
  | cons v vs ih =>
    intro acc seen
    obtain ⟨ds, seen', heq, h⟩ := ih (acc ++ (x.walkFrom depth v seen).1) (x.walkFrom depth v seen).2
    exact ⟨(x.walkFrom depth v seen).1 ++ ds, seen', by rw [List.foldl_cons, ← List.append_assoc, ← heq],
      (hwalk v seen).append h⟩

theorem walks_walkFrom (x : Index) (depth : Nat) :
    ∀ u seen, Walks x depth [u] seen (x.walkFrom depth u seen).1 (x.walkFrom depth u seen).2 := by
  induction depth with
  | zero => exact fun _ _ => .deep .nil
  | succ depth ih =>
    intro u seen
    rw [walkFrom]
    split
    · rename_i hu
      exact .again (by simpa using hu) .nil
    · rename_i hu
      have hu : u ∉ seen := by simpa using hu
      cases hd : x.document? u with
      | none => exact .missing hu hd .nil
      | some d =>
        obtain ⟨ds, seen', heq, h⟩ := walks_foldl ih (x.neighbours d) [d] (u :: seen)
        dsimp only
        rw [show (x.targets d).reverse ++ d.referencedBy.reverse = x.neighbours d from rfl, heq]
        have hvisit := Walks.visit hu hd h .nil
        rwa [List.append_nil] at hvisit

/-! ## Once each -/

theorem Walks.subset (h : Walks x depth us seen ds seen') : seen ⊆ seen' := by
  induction h with
  | nil => exact List.Subset.refl _
  | deep _ ih | again _ _ ih => exact ih
  | missing _ _ _ ih => exact fun v hv => ih (List.mem_cons_of_mem _ hv)
  | visit _ _ _ _ ihbelow ihbeside => exact fun v hv => ihbeside (ihbelow (List.mem_cons_of_mem _ hv))

/-- The visited documents are those of the URIs that have come to be seen. -/
theorem Walks.mem_iff (h : Walks x depth us seen ds seen') {d : Document} :
    d ∈ ds ↔ x.document? d.uri = some d ∧ d.uri ∉ seen ∧ d.uri ∈ seen' := by
  induction h with
  | nil => simp
  | deep _ ih | again _ _ ih => exact ih
  | missing hu hnone _ ih =>
    rw [ih, List.mem_cons, not_or]
    constructor
    · rintro ⟨hd, ⟨-, hseen⟩, hseen'⟩
      exact ⟨hd, hseen, hseen'⟩
    · rintro ⟨hd, hseen, hseen'⟩
      refine ⟨hd, ⟨fun heq => ?_, hseen⟩, hseen'⟩
      rw [heq, hnone] at hd
      cases hd
  | @visit depth u us seen seen' seen'' e below beside hu he hbelow hbeside ihbelow ihbeside =>
    have heuri : e.uri = u := (document?_mem he).2
    rw [List.mem_cons, List.mem_append, ihbelow, ihbeside, List.mem_cons, not_or]
    constructor
    · rintro (rfl | ⟨hd, ⟨-, hseen⟩, hseen'⟩ | ⟨hd, hseen', hseen''⟩)
      · rw [heuri]
        exact ⟨he, hu, hbeside.subset (hbelow.subset (List.mem_cons_self ..))⟩
      · exact ⟨hd, hseen, hbeside.subset hseen'⟩
      · exact ⟨hd, fun hm => hseen' (hbelow.subset (List.mem_cons_of_mem _ hm)), hseen''⟩
    · rintro ⟨hd, hseen, hseen''⟩
      by_cases hdu : d.uri = u
      · rw [hdu, he] at hd
        exact .inl (Option.some.inj hd).symm
      · by_cases hseen' : d.uri ∈ seen'
        · exact .inr (.inl ⟨hd, ⟨hdu, hseen⟩, hseen'⟩)
        · exact .inr (.inr ⟨hd, hseen', hseen''⟩)

theorem Walks.nodup (h : Walks x depth us seen ds seen') : (ds.map (·.uri)).Nodup := by
  induction h with
  | nil => exact List.nodup_nil
  | deep _ ih | again _ _ ih | missing _ _ _ ih => exact ih
  | @visit depth u us seen seen' seen'' e below beside hu he hbelow hbeside ihbelow ihbeside =>
    rw [List.map_cons, List.map_append, (document?_mem he).2]
    refine List.nodup_cons.2 ⟨fun hm => ?_, List.nodup_append'.2 ⟨ihbelow, ihbeside, fun v hv hv' => ?_⟩⟩
    · rcases List.mem_append.1 hm with hm | hm <;> obtain ⟨d, hd, rfl⟩ := List.mem_map.1 hm
      · exact (hbelow.mem_iff.1 hd).2.1 (List.mem_cons_self ..)
      · exact (hbeside.mem_iff.1 hd).2.1 (hbelow.subset (List.mem_cons_self ..))
    · obtain ⟨d, hd, rfl⟩ := List.mem_map.1 hv
      obtain ⟨d', hd', heq⟩ := List.mem_map.1 hv'
      exact (hbeside.mem_iff.1 hd').2.1 (heq ▸ (hbelow.mem_iff.1 hd).2.2)

end

/-! ## How far -/

/-- The document of `u` requires `v`, or `v` is noted to require it. -/
def Adjacent (x : Index) (u v : Uri) : Prop :=
  ∃ d, x.document? u = some d ∧ (v ∈ x.targets d ∨ v ∈ d.referencedBy)

/-- A chain of so many steps. -/
inductive Joined (x : Index) : Nat → Uri → Uri → Prop
  | here (u : Uri) : Joined x 0 u u
  | step {n : Nat} {u v w : Uri} : x.Adjacent u v → Joined x n v w → Joined x (n + 1) u w

theorem Joined.reachable {x : Index} {n : Nat} {u v : Uri} (h : x.Joined n u v) :
    Relation.ReflTransGen x.Adjacent u v := by
  induction h with
  | here u => exact .refl
  | step huv _ ih => exact .head huv ih

section

variable {x : Index} {depth : Nat} {us seen seen' : List Uri} {ds : List Document}

theorem Walks.joined (h : Walks x depth us seen ds seen') :
    ∀ d ∈ ds, ∃ u ∈ us, ∃ n < depth, x.Joined n u d.uri := by
  induction h with
  | nil => exact fun d hd => absurd hd List.not_mem_nil
  | deep _ ih | again _ _ ih | missing _ _ _ ih =>
    intro d hd
    obtain ⟨v, hv, hjoined⟩ := ih d hd
    exact ⟨v, List.mem_cons_of_mem _ hv, hjoined⟩
  | @visit depth u us seen seen' seen'' e below beside hu he hbelow hbeside ihbelow ihbeside =>
    intro d hd
    rcases List.mem_cons.1 hd with rfl | hd
    · refine ⟨u, List.mem_cons_self .., 0, Nat.succ_pos depth, ?_⟩
      rw [(document?_mem he).2]
      exact .here u
    · rcases List.mem_append.1 hd with hd | hd
      · obtain ⟨v, hv, n, hn, hjoined⟩ := ihbelow d hd
        exact ⟨u, List.mem_cons_self .., n + 1, Nat.succ_lt_succ hn, .step ⟨e, he, mem_neighbours.1 hv⟩ hjoined⟩
      · obtain ⟨v, hv, hjoined⟩ := ihbeside d hd
        exact ⟨v, List.mem_cons_of_mem _ hv, hjoined⟩

/-- How many documents of the workspace have not been seen. -/
def unseen (x : Index) (seen : List Uri) : Nat := x.workspace.documents.countP fun d => d.uri ∉ seen

theorem unseen_mono (h : seen ⊆ seen') : x.unseen seen' ≤ x.unseen seen := by
  refine List.countP_mono_left fun d _ hd => ?_
  have hd : d.uri ∉ seen' := by simpa using hd
  simpa using fun hm => hd (h hm)

theorem unseen_cons {u : Uri} {d : Document} (hu : u ∉ seen) (hd : x.document? u = some d) :
    x.unseen (u :: seen) < x.unseen seen := by
  obtain ⟨hmem, rfl⟩ := document?_mem hd
  obtain ⟨before, after, hdocs⟩ := List.append_of_mem hmem
  have hle : ∀ es : List Document, es.countP (fun e => e.uri ∉ d.uri :: seen) ≤ es.countP fun e => e.uri ∉ seen :=
    fun es => List.countP_mono_left fun e _ he => by simp at he ⊢; exact he.2
  have hbefore := hle before
  have hafter := hle after
  unfold unseen
  rw [hdocs, List.countP_append, List.countP_append, List.countP_cons_of_neg (by simp),
    List.countP_cons_of_pos (by simpa using hu)]
  omega

/-- With a step left for every unseen document nothing is cut off: the URIs walked from have been seen, and
so has whatever the visited documents lead to, unless it has no document. -/
theorem Walks.closed (h : Walks x depth us seen ds seen') (hle : x.unseen seen ≤ depth) :
    (∀ u ∈ us, ∀ d, x.document? u = some d → u ∈ seen') ∧
    ∀ d ∈ ds, ∀ v ∈ x.neighbours d, ∀ e, x.document? v = some e → v ∈ seen' := by
  induction h with
  | nil => exact ⟨fun _ h => absurd h List.not_mem_nil, fun _ h => absurd h List.not_mem_nil⟩
  | @deep u us seen seen' ds h ih =>
    obtain ⟨hus, hds⟩ := ih hle
    refine ⟨fun v hv d hd => ?_, hds⟩
    rcases List.mem_cons.1 hv with rfl | hv
    · -- no step is left, so every document has been seen
      by_contra hseen
      have hlt := unseen_cons (fun hm => hseen (h.subset hm)) hd
      omega
    · exact hus v hv d hd
  | again hu h ih =>
    obtain ⟨hus, hds⟩ := ih hle
    refine ⟨fun v hv d hd => ?_, hds⟩
    rcases List.mem_cons.1 hv with rfl | hv
    · exact h.subset hu
    · exact hus v hv d hd
  | missing hu hnone h ih =>
    obtain ⟨hus, hds⟩ := ih ((unseen_mono (List.subset_cons_self ..)).trans hle)
    refine ⟨fun v hv d hd => ?_, hds⟩
    rcases List.mem_cons.1 hv with rfl | hv
    · exact h.subset (List.mem_cons_self ..)
    · exact hus v hv d hd
  | @visit depth u us seen seen' seen'' e below beside hu he hbelow hbeside ihbelow ihbeside =>
    have hlt := unseen_cons hu he
    have hmono : x.unseen seen' ≤ x.unseen seen :=
      unseen_mono fun v hv => hbelow.subset (List.mem_cons_of_mem _ hv)
    obtain ⟨hnext, hbelows⟩ := ihbelow (by omega)
    obtain ⟨hus, hbesides⟩ := ihbeside (hmono.trans hle)
    refine ⟨fun v hv d hd => ?_, fun d hd v hv f hf => ?_⟩
    · rcases List.mem_cons.1 hv with rfl | hv
      · exact hbeside.subset (hbelow.subset (List.mem_cons_self ..))
      · exact hus v hv d hd
    · rcases List.mem_cons.1 hd with rfl | hd
      · exact hbeside.subset (hnext v hv f hf)
      · rcases List.mem_append.1 hd with hd | hd
        · exact hbeside.subset (hbelows d hd v hv f hf)
        · exact hbesides d hd v hv f hf

end

/-! ## The order of visits -/

/-- Depth-first order, told by an agenda of URIs with their distances: the first is taken away, and if it is
visited, what it leads to comes in front of the rest. -/
inductive DepthFirst (x : Index) : List (Uri × Nat) → List Uri → List Document → Prop
  | done {seen : List Uri} : DepthFirst x [] seen []
  | beyond {u : Uri} {n : Nat} {rest : List (Uri × Nat)} {seen : List Uri} {ds : List Document} :
      x.config.maxRequireDepth < n → DepthFirst x rest seen ds → DepthFirst x ((u, n) :: rest) seen ds
  | again {u : Uri} {n : Nat} {rest : List (Uri × Nat)} {seen : List Uri} {ds : List Document} :
      n ≤ x.config.maxRequireDepth → u ∈ seen → DepthFirst x rest seen ds → DepthFirst x ((u, n) :: rest) seen ds
  | missing {u : Uri} {n : Nat} {rest : List (Uri × Nat)} {seen : List Uri} {ds : List Document} :
      n ≤ x.config.maxRequireDepth → u ∉ seen → x.document? u = none → DepthFirst x rest (u :: seen) ds →
      DepthFirst x ((u, n) :: rest) seen ds
  | visit {u : Uri} {n : Nat} {rest : List (Uri × Nat)} {seen : List Uri} {d : Document} {ds : List Document} :
      n ≤ x.config.maxRequireDepth → u ∉ seen → x.document? u = some d →
      DepthFirst x (((x.targets d).reverse ++ d.referencedBy.reverse).map (·, n + 1) ++ rest) (u :: seen) ds →
      DepthFirst x ((u, n) :: rest) seen (d :: ds)

theorem Walks.depthFirst {x : Index} {depth : Nat} {us seen seen' : List Uri} {ds : List Document}
    (h : Walks x depth us seen ds seen') : ∀ {n : Nat} {rest : List (Uri × Nat)} {more : List Document},
      n + depth = x.config.maxRequireDepth + 1 → DepthFirst x rest seen' more →
      DepthFirst x (us.map (·, n) ++ rest) seen (ds ++ more) := by
  induction h with
  | nil => exact fun _ hrest => hrest
  | deep _ ih => exact fun hn hrest => .beyond (by omega) (ih hn hrest)
  | again hu _ ih => exact fun hn hrest => .again (by omega) hu (ih hn hrest)
  | missing hu hnone _ ih => exact fun hn hrest => .missing (by omega) hu hnone (ih hn hrest)
  | visit hu hd _ _ ihbelow ihbeside =>
    intro n rest more hn hrest
    rw [List.map_cons, List.cons_append, List.cons_append, List.append_assoc]
    exact .visit (by omega) hu hd (ihbelow (by omega) (ihbeside hn hrest))

/-- An agenda leaves no choice. -/
theorem DepthFirst.unique {x : Index} {agenda : List (Uri × Nat)} {seen : List Uri} {ds ds' : List Document}
    (h : DepthFirst x agenda seen ds) (h' : DepthFirst x agenda seen ds') : ds' = ds := by
  induction h generalizing ds' with
  | done => cases h'; rfl
  | beyond hn _ ih =>
    cases h' with
    | beyond _ h' => exact ih h'
    | again hn' | missing hn' | visit hn' => omega
  | again hn hu _ ih =>
    cases h' with
    | again _ _ h' => exact ih h'
    | beyond hn' => omega
    | missing _ hu' | visit _ hu' => exact absurd hu hu'
  | missing hn hu hnone _ ih =>
    cases h' with
    | missing _ _ _ h' => exact ih h'
    | beyond hn' => omega
    | again _ hu' => exact absurd hu' hu
    | visit _ _ hd' => rw [hnone] at hd'; cases hd'
  | visit hn hu hd _ ih =>
    cases h' with
    | visit _ _ hd' h' =>
      cases hd.symm.trans hd'
      rw [ih h']
    | beyond hn' => omega
    | again _ hu' => exact absurd hu' hu
    | missing _ _ hnone' => rw [hd] at hnone'; cases hnone'

/-! ## The walk around a document -/

/-- A walk is empty, or it begins with its own document and goes on from there. -/
theorem walk_cases (x : Index) (uri : Uri) :
    (x.document? uri = none ∧ x.walk uri = []) ∨
    ∃ d below seen, x.document? uri = some d ∧ x.walk uri = (d, .all) :: below.map (·, .globals) ∧
      Walks x x.config.maxRequireDepth (x.neighbours d) [uri] below seen := by
  have h := walks_walkFrom x (x.config.maxRequireDepth + 1) uri []
  unfold walk
  generalize x.walkFrom (x.config.maxRequireDepth + 1) uri [] = visits at h ⊢
  obtain ⟨ds, seen'⟩ := visits
  cases h with
  | again hu => cases hu
  | missing _ hnone h =>
    cases h
    exact .inl ⟨hnone, rfl⟩
  | visit _ hd hbelow hbeside =>
    cases hbeside
    exact .inr ⟨_, _, _, hd, by rw [List.append_nil], hbelow⟩

/-- A walk begins with its own document. -/
theorem walk_eq_cons {x : Index} {uri : Uri} {d : Document} (hd : x.document? uri = some d) :
    ∃ below : List Document, x.walk uri = (d, .all) :: below.map (·, .globals) := by
  rcases walk_cases x uri with ⟨hnone, -⟩ | ⟨d', below, -, hd', hwalk, -⟩
  · rw [hnone] at hd; cases hd
  · cases hd.symm.trans hd'
    exact ⟨below, hwalk⟩

theorem walks_walk (x : Index) (uri : Uri) :
    ∃ seen, Walks x (x.config.maxRequireDepth + 1) [uri] [] ((x.walk uri).map (·.1)) seen := by
  rcases walk_cases x uri with ⟨hnone, hwalk⟩ | ⟨d, below, seen, hd, hwalk, h⟩
  · rw [hwalk]
    exact ⟨_, .missing List.not_mem_nil hnone .nil⟩
  · have hvisit := Walks.visit List.not_mem_nil hd h .nil
    rw [List.append_nil] at hvisit
    have hmap : ((d, .all) :: below.map (·, SearchScope.globals)).map (·.1) = d :: below := by
      simp [Function.comp_def]
    refine ⟨seen, ?_⟩
    rwa [hwalk, hmap]

/-- A walk visits documents of the workspace. -/
theorem document?_of_mem_walk {x : Index} {uri : Uri} {v : Document × SearchScope} (h : v ∈ x.walk uri) :
    x.document? v.1.uri = some v.1 := by
  obtain ⟨seen, hwalks⟩ := walks_walk x uri
  exact (hwalks.mem_iff.1 (List.mem_map_of_mem h)).1

/-! ## Handing the documents on -/

section

variable {m : Type → Type} [Monad m] [LawfulMonad m] (f : Document → SearchScope → m Unit)

theorem visitFrom_succ (x : Index) (depth : Nat) (scope : SearchScope) (u : Uri) (seen : List Uri) :
    (x.visitFrom f (depth + 1) scope u).run seen =
      if u ∈ seen then pure ((), seen)
      else match x.document? u with
        | none => pure ((), u :: seen)
        | some d => f d scope >>= fun _ => ((x.neighbours d).forM (x.visitFrom f depth .globals)).run (u :: seen) := by
  rw [visitFrom]
  by_cases hu : u ∈ seen
  · simp [hu]
  · cases hd : x.document? u with
    | none => simp [hu]
    | some d => simp [hu, neighbours]

theorem Walks.visitFrom {x : Index} {depth : Nat} {us seen seen' : List Uri} {ds : List Document}
    (h : Walks x depth us seen ds seen') :
    (us.forM (x.visitFrom f depth .globals)).run seen = ds.forM (f · .globals) >>= fun _ => pure ((), seen') := by
  induction h with
  | nil => simp
  | deep _ ih => simpa [Index.visitFrom] using ih
  | again hu _ ih => simpa [visitFrom_succ, hu] using ih
  | missing hu hnone _ ih => simpa [visitFrom_succ, hu, hnone] using ih
  | @visit depth u us seen seen' seen'' d below beside hu hd _ _ ihbelow ihbeside =>
    have hfirst : (x.visitFrom f (depth + 1) .globals u).run seen =
        f d .globals >>= fun _ => below.forM (f · .globals) >>= fun _ => pure ((), seen') := by
      rw [visitFrom_succ, if_neg hu, hd]
      dsimp only
      rw [ihbelow]
    simp only [List.forM_eq_forM] at hfirst ihbeside ⊢
    simp [hfirst, ihbeside]

/-- Whatever is done with the documents, it is done with those of the walk in turn. -/
theorem visit_eq_forM (x : Index) (uri : Uri) : x.visit uri f = (x.walk uri).forM fun v => f v.1 v.2 := by
  unfold visit
  rcases walk_cases x uri with ⟨hnone, hwalk⟩ | ⟨d, below, seen, hd, hwalk, h⟩
  · rw [hwalk, StateT.run'_eq, visitFrom_succ, if_neg List.not_mem_nil, hnone]
    simp
  · rw [hwalk, StateT.run'_eq, visitFrom_succ, if_neg List.not_mem_nil, hd]
    dsimp only
    rw [h.visitFrom]
    simp [List.forM_eq_forM]

end

/-- Notes a visit, and ends the walk if `stop` holds of the notes taken so far. -/
def noteUntil (stop : List (Document × SearchScope) → Bool) (d : Document) (scope : SearchScope) :
    ExceptT Unit (StateM (List (Document × SearchScope))) Unit := do
  modify (· ++ [(d, scope)])
  if stop (← get) then throw ()

/-- The visits around `uri` up to the first after which `stop` holds of them. -/
def visitsUntil (x : Index) (uri : Uri) (stop : List (Document × SearchScope) → Bool) :
    List (Document × SearchScope) :=
  ((x.visit uri (noteUntil stop)).run.run []).2

theorem noteUntil_run (stop : List (Document × SearchScope) → Bool) (v : Document × SearchScope)
    (notes : List (Document × SearchScope)) :
    (noteUntil stop v.1 v.2).run.run notes = (if stop (notes ++ [v]) then .error () else .ok (), notes ++ [v]) := by
  show (if stop (notes ++ [v]) then throw () else pure () : ExceptT Unit (StateM _) Unit).run.run (notes ++ [v]) = _
  split <;> rfl

theorem notes_cons (stop : List (Document × SearchScope) → Bool) (v : Document × SearchScope)
    (vs notes : List (Document × SearchScope)) :
    (((v :: vs).forM fun v => noteUntil stop v.1 v.2).run.run notes).2 =
      if stop (notes ++ [v]) then notes ++ [v]
      else ((vs.forM fun v => noteUntil stop v.1 v.2).run.run (notes ++ [v])).2 := by
  rw [List.forM_eq_forM, List.forM_cons, ExceptT.run_bind, StateT.run_bind, noteUntil_run]
  by_cases h : stop (notes ++ [v]) = true
  · rw [if_pos h, if_pos h]; rfl
  · rw [if_neg h, if_neg h]; rfl

theorem notes_forM (stop : List (Document × SearchScope) → Bool) : ∀ vs notes : List (Document × SearchScope),
    ∃ k ≤ vs.length, ((vs.forM fun v => noteUntil stop v.1 v.2).run.run notes).2 = notes ++ vs.take k ∧
      (∀ j, 0 < j → j < k → stop (notes ++ vs.take j) = false) ∧
      (k = vs.length ∨ 0 < k ∧ stop (notes ++ vs.take k) = true)
  | [], notes => ⟨0, Nat.le_refl 0, (List.append_nil notes).symm, fun j hj hlt => by omega, .inl rfl⟩
  | v :: vs, notes => by
    rw [notes_cons]
    by_cases hstop : stop (notes ++ [v]) = true
    · exact ⟨1, by simp, by simp [hstop], fun j hj hlt => by omega, .inr ⟨Nat.one_pos, by simpa using hstop⟩⟩
    · obtain ⟨k, hk, hnotes, hgoes, hends⟩ := notes_forM stop vs (notes ++ [v])
      have htake : ∀ j, notes ++ (v :: vs).take (j + 1) = notes ++ [v] ++ vs.take j := by simp
      refine ⟨k + 1, Nat.succ_le_succ hk, by rw [if_neg hstop, hnotes, htake], fun j hj hlt => ?_, ?_⟩
      · obtain ⟨i, rfl⟩ : ∃ i, j = i + 1 := ⟨j - 1, by omega⟩
        rw [htake]
        rcases Nat.eq_zero_or_pos i with rfl | hi
        · simpa using hstop
        · exact hgoes i hi (by omega)
      · rw [htake]
        exact hends.imp (fun h => by rw [h, List.length_cons]) fun h => ⟨Nat.succ_pos k, h.2⟩

/-! ## All that holds of a walk -/

/-- With as many steps as there are other documents, all that can be reached is visited. -/
theorem mem_walk_of_reachable {x : Index} {uri : Uri} (hdepth : x.workspace.size ≤ x.config.maxRequireDepth + 1)
    {d : Document} (hd : x.document? d.uri = some d) (h : Relation.ReflTransGen x.Adjacent uri d.uri) :
    d ∈ (x.walk uri).map (·.1) := by
  obtain ⟨seen, hwalks⟩ := walks_walk x uri
  have hunseen : x.unseen [] ≤ x.config.maxRequireDepth + 1 := List.countP_le_length.trans hdepth
  obtain ⟨hstart, hclosed⟩ := hwalks.closed hunseen
  suffices hseen : ∀ v, Relation.ReflTransGen x.Adjacent uri v → ∀ e, x.document? v = some e → v ∈ seen from
    hwalks.mem_iff.2 ⟨hd, List.not_mem_nil, hseen d.uri h d hd⟩
  intro v hv
  induction hv with
  | refl => exact hstart uri (List.mem_singleton_self uri)
  | @tail v w hv hvw ih =>
    intro f hf
    obtain ⟨e, he, hw⟩ := hvw
    have heuri : e.uri = v := (document?_mem he).2
    refine hclosed e (hwalks.mem_iff.2 ⟨by rw [heuri]; exact he, List.not_mem_nil, ?_⟩) w (mem_neighbours.2 hw) f hf
    rw [heuri]
    exact ih e he

/-- A walk visits no document twice. It begins with its own document, searched whole, if there is one, and is
empty otherwise; of all others the globals count. It visits documents of the workspace that are joined to its
own by at most as many steps as the settings allow, in the one depth-first order that takes what a document
requires, the last first, before those that require it, the last first. Whatever is done with the
documents as they are met is done with these in turn, and who ends the walk after some visits has had
exactly these. If the settings allow as many steps as there are other documents, those visited are those
that can be reached. -/
theorem walk_depth_first (x : Index) (uri : Uri) :
    ((x.walk uri).map (·.1.uri)).Nodup ∧
    (x.document? uri = none → x.walk uri = []) ∧
    (∀ d, x.document? uri = some d → ∃ ds : List Document, x.walk uri = (d, .all) :: ds.map (·, .globals)) ∧
    (∀ v ∈ x.walk uri, x.document? v.1.uri = some v.1 ∧ ∃ n ≤ x.config.maxRequireDepth, x.Joined n uri v.1.uri) ∧
    (∀ ds, DepthFirst x [(uri, 0)] [] ds ↔ ds = (x.walk uri).map (·.1)) ∧
    (∀ (m : Type → Type) [Monad m] [LawfulMonad m] (f : Document → SearchScope → m Unit),
      x.visit uri f = (x.walk uri).forM fun v => f v.1 v.2) ∧
    (∀ stop, ∃ k ≤ (x.walk uri).length, x.visitsUntil uri stop = (x.walk uri).take k ∧
      (∀ j, 0 < j → j < k → stop ((x.walk uri).take j) = false) ∧
      (k = (x.walk uri).length ∨ 0 < k ∧ stop ((x.walk uri).take k) = true)) ∧
    (x.workspace.size ≤ x.config.maxRequireDepth + 1 → ∀ d, d ∈ (x.walk uri).map (·.1) ↔
      x.document? d.uri = some d ∧ Relation.ReflTransGen x.Adjacent uri d.uri) := by
  obtain ⟨seen, hwalks⟩ := walks_walk x uri
  have hjoined : ∀ d ∈ (x.walk uri).map (·.1), ∃ n ≤ x.config.maxRequireDepth, x.Joined n uri d.uri := by
    intro d hd
    obtain ⟨u, hu, n, hn, hjoined⟩ := hwalks.joined d hd
    cases List.mem_singleton.1 hu
    exact ⟨n, Nat.le_of_lt_succ hn, hjoined⟩
  refine ⟨?_, fun hnone => ?_, fun d hd => walk_eq_cons hd, fun v hv => ?_, fun ds => ?_,
    fun m _ _ f => visit_eq_forM f x uri, fun stop => ?_, fun hdepth d => ?_⟩
  · have hnodup := hwalks.nodup
    rwa [List.map_map] at hnodup
  · rcases walk_cases x uri with ⟨-, hwalk⟩ | ⟨d, -, -, hd, -⟩
    · exact hwalk
    · rw [hnone] at hd; cases hd
  · exact ⟨document?_of_mem_walk hv, hjoined v.1 (List.mem_map_of_mem hv)⟩
  · have hdf : DepthFirst x [(uri, 0)] [] ((x.walk uri).map (·.1) ++ []) := hwalks.depthFirst (Nat.zero_add _) .done
    rw [List.append_nil] at hdf
    exact ⟨fun h => hdf.unique h, fun h => h ▸ hdf⟩
  · unfold visitsUntil
    rw [visit_eq_forM]
    obtain ⟨k, hk, hnotes, hends⟩ := notes_forM stop (x.walk uri) []
    exact ⟨k, hk, hnotes, hends⟩
  · refine ⟨fun hd => ⟨(hwalks.mem_iff.1 hd).1, ?_⟩, fun ⟨hd, hreach⟩ => mem_walk_of_reachable hdepth hd hreach⟩
    obtain ⟨n, -, hj⟩ := hjoined d hd
    exact hj.reachable

end LuaAtlas.Index
