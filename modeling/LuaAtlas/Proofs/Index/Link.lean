/-
The link loop. Linking the requires of one document is described by one equation: every target is
there afterwards, as it was or as its file has it, with the document among its referrers, and all
else is as before. Only registered modules that have no document are loaded, so the loop over the
pending documents ends before its fuel does, and what one round keeps the whole loop keeps.
-/
import LuaAtlas.Proofs.Index.Rebuild
import Mathlib.Data.List.Perm.Subperm

namespace LuaAtlas.Index

open LuaAtlas.Syntax

/-! ## What a file has to say -/

/-- The document that a required URI gets on first access: that of its file, or a placeholder. -/
def onDisk (x : Index) (disk : Disk) (uri : Uri) : Document :=
  match x.diskText? disk uri with
  | some text => .build .workspace uri (parse text)
  | none => .placeholder uri

theorem onDisk_readable {x : Index} {disk : Disk} {uri : Uri} {text : String} (h : x.diskText? disk uri = some text) :
    x.onDisk disk uri = .build .workspace uri (parse text) := by
  unfold onDisk; rw [h]

theorem onDisk_unreadable {x : Index} {disk : Disk} {uri : Uri} (h : x.diskText? disk uri = none) :
    x.onDisk disk uri = .placeholder uri := by
  unfold onDisk; rw [h]

@[simp] theorem onDisk_uri (x : Index) (disk : Disk) (uri : Uri) : (x.onDisk disk uri).uri = uri := by
  cases h : x.diskText? disk uri with
  | none => rw [onDisk_unreadable h]; rfl
  | some text => rw [onDisk_readable h, Document.build_uri]

@[simp] theorem onDisk_bare (x : Index) (disk : Disk) (uri : Uri) : (x.onDisk disk uri).bare = x.onDisk disk uri := by
  cases h : x.diskText? disk uri with
  | none => rw [onDisk_unreadable h]; rfl
  | some text => rw [onDisk_readable h, Document.build_bare]

@[simp] theorem onDisk_referencedBy (x : Index) (disk : Disk) (uri : Uri) : (x.onDisk disk uri).referencedBy = [] := by
  rw [← onDisk_bare]; rfl

theorem diskText?_congr {x y : Index} (h : y.config = x.config) (disk : Disk) (uri : Uri) :
    y.diskText? disk uri = x.diskText? disk uri := by
  unfold diskText?; rw [h]

theorem onDisk_congr {x y : Index} (h : y.config = x.config) (disk : Disk) (uri : Uri) :
    y.onDisk disk uri = x.onDisk disk uri := by
  unfold onDisk; rw [diskText?_congr h]

theorem load?_new {x : Index} {uri : Uri} (disk : Disk) (h : x.document? uri = none) :
    x.load? disk uri = (x.diskText? disk uri).map fun _ =>
      { x with workspace := x.workspace.insert (x.onDisk disk uri) } := by
  have hlib : (x.library .workspace).find? uri = none := h
  have hrebuild : ∀ text, (x.rebuild .workspace uri text).1 =
      { x with workspace := x.workspace.insert (.build .workspace uri (parse text)) } := by
    intro text
    have hkept : x.isKept .workspace uri text = false := by simp [isKept, hlib]
    have hstale : ∀ d, x.stale uri d = [] := by intro d; unfold stale; rw [h]; rfl
    rw [rebuild_workspace hkept, hstale, replacement_new hlib]
    rfl
  unfold load?
  cases hp : uri.path? with
  | none => simp [diskText?, hp]
  | some path =>
    cases ht : (disk.readSource path x.config.maxFileSize).toOption with
    | none => simp [diskText?, hp, ht]
    | some text =>
      have hd : x.diskText? disk uri = some text := by simp [diskText?, hp, ht]
      rw [onDisk_readable hd, hd, ← hrebuild text]
      simp [ht]

/-! ## Linking the requires of one document -/

/-- What linking the document of `uri` to the targets `ts` makes of `x`: every target is there, as it
was or as its file has it, and knows `uri` as a referrer; `loaded` are those read from their files. -/
structure Linked (disk : Disk) (uri : Uri) (ts : List Uri) (x y : Index) (loaded : List Uri) : Prop where
  frame : Frame x y
  document : ∀ v, y.document? v =
    if v ∈ ts then some (((x.document? v).getD (x.onDisk disk v)).addReference uri) else x.document? v
  loaded_iff : ∀ v, v ∈ loaded ↔ v ∈ ts ∧ x.document? v = none ∧ (x.diskText? disk v).isSome
  nodup : loaded.Nodup

theorem Linked.refl (disk : Disk) (uri : Uri) (x : Index) : Linked disk uri [] x x [] :=
  ⟨Frame.refl x, by simp, by simp, List.nodup_nil⟩

/-- The targets are there; of all else nothing comes or goes. -/
theorem Linked.none_iff {disk : Disk} {uri : Uri} {ts loaded : List Uri} {x y : Index}
    (h : Linked disk uri ts x y loaded) {v : Uri} : y.document? v = none ↔ v ∉ ts ∧ x.document? v = none := by
  rw [h.document]
  by_cases hv : v ∈ ts <;> simp [hv]

theorem Linked.append {disk : Disk} {uri : Uri} {ts ts' l l' : List Uri} {x y z : Index}
    (h : Linked disk uri ts x y l) (h' : Linked disk uri ts' y z l') :
    Linked disk uri (ts ++ ts') x z (l ++ l') := by
  have hloaded : ∀ v, v ∈ l' ↔ v ∈ ts' ∧ (v ∉ ts ∧ x.document? v = none) ∧ (x.diskText? disk v).isSome := by
    intro v
    rw [h'.loaded_iff, h.none_iff, diskText?_congr h.frame.config]
  refine ⟨h.frame.trans h'.frame, fun v => ?_, fun v => ?_, ?_⟩
  · rw [h'.document, h.document, onDisk_congr h.frame.config]
    by_cases hv : v ∈ ts <;> by_cases hv' : v ∈ ts' <;> simp [hv, hv']
  · rw [List.mem_append, List.mem_append, h.loaded_iff, hloaded]
    by_cases hv : v ∈ ts <;> simp [hv]
  · refine List.nodup_append.2 ⟨h.nodup, h'.nodup, fun a ha b hb hab => ?_⟩
    subst hab
    exact ((hloaded a).1 hb).2.1.1 ((h.loaded_iff a).1 ha).1

theorem linkTarget_linked (disk : Disk) (uri : Uri) (x : Index) (t : Uri) :
    Linked disk uri [t] x (linkTarget disk uri x t).1 (linkTarget disk uri x t).2 := by
  have hadd : ∀ d : Document, (d.addReference uri).uri = d.uri := fun d => Document.addReference_uri d uri
  have hinsert : ∀ v, ({ x with workspace := x.workspace.insert (x.onDisk disk t) }.changeDocument t
      (·.addReference uri)).document? v =
      if v = t then some ((x.onDisk disk t).addReference uri) else x.document? v := by
    intro v
    rw [document?_changeDocument _ t hadd, document?_insert, onDisk_uri]
    by_cases hv : v = t <;> simp [hv]
  have hframe := (frame_insert x (x.onDisk disk t)).trans (frame_changeDocument _ t hadd)
  unfold linkTarget
  cases hx : x.document? t with
  | some d =>
    have hc : x.workspace.contains t = true := Library.contains_iff.2 ⟨d, hx⟩
    rw [if_pos hc]
    refine ⟨frame_changeDocument x t hadd, fun v => ?_, by simp [hx], List.nodup_nil⟩
    dsimp only
    rw [document?_changeDocument x t hadd]
    by_cases hv : v = t
    · subst hv; simp [hx]
    · simp [hv]
  | none =>
    have hc : ¬ x.workspace.contains t = true := by
      rw [Library.contains_iff]
      rintro ⟨d, hd⟩
      exact Option.some_ne_none d (hd.symm.trans hx)
    rw [if_neg hc, load?_new disk hx]
    cases ht : x.diskText? disk t with
    | some text =>
      refine ⟨hframe, fun v => (hinsert v).trans ?_, fun v => ?_, List.nodup_singleton t⟩
      · by_cases hv : v = t <;> simp [hv, hx]
      · constructor
        · intro hv; rw [List.mem_singleton.1 hv]; simp [hx, ht]
        · exact fun hv => hv.1
    | none =>
      dsimp only [Option.map_none]
      rw [← onDisk_unreadable ht]
      refine ⟨hframe, fun v => (hinsert v).trans ?_, fun v => ?_, List.nodup_nil⟩
      · by_cases hv : v = t <;> simp [hv, hx]
      · constructor
        · intro hv; cases hv
        · rintro ⟨hv, -, hs⟩; rw [List.mem_singleton.1 hv, ht] at hs; cases hs

theorem linked_foldl (disk : Disk) (uri : Uri) : ∀ (ts : List Uri) (x : Index) (acc : List Uri),
    ∃ y loaded, ts.foldl (fun (y, loaded) t =>
        let (z, more) := linkTarget disk uri y t
        (z, loaded ++ more)) (x, acc) = (y, acc ++ loaded) ∧ Linked disk uri ts x y loaded
  | [], x, acc => ⟨x, [], by simp, Linked.refl disk uri x⟩
  | t :: ts, x, acc => by
    have h := linkTarget_linked disk uri x t
    obtain ⟨y, loaded, heq, h'⟩ :=
      linked_foldl disk uri ts (linkTarget disk uri x t).1 (acc ++ (linkTarget disk uri x t).2)
    refine ⟨y, (linkTarget disk uri x t).2 ++ loaded, ?_, h.append h'⟩
    rw [List.foldl_cons, ← List.append_assoc, ← heq]

/-- Linking the requires of the document of `uri` links it to all its targets. -/
theorem linkRequires_linked (disk : Disk) {x : Index} {uri : Uri} {d : Document} (h : x.document? uri = some d) :
    Linked disk uri (x.targets d) x (linkRequires disk x uri).1 (linkRequires disk x uri).2 := by
  unfold linkRequires
  rw [h]
  obtain ⟨y, loaded, heq, hl⟩ := linked_foldl disk uri (x.targets d) x []
  dsimp only
  rw [heq]
  exact hl

/-- Linking removes no document and changes at most its referrers. -/
theorem Linked.old {disk : Disk} {uri : Uri} {ts loaded : List Uri} {x y : Index} (h : Linked disk uri ts x y loaded)
    {v : Uri} {d : Document} (hd : x.document? v = some d) :
    y.document? v = some (if v ∈ ts then d.addReference uri else d) := by
  rw [h.document, hd]
  by_cases hv : v ∈ ts <;> simp [hv]

theorem Linked.old_bare {disk : Disk} {uri : Uri} {ts loaded : List Uri} {x y : Index}
    (h : Linked disk uri ts x y loaded) {v : Uri} {d : Document} (hd : x.document? v = some d) :
    ∃ e, y.document? v = some e ∧ e.bare = d.bare := by
  refine ⟨_, h.old hd, ?_⟩
  split
  · exact Document.addReference_bare ..
  · rfl

/-- A document that linking adds is a target, as its file has it, and has the one referrer. -/
theorem Linked.new {disk : Disk} {uri : Uri} {ts loaded : List Uri} {x y : Index} (h : Linked disk uri ts x y loaded)
    {v : Uri} {e : Document} (hx : x.document? v = none) (he : y.document? v = some e) :
    v ∈ ts ∧ e = (x.onDisk disk v).addReference uri := by
  rw [h.document, hx] at he
  by_cases hv : v ∈ ts
  · rw [if_pos hv] at he
    exact ⟨hv, (Option.some.inj he).symm⟩
  · rw [if_neg hv] at he; cases he

/-- The documents of the targets know the referrer. -/
theorem Linked.target {disk : Disk} {uri : Uri} {ts loaded : List Uri} {x y : Index} (h : Linked disk uri ts x y loaded)
    {v : Uri} (hv : v ∈ ts) : ∃ e, y.document? v = some e ∧ uri ∈ e.referencedBy :=
  ⟨_, by rw [h.document, if_pos hv], Document.mem_addReference.2 (.inr rfl)⟩

/-- With the loaded documents, those that were pending are still there. -/
theorem Linked.present {disk : Disk} {uri : Uri} {ts loaded rest : List Uri} {x y : Index}
    (h : Linked disk uri ts x y loaded) (hrest : ∀ v ∈ rest, ∃ d, x.document? v = some d) :
    ∀ v ∈ rest ++ loaded, ∃ d, y.document? v = some d := by
  intro v hv
  rcases List.mem_append.1 hv with hv | hv
  · obtain ⟨e, he⟩ := hrest v hv
    exact ⟨_, h.old he⟩
  · obtain ⟨e, he, -⟩ := h.target ((h.loaded_iff v).1 hv).1
    exact ⟨e, he⟩

/-! ## The loop -/

/-- The registered URIs without a workspace document. -/
def unloaded (x : Index) : List Uri := (x.modules.map (·.2)).filter fun u => (x.document? u).isNone

/-- Every document that a round loads was registered and had no document. -/
theorem Linked.unloaded_le {disk : Disk} {uri : Uri} {ts loaded : List Uri} {x y : Index}
    (h : Linked disk uri ts x y loaded) (hts : ts ⊆ x.modules.map (·.2)) :
    loaded.length + y.unloaded.length ≤ x.unloaded.length := by
  -- of the URIs unloaded before, those unloaded after and the loaded ones are different parts
  have hy : y.unloaded = x.unloaded.filter fun u => (y.document? u).isNone := by
    unfold unloaded
    rw [h.frame.modules, List.filter_filter]
    refine List.filter_congr fun u _ => ?_
    cases hx : x.document? u with
    | none => simp
    | some d => rw [h.old hx]; rfl
  have hloaded : loaded ⊆ x.unloaded.filter fun u => !(y.document? u).isNone := by
    intro v hv
    obtain ⟨hvt, hx, -⟩ := (h.loaded_iff v).1 hv
    obtain ⟨e, he, -⟩ := h.target hvt
    unfold unloaded
    simp only [List.mem_filter]
    exact ⟨⟨hts hvt, by rw [hx]; rfl⟩, by rw [he]; rfl⟩
  have hle := (List.subperm_of_subset h.nodup hloaded).length_le
  have hsum := List.length_eq_length_filter_add (l := x.unloaded) fun u => (y.document? u).isNone
  rw [hy]
  omega

/-- What a round keeps, the loop keeps: with enough fuel for the pending documents and those still to
load, it ends with nothing pending. -/
theorem linkPending_rounds {disk : Disk} {P : List Uri → Index → Prop}
    (round : ∀ pending u d x, P (pending ++ [u]) x → x.document? u = some d →
      P (pending ++ (linkRequires disk x u).2) (linkRequires disk x u).1) :
    ∀ (n : Nat) (pending : List Uri) (x : Index), pending.length + x.unloaded.length ≤ n →
      (∀ u ∈ pending, ∃ d, x.document? u = some d) → P pending x → P [] (linkPending disk n pending x)
  | 0, pending, x, hn, _, hi => by
    have hp : pending = [] := List.length_eq_zero_iff.1 (by omega)
    subst hp
    exact hi
  | n + 1, pending, x, hn, hd, hi => by
    unfold linkPending
    rcases List.eq_nil_or_concat pending with rfl | ⟨rest, u, rfl⟩
    · exact hi
    · rw [List.concat_eq_append] at *
      rw [List.getLast?_concat, List.dropLast_concat]
      obtain ⟨d, hu⟩ := hd u (by simp)
      have hl := linkRequires_linked disk hu
      have hle := hl.unloaded_le (targets_subset x d)
      show P [] (linkPending disk n (rest ++ (linkRequires disk x u).2) (linkRequires disk x u).1)
      have hrest : ∀ v ∈ rest, ∃ d, x.document? v = some d := fun v hv => hd v (by simp [hv])
      refine linkPending_rounds round n _ _ ?_ (hl.present hrest) (round rest u d x hi hu)
      simp only [List.length_append, List.length_singleton] at hn ⊢
      omega

/-- What a round keeps, linking a document keeps, until nothing is pending. -/
theorem link_rounds {disk : Disk} {P : List Uri → Index → Prop} {x : Index} {uri : Uri} {d : Document}
    (hd : x.document? uri = some d)
    (round : ∀ pending u d x, P (pending ++ [u]) x → x.document? u = some d →
      P (pending ++ (linkRequires disk x u).2) (linkRequires disk x u).1)
    (hi : P [uri] x) : P [] (link disk x uri) := by
  refine linkPending_rounds round _ [uri] x ?_ ?_ hi
  · have hle : x.unloaded.length ≤ x.modules.length := by
      unfold unloaded
      simpa using List.length_filter_le (fun u => (x.document? u).isNone) (x.modules.map (·.2))
    simp only [List.length_singleton]
    omega
  · intro u hu
    rw [List.mem_singleton.1 hu]
    exact ⟨d, hd⟩

/-- What linking the targets of one document keeps, linking a document keeps, until nothing is pending. -/
theorem link_induction {disk : Disk} {P : List Uri → Index → Prop} {x : Index} {uri : Uri} {d : Document}
    (hd : x.document? uri = some d)
    (round : ∀ pending u d x y loaded, P (pending ++ [u]) x → x.document? u = some d →
      Linked disk u (x.targets d) x y loaded → P (pending ++ loaded) y)
    (hi : P [uri] x) : P [] (link disk x uri) :=
  link_rounds hd (fun pending u d x hp hu => round pending u d x _ _ hp hu (linkRequires_linked disk hu)) hi

/-- Linking removes no document. -/
theorem link_old {disk : Disk} {x : Index} {uri v : Uri} {d e : Document} (hd : x.document? uri = some d)
    (he : x.document? v = some e) : ∃ e', (link disk x uri).document? v = some e' ∧ e'.bare = e.bare := by
  refine link_induction (P := fun _ y => ∃ e', y.document? v = some e' ∧ e'.bare = e.bare) hd ?_ ⟨e, he, rfl⟩
  rintro pending u d' x' y loaded ⟨e', he', hb⟩ hu hl
  obtain ⟨f, hf, hfb⟩ := hl.old_bare he'
  exact ⟨f, hf, hfb.trans hb⟩

/-- A document that linking adds is as its file has it, and some document requires it. -/
theorem link_new {disk : Disk} {x : Index} {uri v : Uri} {d e : Document} (hd : x.document? uri = some d)
    (hx : x.document? v = none) (he : (link disk x uri).document? v = some e) :
    e.bare = x.onDisk disk v ∧ ∃ p g, (link disk x uri).document? p = some g ∧ v ∈ x.targets g := by
  have hi : Frame x (link disk x uri) ∧ ∀ e, (link disk x uri).document? v = some e →
      e.bare = x.onDisk disk v ∧ ∃ p g, (link disk x uri).document? p = some g ∧ v ∈ x.targets g := by
    refine link_induction (P := fun _ y => Frame x y ∧ ∀ e, y.document? v = some e →
      e.bare = x.onDisk disk v ∧ ∃ p g, y.document? p = some g ∧ v ∈ x.targets g) hd ?_
      ⟨Frame.refl x, fun e he => by rw [hx] at he; cases he⟩
    rintro pending u d y z loaded ⟨hf, hy⟩ hu hl
    refine ⟨hf.trans hl.frame, fun e he => ?_⟩
    cases hyv : y.document? v with
    | some e₀ =>
      obtain ⟨e', he', hb⟩ := hl.old_bare hyv
      cases he.symm.trans he'
      obtain ⟨hb₀, p, g, hg, ht⟩ := hy e₀ hyv
      obtain ⟨g', hg', hgb⟩ := hl.old_bare hg
      exact ⟨hb.trans hb₀, p, g', hg', (targets_congr (x := x) rfl hgb).symm ▸ ht⟩
    | none =>
      obtain ⟨ht, rfl⟩ := hl.new hyv he
      obtain ⟨d', hd', hdb⟩ := hl.old_bare hu
      refine ⟨?_, u, d', hd', ?_⟩
      · rw [Document.addReference_bare, onDisk_bare, onDisk_congr hf.config]
      · rw [targets_congr rfl hdb, ← targets_congr hf.modules rfl]
        exact ht
  exact hi.2 e he

end LuaAtlas.Index
