/-
Balanced visits. What a visit opens it closes again, and what has been gathered before stays as it is: chunks and
symbols are only appended, but for the variable that the innermost open chunk returns. So positions stay valid, and a
declaration stands in the chunks of the functions around it.
-/
import LuaAtlas.Proofs.Syntax.Nesting
import LuaAtlas.Proofs.Walk.Binding
import LuaAtlas.Proofs.Walk.Bodies
import LuaAtlas.Walk.Pass

namespace LuaAtlas.Walk

open LuaAtlas.Syntax Visit

/-! ## Sound states -/

/-- At the position `k` there is a chunk that is not open any more. -/
def Progress.Closed (s : Progress) (k : Nat) : Prop := k < s.chunks.length ∧ k ∉ s.openChunks

/-- A state whose positions are valid. -/
structure Progress.Sound (s : Progress) : Prop where
  /-- The open chunks are those of the stack, one by one. -/
  matching : s.openChunks.map (fun i => s.chunks[i]?.map Chunk.ref) = s.stack.map some
  owned : ∀ d ∈ s.drafts, ∀ k ∈ d.owned?, s.Closed k

namespace Progress.Sound

variable {s s' : Progress}

theorem start : Progress.start.Sound := ⟨rfl, fun d hd => by cases hd⟩

/-- Open chunks are there. -/
theorem lt_of_mem (h : s.Sound) {i : Nat} (hi : i ∈ s.openChunks) : i < s.chunks.length := by
  have hmem : s.chunks[i]?.map Chunk.ref ∈ s.stack.map some := by
    rw [← h.matching]
    exact List.mem_map_of_mem hi
  obtain ⟨r, -, hr⟩ := List.mem_map.1 hmem
  obtain ⟨k, hk, -⟩ := Option.map_eq_some_iff.1 hr.symm
  exact (List.getElem?_eq_some_iff.1 hk).1

/-- As long as the chunks that there are keep their names and ranges and only closed chunks are owned, a state with the
same open chunks is sound. -/
theorem of_kept (h : s.Sound) (hstack : s'.stack = s.stack) (hopen : s'.openChunks = s.openChunks)
    (hchunks : ∀ (i : Nat) (k : Chunk), s.chunks[i]? = some k → ∃ k' : Chunk, s'.chunks[i]? = some k' ∧ k'.ref = k.ref)
    (howned : ∀ d ∈ s'.drafts, ∀ k ∈ d.owned?, s'.Closed k) : s'.Sound := by
  refine ⟨?_, howned⟩
  rw [hstack, hopen, ← h.matching]
  refine List.map_congr_left fun i hi => ?_
  obtain ⟨k', hk', href⟩ := hchunks i _ (List.getElem?_eq_getElem (h.lt_of_mem hi))
  rw [hk', List.getElem?_eq_getElem (h.lt_of_mem hi), Option.map_some, Option.map_some, href]

end Progress.Sound

/-! ## Balanced states -/

/-- Only the innermost scope has more names. -/
inductive Widens : List (List String) → List (List String) → Prop
  | none : Widens [] []
  | inner {names names' : List String} {outer : List (List String)} : names ⊆ names' →
      Widens (names :: outer) (names' :: outer)

theorem Widens.refl : ∀ scopes : List (List String), Widens scopes scopes
  | [] => .none
  | names :: _ => .inner (List.Subset.refl names)

theorem Widens.trans {a b c : List (List String)} (h : Widens a b) (h' : Widens b c) : Widens a c := by
  cases h with
  | none => exact h'
  | inner hsub =>
    cases h' with
    | inner hsub' => exact .inner (List.Subset.trans hsub hsub')

theorem Widens.tail_eq {a b : List (List String)} (h : Widens a b) : b.tail = a.tail := by
  cases h <;> rfl

/-- What is told is only taken down, and the first event that tells what the cursor points at has settled it. -/
theorem Progress.tell_eq (aim : Aim) (e : Event) (s : Progress) : ∃ requires notes uses hit?,
    s.tell aim e = { s with requires := requires, notes := notes, uses := uses, hit? := hit? } ∧
      ∀ h, s.hit? = some h → hit? = some h := by
  cases aim with
  | symbols => cases e <;> exact ⟨_, _, _, _, rfl, fun _ h => h⟩
  | cursor p =>
    refine ⟨_, _, _, _, rfl, fun h hhit => ?_⟩
    rw [hhit, Option.some_or]
  | uses name =>
    cases e with
    | site site =>
      unfold tell
      dsimp only
      split
      · exact ⟨_, _, _, _, rfl, fun _ h => h⟩
      · exact ⟨_, _, _, _, rfl, fun _ h => h⟩
    | _ => exact ⟨_, _, _, _, rfl, fun _ h => h⟩

/-- What a visit leaves as it was, from the state `s` before it to the state `s'` behind it. -/
structure Balanced (s s' : Progress) : Prop where
  stack : s'.stack = s.stack
  openChunks : s'.openChunks = s.openChunks
  scopes : Widens s.scopes s'.scopes
  /-- The chunks from before are still there, and only the innermost open one may have learnt what it returns. -/
  chunks : ∀ (i : Nat) (k : Chunk), s.chunks[i]? = some k → ∃ k' : Chunk, s'.chunks[i]? = some k' ∧ k'.ref = k.ref ∧
    (s.openChunks.getLast? ≠ some i → k' = k)
  drafts : s.drafts <+: s'.drafts
  hit : ∀ h, s.hit? = some h → s'.hit? = some h

namespace Balanced

variable {s s' s'' : Progress}

/-- A state in which only notes and answers are added. -/
theorem of_same (hstack : s'.stack = s.stack) (hopen : s'.openChunks = s.openChunks) (hscopes : s'.scopes = s.scopes)
    (hchunks : s'.chunks = s.chunks) (hdrafts : s'.drafts = s.drafts) (hhit : ∀ h, s.hit? = some h → s'.hit? = some h) :
    Balanced s s' where
  stack := hstack
  openChunks := hopen
  scopes := hscopes ▸ .refl _
  chunks i k hk := ⟨k, by rw [hchunks, hk], rfl, fun _ => rfl⟩
  drafts := hdrafts ▸ List.prefix_refl _
  hit := hhit

theorem refl (s : Progress) : Balanced s s := of_same rfl rfl rfl rfl rfl fun _ h => h

theorem trans (h : Balanced s s') (h' : Balanced s' s'') : Balanced s s'' where
  stack := h'.stack.trans h.stack
  openChunks := h'.openChunks.trans h.openChunks
  scopes := h.scopes.trans h'.scopes
  chunks i k hk := by
    obtain ⟨k', hk', href, hkept⟩ := h.chunks i k hk
    obtain ⟨k'', hk'', href', hkept'⟩ := h'.chunks i k' hk'
    refine ⟨k'', hk'', href'.trans href, fun hi => ?_⟩
    rw [hkept' (h.openChunks ▸ hi), hkept hi]
  drafts := h.drafts.trans h'.drafts
  hit a ha := h'.hit a (h.hit a ha)

theorem length_chunks_le (h : Balanced s s') : s.chunks.length ≤ s'.chunks.length := by
  by_contra hlt
  have hi : s'.chunks.length < s.chunks.length := by omega
  obtain ⟨k', hk', -⟩ := h.chunks _ _ (List.getElem?_eq_getElem hi)
  have := (List.getElem?_eq_some_iff.1 hk').1
  omega

theorem closed (h : Balanced s s') {k : Nat} (hk : s.Closed k) : s'.Closed k :=
  ⟨Nat.lt_of_lt_of_le hk.1 h.length_chunks_le, h.openChunks ▸ hk.2⟩

/-- Sound states stay sound if only closed chunks become owned. -/
theorem sound (h : Balanced s s') (hs : s.Sound) (howned : ∀ d ∈ s'.drafts, ∀ k ∈ d.owned?, s'.Closed k) :
    s'.Sound := by
  refine hs.of_kept h.stack h.openChunks (fun i k hk => ?_) howned
  obtain ⟨k', hk', href, -⟩ := h.chunks i k hk
  exact ⟨k', hk', href⟩

/-! ## Single steps -/

theorem tell (aim : Aim) (e : Event) (s : Progress) : Balanced s (s.tell aim e) := by
  obtain ⟨requires, notes, uses, hit?, heq, hhit⟩ := s.tell_eq aim e
  rw [heq]
  exact of_same rfl rfl rfl rfl rfl hhit

theorem bind (names : List String) (s : Progress) : Balanced s (s.bind names) := by
  unfold Progress.bind
  split
  · exact refl s
  · rename_i inner outer hscopes
    refine { refl s with scopes := ?_ }
    rw [hscopes]
    exact .inner (List.subset_append_right _ _)

theorem draft (d : Declaration) (s : Progress) : Balanced s (s.draft d) :=
  { refl s with drafts := List.prefix_append _ _ }

/-- A visit in a scope of its own leaves all scopes as they were. -/
theorem ofScope (h : Balanced s.openScope s') : Balanced s s'.closeScope := by
  have hscopes : s'.scopes.tail = s.scopes := h.scopes.tail_eq
  exact { h with scopes := hscopes ▸ .refl _ }

/-- A visit in a chunk of its own leaves the chunks around as they were. -/
theorem ofChunk {name : String} {range : Range} (h : Balanced (s.openChunk name range) s') :
    Balanced s s'.closeChunk where
  stack := by
    show s'.stack.dropLast = _
    rw [h.stack]
    exact List.dropLast_concat
  openChunks := by
    show s'.openChunks.dropLast = _
    rw [h.openChunks]
    exact List.dropLast_concat
  scopes := h.scopes
  chunks i k hk := by
    have hi : i < s.chunks.length := (List.getElem?_eq_some_iff.1 hk).1
    have hk' : (s.openChunk name range).chunks[i]? = some k := (List.getElem?_append_left hi).trans hk
    obtain ⟨k', hk', href, hkept⟩ := h.chunks i k hk'
    refine ⟨k', hk', href, fun _ => hkept ?_⟩
    show (s.openChunks ++ [s.chunks.length]).getLast? ≠ some i
    rw [List.getLast?_concat]
    intro heq
    have := Option.some.inj heq
    omega
  drafts := h.drafts
  hit := h.hit

end Balanced

namespace Progress

variable {s s' : Progress}

theorem Sound.openChunk (h : s.Sound) (name : String) (range : Range) : (s.openChunk name range).Sound := by
  refine ⟨?_, fun d hd k hk => ?_⟩
  · show (s.openChunks ++ [s.chunks.length]).map _ = (s.stack ++ [_]).map some
    rw [List.map_append, List.map_append, ← h.matching]
    congr 1
    · refine List.map_congr_left fun i hi => ?_
      show ((s.chunks ++ [_])[i]?).map Chunk.ref = _
      rw [List.getElem?_append_left (h.lt_of_mem hi)]
    · show [((s.chunks ++ [_])[s.chunks.length]?).map Chunk.ref] = _
      rw [List.getElem?_concat_length]
      rfl
  · obtain ⟨hlt, hopen⟩ := h.owned d hd k hk
    refine ⟨?_, ?_⟩
    · show k < (s.chunks ++ [_]).length
      rw [List.length_append]
      omega
    · show k ∉ s.openChunks ++ [s.chunks.length]
      rw [List.mem_append, List.mem_singleton]
      rintro (hmem | rfl)
      · exact hopen hmem
      · exact Nat.lt_irrefl _ hlt

theorem Sound.closeChunk (h : s.Sound) : s.closeChunk.Sound := by
  refine ⟨?_, fun d hd k hk => ?_⟩
  · show s.openChunks.dropLast.map _ = s.stack.dropLast.map some
    rw [List.map_dropLast, List.map_dropLast]
    exact congrArg List.dropLast h.matching
  · obtain ⟨hlt, hopen⟩ := h.owned d hd k hk
    exact ⟨hlt, fun hmem => hopen (List.mem_of_mem_dropLast hmem)⟩

/-- The innermost open chunk learns which variable it returns. -/
theorem setReturn?_eq (h : s.Sound) (name : String) : ∃ s', s.setReturn? name = some s' ∧ s' =
    match s.openChunks.getLast? with
    | none => s
    | some i => { s with chunks := s.chunks.modify i fun k => { k with returnName? := some name } } := by
  unfold setReturn?
  cases hlast : s.openChunks.getLast? with
  | none => exact ⟨s, rfl, rfl⟩
  | some i =>
    have hi : i < s.chunks.length := h.lt_of_mem (List.mem_of_getLast? hlast)
    exact ⟨_, if_pos hi, rfl⟩

theorem setReturn?_balanced (h : s.Sound) {name : String} (hs' : s.setReturn? name = some s') : Balanced s s' := by
  obtain ⟨s'', hs'', heq⟩ := setReturn?_eq h name
  obtain rfl : s'' = s' := Option.some.inj (hs''.symm.trans hs')
  cases hlast : s.openChunks.getLast? with
  | none =>
    rw [hlast] at heq
    exact heq ▸ .refl s
  | some i =>
    rw [hlast] at heq
    subst heq
    refine { Balanced.refl s with chunks := fun j k hk => ?_ }
    show ∃ k', (s.chunks.modify i _)[j]? = some k' ∧ _
    rw [List.getElem?_modify, hk, Option.map_eq_map, Option.map_some]
    refine ⟨_, rfl, ?_, fun hj => ?_⟩
    · split <;> rfl
    · rw [if_neg]
      rintro rfl
      exact hj hlast

/-- The state in which the `i`-th symbol owns the `k`-th chunk, if there are both. -/
def owning (i? k? : Option Nat) (s : Progress) : Progress :=
  match i?, k? with
  | some i, some k => { s with drafts := s.drafts.modify i fun d => { d with owned? := some k } }
  | _, _ => s

theorem length_owning (i? k? : Option Nat) (s : Progress) : (s.owning i? k?).drafts.length = s.drafts.length := by
  unfold owning
  split
  · exact List.length_modify ..
  · rfl

/-- A symbol may own a closed chunk. -/
theorem Sound.owning (h : s.Sound) (i? : Option Nat) {k? : Option Nat} (hk : ∀ k ∈ k?, s.Closed k) :
    (s.owning i? k?).Sound := by
  unfold Progress.owning
  split
  · rename_i i k
    refine h.of_kept rfl rfl (fun j c hc => ⟨c, hc, rfl⟩) fun e he l hl => ?_
    obtain ⟨j, hj⟩ := List.getElem?_of_mem he
    rw [List.getElem?_modify] at hj
    obtain ⟨e', he', rfl⟩ := Option.map_eq_some_iff.1 hj
    split at hl
    · cases hl
      exact hk k rfl
    · exact h.owned e' (List.mem_of_getElem? he') l hl
  · exact h

/-- Symbols that have been declared since `s₀` may own chunks. -/
theorem owning_balanced {s₀ : Progress} (h : Balanced s₀ s) {i? : Option Nat} (k? : Option Nat)
    (hi : ∀ i ∈ i?, s₀.drafts.length ≤ i) : Balanced s₀ (s.owning i? k?) := by
  unfold owning
  split
  · rename_i i k
    have hsince := hi i rfl
    refine { h with drafts := ?_ }
    show s₀.drafts <+: s.drafts.modify i _
    rw [List.prefix_iff_getElem?]
    intro j hj
    have hne : i ≠ j := by omega
    rw [List.getElem?_modify, List.prefix_iff_getElem?.1 h.drafts j hj, Option.map_eq_map, Option.map_some, if_neg hne]
  · exact h

end Progress

/-! ## What visits end in -/

/-- The visit `m` does not break off, and `Q` holds of what it gives and of the run behind it. -/
def Ends {α : Type} (m : Visit α) (r : Run) (Q : α → Run → Prop) : Prop := ∃ a r', m r = some (a, r') ∧ Q a r'

namespace Ends

variable {α β : Type} {r : Run}

theorem pure {a : α} {Q : α → Run → Prop} (h : Q a r) : Ends (pure a) r Q := ⟨a, r, rfl, h⟩

theorem bind {m : Visit α} {f : α → Visit β} {Q : β → Run → Prop} (h : Ends m r fun a r' => Ends (f a) r' Q) :
    Ends (m >>= f) r Q := by
  obtain ⟨a, r', hm, b, r'', hf, hQ⟩ := h
  refine ⟨b, r'', ?_, hQ⟩
  show (m r).bind (fun p => f p.1 p.2) = _
  rw [hm]
  exact hf

theorem mono {m : Visit α} {P Q : α → Run → Prop} (h : Ends m r P) (hPQ : ∀ a r', P a r' → Q a r') : Ends m r Q := by
  obtain ⟨a, r', hm, hP⟩ := h
  exact ⟨a, r', hm, hPQ a r' hP⟩

/-- A visit ends in one way. -/
theorem and {m : Visit α} {P Q : α → Run → Prop} (h : Ends m r P) (h' : Ends m r Q) :
    Ends m r fun a r' => P a r' ∧ Q a r' := by
  obtain ⟨a, r', hm, hP⟩ := h
  obtain ⟨b, r'', hm', hQ⟩ := h'
  cases Option.some.inj (hm.symm.trans hm')
  exact ⟨a, r', hm, hP, hQ⟩

theorem now {Q : Progress → Run → Prop} (h : Q r.now r) : Ends Visit.now r Q := ⟨r.now, r, rfl, h⟩

theorem attempt {f : Progress → Option Progress} {s : Progress} {Q : Unit → Run → Prop} (hf : f r.now = some s)
    (h : Q () ⟨s, r.moments ++ [⟨s, none⟩]⟩) : Ends (Visit.attempt f) r Q := by
  refine ⟨(), _, ?_, h⟩
  unfold Visit.attempt
  rw [hf]
  rfl

theorem change {f : Progress → Progress} {Q : Unit → Run → Prop}
    (h : Q () ⟨f r.now, r.moments ++ [⟨f r.now, none⟩]⟩) : Ends (Visit.change f) r Q := attempt rfl h

/-- A symbol owns a chunk, or there is nothing to change. -/
theorem own {i? k? : Option Nat} (hi : ∀ i ∈ i?, i < r.now.drafts.length) {Q : Unit → Run → Prop}
    (hsame : r.now = r.now.owning i? k? → Q () r)
    (h : Q () ⟨r.now.owning i? k?, r.moments ++ [⟨r.now.owning i? k?, none⟩]⟩) : Ends (Visit.own i? k?) r Q := by
  cases i? with
  | none => exact pure (hsame rfl)
  | some i =>
    cases k? with
    | none => exact pure (hsame rfl)
    | some k => exact attempt (if_pos (hi i rfl)) h

/-- A pass that is done stays where it is. -/
theorem done {m : Visit Unit} {a : Document.Hit} (ha : r.now.hit? = some a) {Q : Unit → Run → Prop} (h : Q () r) :
    Ends (Visit.unlessDone m) r Q := by
  refine bind (now ?_)
  rw [Progress.isDone, ha]
  exact pure h

theorem undone {m : Visit Unit} (hnone : r.now.hit? = none) {Q : Unit → Run → Prop} (h : Ends m r Q) :
    Ends (Visit.unlessDone m) r Q := by
  refine bind (now ?_)
  rw [Progress.isDone, hnone]
  exact h

theorem unlessDone {m : Visit Unit} {Q : Unit → Run → Prop} (hdone : Q () r) (hm : Ends m r Q) :
    Ends (Visit.unlessDone m) r Q := by
  refine bind (now ?_)
  split
  · exact pure hdone
  · exact hm

end Ends

/-! ## Runs since a moment -/

/-- The chunk of a function as it encloses what stands in it. -/
def bodyRef (body : Option String × FuncBody) : ChunkRef := (bodyChunk body).ref

/-- The declaration `d`, made in the state `s`, is that of a name in one of the fragments `ps`, and the chunks around it
are those of `stack` and of the functions around the name. -/
def DeclaredIn (ps : List Fragment) (stack : List ChunkRef) (d : Declaration) (s : Progress) : Prop :=
  ∃ p ∈ ps, ∃ fs n, Inside p fs (.declared n) ∧ d.IsOf n ∧ s.stack = stack ++ fs.map bodyRef ∧ d.stack = s.stack

theorem DeclaredIn.mono {ps qs : List Fragment} {stack : List ChunkRef} {d : Declaration} {s : Progress}
    (h : DeclaredIn ps stack d s) (hsub : ps ⊆ qs) : DeclaredIn qs stack d s := by
  obtain ⟨p, hp, hspec⟩ := h
  exact ⟨p, hsub hp, hspec⟩

/-- What is declared in the children of a fragment is declared in it, inside its body if it is a function. -/
theorem DeclaredIn.parent {p : Fragment} {stack : List ChunkRef} {d : Declaration} {s : Progress}
    (h : DeclaredIn p.children (stack ++ p.bodies.map bodyRef) d s) : DeclaredIn [p] stack d s := by
  obtain ⟨c, hc, fs, n, hinside, hd, hstack, hd'⟩ := h
  refine ⟨p, List.mem_singleton_self p, p.bodies ++ fs, n, .child hc hinside, hd, ?_, hd'⟩
  rw [hstack, List.map_append, List.append_assoc]

/-- The run `r` goes on from `r₀`: it is balanced, all its moments are sound, and `P` holds of what is declared. -/
structure Since (P : Declaration → Progress → Prop) (r₀ r : Run) : Prop where
  balanced : Balanced r₀.now r.now
  sound : r.now.Sound
  moments : ∃ ms, r.moments = r₀.moments ++ ms ∧ ∀ m ∈ ms, m.progress.Sound ∧ ∀ d ∈ m.declared?, P d m.progress

namespace Since

variable {P Q : Declaration → Progress → Prop} {r₀ r r' : Run} {s : Progress}

theorem refl (hs : r.now.Sound) : Since P r r := ⟨.refl _, hs, [], by simp, by simp⟩

theorem trans (h : Since P r₀ r) (h' : Since P r r') : Since P r₀ r' := by
  obtain ⟨ms, hms, hsound⟩ := h.moments
  obtain ⟨ms', hms', hsound'⟩ := h'.moments
  refine ⟨h.balanced.trans h'.balanced, h'.sound, ms ++ ms', ?_, ?_⟩
  · rw [hms', hms, List.append_assoc]
  · exact List.forall_mem_append.2 ⟨hsound, hsound'⟩

theorem mono (h : Since P r₀ r) (hPQ : ∀ d s, P d s → Q d s) : Since Q r₀ r := by
  obtain ⟨ms, hms, hsound⟩ := h.moments
  exact ⟨h.balanced, h.sound, ms, hms, fun m hm => ⟨(hsound m hm).1, fun d hd => hPQ d _ ((hsound m hm).2 d hd)⟩⟩

/-- One more state. -/
theorem step (h : Since P r₀ r) (hs : s.Sound) (hbalanced : Balanced r₀.now s) :
    Since P r₀ ⟨s, r.moments ++ [⟨s, none⟩]⟩ := by
  obtain ⟨ms, hms, hsound⟩ := h.moments
  refine ⟨hbalanced, hs, ms ++ [⟨s, none⟩], ?_, ?_⟩
  · show r.moments ++ _ = _
    rw [hms, List.append_assoc]
  · refine List.forall_mem_append.2 ⟨hsound, List.forall_mem_singleton.2 ⟨hs, fun d hd => by cases hd⟩⟩

/-- One more declaration. -/
theorem mark (h : Since P r₀ r) {d : Declaration} (hd : P d r.now) :
    Since P r₀ ⟨r.now, r.moments ++ [⟨r.now, some d⟩]⟩ := by
  obtain ⟨ms, hms, hsound⟩ := h.moments
  refine ⟨h.balanced, h.sound, ms ++ [⟨r.now, some d⟩], ?_, ?_⟩
  · show r.moments ++ _ = _
    rw [hms, List.append_assoc]
  · refine List.forall_mem_append.2 ⟨hsound, List.forall_mem_singleton.2 ⟨h.sound, fun e he => ?_⟩⟩
    cases he
    exact hd

/-- What goes on between the state `s₁` and the state `s₂` that closes again what `s₁` has opened. -/
theorem bracket {s₁ s₂ : Progress} (hs₁ : s₁.Sound) (h : Since P ⟨s₁, r.moments ++ [⟨s₁, none⟩]⟩ r') (hs₂ : s₂.Sound)
    (hbalanced : Balanced r.now s₂) : Since P r ⟨s₂, r'.moments ++ [⟨s₂, none⟩]⟩ := by
  obtain ⟨ms, hms, hsound⟩ := h.moments
  refine ⟨hbalanced, hs₂, ⟨s₁, none⟩ :: ms ++ [⟨s₂, none⟩], ?_, fun m hm => ?_⟩
  · show r'.moments ++ _ = _
    rw [hms]
    simp
  · rcases List.mem_append.1 hm with hm | hm
    · rcases List.mem_cons.1 hm with rfl | hm
      · exact ⟨hs₁, fun d hd => by cases hd⟩
      · exact hsound m hm
    · cases List.mem_singleton.1 hm
      exact ⟨hs₂, fun d hd => by cases hd⟩

/-- A change that is balanced and lets no symbol own a chunk. -/
theorem change (h : Since P r₀ r) {f : Progress → Progress} (hbalanced : Balanced r.now (f r.now))
    (howned : ∀ d ∈ (f r.now).drafts, d ∈ r.now.drafts ∨ d.owned? = none) :
    Ends (Visit.change f) r fun _ r' => Since P r₀ r' ∧ r'.now = f r.now := by
  refine .change ⟨h.step (hbalanced.sound h.sound fun d hd k hk => ?_) (h.balanced.trans hbalanced), rfl⟩
  rcases howned d hd with hold | hnone
  · exact hbalanced.closed (h.sound.owned d hold k hk)
  · rw [hnone] at hk
    cases hk

end Since

/-! ## Visits that keep what there is -/

/-- The visit is balanced from every sound state, and it declares what stands in the fragments `ps`. -/
def Keeps (ps : List Fragment) (m : Visit Unit) : Prop :=
  ∀ r : Run, r.now.Sound → Ends m r fun _ r' => Since (DeclaredIn ps r.now.stack) r r'

/-- Besides, it gives the position of a closed chunk. -/
def KeepsChunk (ps : List Fragment) (m : Visit (Option Nat)) : Prop :=
  ∀ r : Run, r.now.Sound → Ends m r fun k? r' => Since (DeclaredIn ps r.now.stack) r r' ∧ ∀ k ∈ k?, r'.now.Closed k

/-- The symbol at this position was declared between `r₀` and `r`. -/
def Fresh (r₀ r : Run) (i? : Option Nat) : Prop := ∀ i ∈ i?, r₀.now.drafts.length ≤ i ∧ i < r.now.drafts.length

section

variable {ps qs : List Fragment} {r₀ r : Run}

theorem Fresh.later {P : Declaration → Progress → Prop} {r' : Run} {i? : Option Nat} (h : Fresh r₀ r i?)
    (h' : Since P r r') : Fresh r₀ r' i? :=
  fun i hi => ⟨(h i hi).1, Nat.lt_of_lt_of_le (h i hi).2 h'.balanced.drafts.length_le⟩

theorem Fresh.earlier {P : Declaration → Progress → Prop} {r' : Run} {i? : Option Nat} (h : Fresh r r' i?)
    (h' : Since P r₀ r) : Fresh r₀ r' i? :=
  fun i hi => ⟨Nat.le_trans h'.balanced.drafts.length_le (h i hi).1, (h i hi).2⟩

/-- What holds of the chunks around a run holds of those around where it goes on. -/
theorem Since.declaredIn {P : Declaration → Progress → Prop} {r' : Run} (h : Since P r₀ r)
    (h' : Since (DeclaredIn ps r.now.stack) r r') : Since (DeclaredIn ps r₀.now.stack) r r' := by
  rwa [h.balanced.stack] at h'

theorem Keeps.go {m : Visit Unit} (hm : Keeps ps m) (h : Since (DeclaredIn ps r₀.now.stack) r₀ r) :
    Ends m r fun _ r' => Since (DeclaredIn ps r₀.now.stack) r₀ r' :=
  (hm r h.sound).mono fun _ _ h' => h.trans (h.declaredIn h')

theorem KeepsChunk.go {m : Visit (Option Nat)} (hm : KeepsChunk ps m) (h : Since (DeclaredIn ps r₀.now.stack) r₀ r) :
    Ends m r fun k? r' => Since (DeclaredIn ps r₀.now.stack) r₀ r' ∧ ∀ k ∈ k?, r'.now.Closed k :=
  (hm r h.sound).mono fun _ _ h' => ⟨h.trans (h.declaredIn h'.1), h'.2⟩

namespace Keeps

variable {m m' : Visit Unit}

theorem mono (hm : Keeps ps m) (hsub : ps ⊆ qs) : Keeps qs m :=
  fun r hr => (hm r hr).mono fun _ _ h => h.mono fun _ _ hd => hd.mono hsub

theorem of_mem {p : Fragment} (hm : Keeps [p] m) (hp : p ∈ ps) : Keeps ps m :=
  hm.mono (List.cons_subset.2 ⟨hp, List.nil_subset _⟩)

/-- A visit of the children of a fragment that is no function. -/
theorem parent {p : Fragment} (hm : Keeps p.children m) (hp : p.bodies = []) : Keeps [p] m := by
  refine fun r hr => (hm r hr).mono fun _ _ h => h.mono fun _ _ hd => DeclaredIn.parent ?_
  rwa [hp, List.map_nil, List.append_nil]

theorem pure : Keeps ps (Pure.pure ()) := fun _ hr => .pure (.refl hr)

theorem seq (hm : Keeps ps m) (hm' : Keeps ps m') : Keeps ps (m >>= fun _ => m') :=
  fun r hr => .bind ((hm r hr).mono fun _ _ h => hm'.go h)

theorem append (hm : Keeps ps m) (hm' : Keeps qs m') : Keeps (ps ++ qs) (m >>= fun _ => m') :=
  (hm.mono (List.subset_append_left ..)).seq (hm'.mono (List.subset_append_right ..))

theorem unlessDone (hm : Keeps ps m) : Keeps ps (Visit.unlessDone m) := fun r hr => .unlessDone (.refl hr) (hm r hr)

theorem change {f : Progress → Progress} (hbalanced : ∀ s, Balanced s (f s))
    (howned : ∀ s, ∀ d ∈ (f s).drafts, d ∈ s.drafts ∨ d.owned? = none) : Keeps ps (Visit.change f) :=
  fun r hr => ((Since.refl hr).change (hbalanced r.now) (howned r.now)).mono fun _ _ h => h.1

theorem bind (names : List String) : Keeps ps (Visit.change (.bind names)) := by
  refine change (Balanced.bind names) fun s d hd => .inl ?_
  unfold Progress.bind at hd
  split at hd <;> exact hd

theorem tellOne (aim : Aim) (e : Event) : Keeps ps (Visit.change (.tell aim e)) := by
  refine change (Balanced.tell aim e) fun s d hd => .inl ?_
  obtain ⟨requires, notes, uses, hit?, heq, -⟩ := s.tell_eq aim e
  rwa [heq] at hd

theorem tell (aim : Aim) : ∀ es : List Event, Keeps ps (Visit.tell aim es)
  | [] => pure
  | e :: es => (tellOne aim e).seq (tell aim es)

theorem tellUse (aim : Aim) (e : Expr) : Keeps ps (Visit.tellUse aim e) :=
  fun r hr => .bind (.now (tell aim _ r hr))

theorem tellEquated (aim : Aim) (b : Binding) (e : Expr) : Keeps ps (Visit.tellEquated aim b e) := tell aim _

theorem forM {α : Type} {f : α → Visit Unit} : ∀ {as : List α}, (∀ a ∈ as, Keeps ps (f a)) → Keeps ps (as.forM f)
  | [], _ => pure
  | _ :: _, h => seq (List.forall_mem_cons.1 h).1 (forM (List.forall_mem_cons.1 h).2)

/-- A scope that is opened is closed again. -/
theorem inScope (hm : Keeps ps m) : Keeps ps (Visit.inScope m) := by
  intro r hr
  have hopened : r.now.openScope.Sound := ⟨hr.matching, hr.owned⟩
  refine .bind (.change (.bind ((hm _ hopened).mono fun _ r' h => ?_)))
  have hclosed : r'.now.closeScope.Sound := ⟨h.sound.matching, h.sound.owned⟩
  exact .change (.bracket hopened h hclosed (.ofScope h.balanced))

/-- A chunk that is opened is closed again. -/
theorem inChunk (hm : Keeps ps m) (name : String) (range : Range) (hr : r.now.Sound) :
    Ends (Visit.inChunk name range m) r fun k? r' =>
      Since (DeclaredIn ps (r.now.stack ++ [⟨name, range⟩])) r r' ∧ ∀ k ∈ k?, r'.now.Closed k := by
  have hopened := hr.openChunk name range
  refine .bind (.now (.bind (.change (.bind ((hm _ hopened).mono fun _ r' h => ?_)))))
  have hbalanced : Balanced r.now r'.now.closeChunk := .ofChunk h.balanced
  refine .bind (.change (.pure ⟨.bracket hopened h h.sound.closeChunk hbalanced, fun k hk => ?_⟩))
  cases hk
  refine ⟨?_, fun hmem => Nat.lt_irrefl _ (hr.lt_of_mem (hbalanced.openChunks ▸ hmem))⟩
  have hlength : (r.now.openChunk name range).chunks.length ≤ r'.now.chunks.length := h.balanced.length_chunks_le
  have hnew : (r.now.openChunk name range).chunks.length = r.now.chunks.length + 1 := List.length_append
  show r.now.chunks.length < r'.now.chunks.length
  omega

end Keeps

/-- A declaration of a name among the fragments gives the position of a new symbol, if it gives any. -/
theorem Since.declare (h : Since (DeclaredIn ps r₀.now.stack) r₀ r) (aim : Aim) {d : Declaration} {n : Declared}
    (hstack : d.stack = r.now.stack) (hd : d.IsOf n) (hn : .declared n ∈ ps) :
    Ends (declare aim d) r fun i? r' => Since (DeclaredIn ps r₀.now.stack) r₀ r' ∧ Fresh r₀ r' i? := by
  have hin : DeclaredIn ps r₀.now.stack d r.now := by
    refine ⟨_, hn, [], n, .refl _, hd, ?_, hstack⟩
    rw [h.balanced.stack, List.map_nil, List.append_nil]
  refine .bind ⟨(), _, rfl, ?_⟩
  have hmarked := h.mark hin
  cases aim with
  | symbols =>
    refine .bind (.now (.bind ((hmarked.change (Balanced.draft d r.now) fun e he => ?_).mono ?_)))
    · rcases List.mem_append.1 he with he | he
      · exact .inl he
      · cases List.mem_singleton.1 he
        exact .inr rfl
    · rintro _ r' ⟨hr', hnow⟩
      refine .pure ⟨hr', fun i hi => ?_⟩
      cases hi
      have hlength : r'.now.drafts.length = r.now.drafts.length + 1 := by
        rw [hnow]
        exact List.length_append
      have hle := h.balanced.drafts.length_le
      show r₀.now.drafts.length ≤ r.now.drafts.length ∧ r.now.drafts.length < _
      omega
  | _ =>
    refine .bind (((Keeps.tell _ [siteOf d]).go hmarked).mono fun _ r' hr' => .pure ⟨hr', fun i hi => ?_⟩)
    cases hi

theorem Since.declareIf (h : Since (DeclaredIn ps r₀.now.stack) r₀ r) (condition : Bool) (aim : Aim) {d : Declaration}
    {n : Declared} (hstack : d.stack = r.now.stack) (hd : d.IsOf n) (hn : .declared n ∈ ps) :
    Ends (declareIf condition aim d) r fun i? r' => Since (DeclaredIn ps r₀.now.stack) r₀ r' ∧ Fresh r₀ r' i? := by
  unfold Visit.declareIf
  split
  · exact h.declare aim hstack hd hn
  · exact .pure ⟨h, fun i hi => by cases hi⟩

/-- A symbol that was declared since may own a closed chunk. -/
theorem Since.own {P : Declaration → Progress → Prop} (h : Since P r₀ r) {i? k? : Option Nat} (hi : Fresh r₀ r i?)
    (hk : ∀ k ∈ k?, r.now.Closed k) :
    Ends (Visit.own i? k?) r fun _ r' => Since P r₀ r' ∧ r'.now = r.now.owning i? k? := by
  have hbalanced := Progress.owning_balanced h.balanced k? fun i hi' => (hi i hi').1
  exact .own (fun i hi' => (hi i hi').2) (fun hsame => ⟨h, hsame⟩) ⟨h.step (h.sound.owning i? hk) hbalanced, rfl⟩

/-- The value of a symbol that was declared since. Other symbols declared since are still there behind it. -/
theorem KeepsChunk.ownValue {m : Visit (Option Nat)} (hm : KeepsChunk ps m)
    (h : Since (DeclaredIn ps r₀.now.stack) r₀ r) {i? : Option Nat} (hi : Fresh r₀ r i?) :
    Ends (ownValue i? m) r fun _ r' =>
      Since (DeclaredIn ps r₀.now.stack) r₀ r' ∧ ∀ j?, Fresh r₀ r j? → Fresh r₀ r' j? := by
  refine .bind ((hm r h.sound).mono fun k? r' h' => ?_)
  refine ((h.trans (h.declaredIn h'.1)).own (hi.later h'.1) h'.2).mono fun _ r'' h'' => ⟨h''.1, fun j? hj i hi => ?_⟩
  rw [h''.2, Progress.length_owning]
  exact hj.later h'.1 i hi

/-- A declaration of a name whose value is visited behind it. -/
theorem Since.declareValue (h : Since (DeclaredIn ps r₀.now.stack) r₀ r) (aim : Aim) {d : Declaration} {n : Declared}
    (hstack : d.stack = r.now.stack) (hd : d.IsOf n) (hn : .declared n ∈ ps) {m : Visit (Option Nat)}
    (hm : KeepsChunk ps m) :
    Ends (do ownValue (← Visit.declare aim d) m) r fun _ r' => Since (DeclaredIn ps r₀.now.stack) r₀ r' :=
  .bind ((h.declare aim hstack hd hn).mono fun _ _ h' => (hm.ownValue h'.1 h'.2).mono fun _ _ h'' => h''.1)

theorem KeepsChunk.mono {m : Visit (Option Nat)} (hm : KeepsChunk ps m) (hsub : ps ⊆ qs) : KeepsChunk qs m :=
  fun r hr => (hm r hr).mono fun _ _ h => ⟨h.1.mono fun _ _ hd => hd.mono hsub, h.2⟩

theorem KeepsChunk.of_mem {m : Visit (Option Nat)} {p : Fragment} (hm : KeepsChunk [p] m) (hp : p ∈ ps) :
    KeepsChunk ps m := hm.mono (List.cons_subset.2 ⟨hp, List.nil_subset _⟩)

/-- A visit of the children of a function in the chunk of this function. -/
theorem KeepsChunk.function {m : Visit Unit} {name? : Option String} {implicit : List Ident} {f : FuncBody}
    (hm : Keeps (Fragment.function name? implicit f).children m) :
    KeepsChunk [.function name? implicit f] (inChunk (name?.getD (anonymousName f)) f.range m) :=
  fun _ hr => (hm.inChunk _ _ hr).mono fun _ _ h => ⟨h.1.mono fun _ _ hd => hd.parent, h.2⟩

theorem KeepsChunk.parent {m : Visit (Option Nat)} {p : Fragment} (hm : KeepsChunk p.children m) (hp : p.bodies = []) :
    KeepsChunk [p] m := by
  refine fun r hr => (hm r hr).mono fun _ _ h => ⟨h.1.mono fun _ _ hd => DeclaredIn.parent ?_, h.2⟩
  rwa [hp, List.map_nil, List.append_nil]

theorem KeepsChunk.seq {m : Visit Unit} {m' : Visit (Option Nat)} (hm : Keeps ps m) (hm' : KeepsChunk ps m') :
    KeepsChunk ps (m >>= fun _ => m') := fun r hr => .bind ((hm r hr).mono fun _ _ h => hm'.go h)

/-- A visit that gives the position of no chunk. -/
theorem Keeps.noChunk {m : Visit Unit} (hm : Keeps ps m) : KeepsChunk ps (do m; return none) :=
  fun r hr => .bind ((hm r hr).mono fun _ _ h => .pure ⟨h, fun k hk => by cases hk⟩)

/-- A visit that gives no chunk to any symbol. -/
theorem KeepsChunk.forget {m : Visit (Option Nat)} (hm : KeepsChunk ps m) : Keeps ps (do let _ ← m) :=
  fun r hr => .bind ((hm r hr).mono fun _ _ h => .pure h.1)

/-! ## Visits around the visits of parts -/

variable (aim : Aim)

/-- A declaration by the context of the pass. -/
theorem Keeps.declare {d : Context → Declaration} {n : Declared} (hstack : ∀ c, (d c).stack = c.stack)
    (hd : ∀ c, (d c).IsOf n) (hn : .declared n ∈ ps) :
    Keeps ps (do let s ← now; let _ ← Visit.declare aim (d s.context)) := by
  refine fun r hr => .bind (.now (.bind (((Since.refl hr).declare aim (hstack _) (hd _) hn).mono ?_)))
  exact fun _ _ h => .pure h.1

theorem Keeps.declareIf (condition : Bool) {d : Context → Declaration} {n : Declared}
    (hstack : ∀ c, (d c).stack = c.stack) (hd : ∀ c, (d c).IsOf n) (hn : .declared n ∈ ps) :
    Keeps ps (do let s ← now; let _ ← Visit.declareIf condition aim (d s.context)) := by
  refine fun r hr => .bind (.now (.bind (((Since.refl hr).declareIf condition aim (hstack _) (hd _) hn).mono ?_)))
  exact fun _ _ h => .pure h.1

theorem keeps_localVisit {x : Ident} (hx : x.fragment ∈ ps) : Keeps ps (localVisit aim x) :=
  .seq (.bind [x.name]) (.declare aim (d := (localVar · x)) (fun _ => rfl) (fun c => isOf_localVar c x) hx)

theorem keeps_locals {xs : List Ident} (hxs : xs.map Ident.fragment ⊆ ps) : Keeps ps (xs.forM (localVisit aim)) :=
  .forM fun _ hx => keeps_localVisit aim (hxs (List.mem_map_of_mem hx))

theorem keeps_selfVisit {receiver? : Option (String × Range)}
    (hself : ((receiver?.map fun r => Ident.mk "self" r.2).toList).map Ident.fragment ⊆ ps) :
    Keeps ps (selfVisit aim receiver?) := by
  cases receiver? with
  | none => exact .pure
  | some receiver =>
    exact .seq (.bind ["self"]) (.declareIf aim _ (d := (selfDeclaration · receiver.1 receiver.2)) (fun _ => rfl)
      (fun c => isOf_self c ..) (hself (List.mem_singleton_self _)))

theorem keeps_returnVisit (name? : Option String) : Keeps ps (returnVisit name?) := by
  cases name? with
  | none => exact .pure
  | some name =>
    intro r hr
    obtain ⟨s, hs, -⟩ := Progress.setReturn?_eq hr name
    have hbalanced := Progress.setReturn?_balanced hr hs
    refine .attempt hs ((Since.refl hr).step (hbalanced.sound hr fun d hd k hk => ?_) hbalanced)
    have hdrafts : s.drafts = r.now.drafts := by
      unfold Progress.setReturn? at hs
      split at hs
      · cases hs
        rfl
      · split at hs
        · cases hs
          rfl
        · cases hs
    rw [hdrafts] at hd
    exact hbalanced.closed (hr.owned d hd k hk)

theorem keeps_annotationsVisit (as : List Annotation) : Keeps ps (annotationsVisit aim as) := by
  unfold annotationsVisit
  split
  · exact .change (fun s => .of_same rfl rfl rfl rfl rfl fun _ h => h) fun s d hd => .inl hd
  · exact .pure

theorem keeps_callVisit (binding? : Option Binding) (callee : Expr) (args : List Expr) (range : Range)
    {m m' : Visit Unit} (hm : Keeps ps m) (hm' : Keeps qs m') :
    Keeps (ps ++ qs) (callVisit aim binding? callee args range m m') := hm.append ((Keeps.tell aim _).seq hm')

theorem keeps_memberVisit (e : Expr) {m : Visit Unit} (hm : Keeps ps m) : Keeps ps (memberVisit aim e m) :=
  .unlessDone (hm.seq (.tellUse aim e))

theorem keeps_indexVisit (e : Expr) {m m' : Visit Unit} (hm : Keeps ps m) (hm' : Keeps qs m') :
    Keeps (ps ++ qs) (indexVisit aim e m m') := by
  refine .unlessDone (hm.append ?_)
  split
  · exact .tellUse aim e
  · exact hm'

theorem keeps_entryVisit {base : Binding} {name : String} {key : Range} {value : Expr} {m : Visit (Option Nat)}
    (hn : .declared ⟨name, key, some value⟩ ∈ ps) (hm : KeepsChunk ps m) :
    Keeps ps (entryVisit aim base name key value m) := by
  refine fun r hr => .bind (.now ?_)
  exact (Since.refl hr).declareValue aim (d := entryDeclaration r.now.context base name key value)
    (withValue_stack ..) (isOf_entryDeclaration ..) hn hm

/-! ### Values with names -/

/-- Both visits of a value are balanced. -/
structure Visit.Value.Keeps (v : Value) : Prop where
  plain : Walk.Keeps [.expr none v.value] v.plain
  bound : ∀ b : Binding, KeepsChunk [.expr (some b.name) v.value] (v.bound b)

theorem ends_declareLocals : ∀ (xs : List Ident) (vs : List Expr) {r : Run}, localFragments xs vs ⊆ ps →
    r.now.Sound → Ends (declareLocals aim xs vs) r fun bs r' =>
      Since (DeclaredIn ps r.now.stack) r r' ∧ (∀ b ∈ bs, Fresh r r' b.2) ∧
        bs.map (fun b => some b.1.name) = xs.map fun x => some x.name
  | [], _, _, _, hr => .pure ⟨.refl hr, by simp, rfl⟩
  | x :: xs, vs, r, hps, hr => by
    obtain ⟨hx, hxs⟩ := List.cons_subset.1 hps
    refine .bind (.now (.bind (((Since.refl hr).declare aim (d := localDeclaration r.now.context x vs.head?)
      (withValue_stack ..) (isOf_localDeclaration ..) hx).mono ?_)))
    rintro i? r' ⟨h, hi⟩
    refine .bind ((ends_declareLocals xs vs.tail hxs h.sound).mono ?_)
    rintro bs r'' ⟨h', hbs, hnames⟩
    refine .pure ⟨h.trans (h.declaredIn h'), List.forall_mem_cons.2 ⟨hi.later h', fun b hb => ?_⟩, ?_⟩
    · exact (hbs b hb).earlier h
    · rw [List.map_cons, List.map_cons, hnames]

/-- Values that are given to new symbols. -/
theorem ends_giveValues {rest : Visit Unit} (hrest : Keeps ps rest) :
    ∀ (bs : List (Binding × Option Nat)) (vs : List Value) {r : Run},
      valueFragments (bs.map fun b => some b.1.name) (vs.map (·.value)) ⊆ ps → (∀ v ∈ vs, v.Keeps) →
      (∀ b ∈ bs, Fresh r₀ r b.2) → Since (DeclaredIn ps r₀.now.stack) r₀ r →
      Ends (giveValues bs vs rest) r fun _ r' => Since (DeclaredIn ps r₀.now.stack) r₀ r'
  | _, [], _, _, _, _, h => by
    rw [giveValues]
    exact hrest.go h
  | [], v :: vs, r, hps, hvs, hbs, h => by
    obtain ⟨hv, hps⟩ := List.cons_subset.1 hps
    obtain ⟨hkeeps, hvs⟩ := List.forall_mem_cons.1 hvs
    rw [giveValues]
    refine .unlessDone h (.bind (((hkeeps.plain.of_mem hv).go h).mono fun _ r' h' => ?_))
    exact ends_giveValues hrest [] vs hps hvs (fun b hb => by cases hb) h'
  | (b, i?) :: bs, v :: vs, r, hps, hvs, hbs, h => by
    obtain ⟨hv, hps⟩ := List.cons_subset.1 hps
    obtain ⟨hkeeps, hvs⟩ := List.forall_mem_cons.1 hvs
    obtain ⟨hi, hbs⟩ := List.forall_mem_cons.1 hbs
    rw [giveValues]
    refine .unlessDone h (.bind ((((hkeeps.bound b).of_mem hv).ownValue h hi).mono fun _ r' h' => ?_))
    exact ends_giveValues hrest bs vs hps hvs (fun b hb => h'.2 _ (hbs b hb)) h'.1

theorem keeps_localsVisit {names : List Ident} {values : List Value}
    (hnames : localFragments names (values.map (·.value)) ⊆ ps)
    (hps : valueFragments (names.map fun x => some x.name) (values.map (·.value)) ⊆ ps)
    (hvalues : ∀ v ∈ values, v.Keeps) : Keeps ps (localsVisit aim names values) := by
  refine fun r hr => .bind ((ends_declareLocals aim names _ hnames hr).mono ?_)
  rintro bs r' ⟨h, hbs, heq⟩
  exact ends_giveValues (.bind _) bs values (heq ▸ hps) hvalues hbs h

theorem keeps_placeVisit {t : Expr} {value? : Option Value}
    (hplace : declaredNameIf t.dottedName? t.range (value?.map (·.value)) ⊆ ps)
    (hvalue : ∀ v ∈ value?, v.Keeps ∧ .expr t.dottedName? v.value ∈ ps) : Keeps ps (placeVisit aim t value?) := by
  unfold placeVisit
  split
  · rename_i hname
    split
    · rename_i v
      rw [hname] at hvalue
      exact (hvalue v rfl).1.plain.of_mem (hvalue v rfl).2
    · exact .pure
  · rename_i name hname
    have hn : .declared ⟨name, t.range, value?.map (·.value)⟩ ∈ ps := by
      rw [hname] at hplace
      exact hplace (List.mem_singleton_self _)
    refine fun r hr => .bind (.now (.bind (((Since.refl hr).declareIf _ aim
      (d := targetDeclaration r.now.context ..) (withValue_stack ..) (isOf_targetDeclaration ..) hn).mono ?_)))
    rintro i? r' ⟨h, hi⟩
    split
    · rename_i v
      obtain ⟨hkeeps, hv⟩ := hvalue v rfl
      rw [hname] at hv
      exact (((hkeeps.bound _).of_mem hv).ownValue h hi).mono fun _ _ h' => h'.1
    · exact .pure h

theorem keeps_assignVisit : ∀ {ts : List (Expr × Visit Unit)} {vs : List Value},
    targetFragments (ts.map (·.1)) (vs.map (·.value)) ⊆ ps →
    valueFragments ((ts.map (·.1)).map Expr.dottedName?) (vs.map (·.value)) ⊆ ps →
    (∀ t ∈ ts, Keeps [.expr none t.1] t.2) → (∀ v ∈ vs, v.Keeps) → Keeps ps (assignVisit aim ts vs)
  | [], [], _, _, _, _ => .pure
  | [], v :: vs, htargets, hps, hts, hvs => by
    obtain ⟨hv, hps⟩ := List.cons_subset.1 hps
    obtain ⟨hkeeps, hvs⟩ := List.forall_mem_cons.1 hvs
    rw [assignVisit]
    have hrest : Keeps ps (assignVisit aim [] vs) := keeps_assignVisit htargets hps hts hvs
    exact (hkeeps.plain.of_mem hv).seq hrest
  | (t, target) :: ts, vs, htargets, hps, hts, hvs => by
    obtain ⟨ht, htargets⟩ := List.cons_subset.1 htargets
    obtain ⟨hplace, htargets⟩ := List.append_subset.1 htargets
    obtain ⟨hkeeps, hts⟩ := List.forall_mem_cons.1 hts
    obtain ⟨hvalue, hps⟩ : (∀ v ∈ vs.head?, v.Keeps ∧ .expr t.dottedName? v.value ∈ ps) ∧
        valueFragments ((ts.map (·.1)).map Expr.dottedName?) (vs.tail.map (·.value)) ⊆ ps := by
      cases vs with
      | nil => exact ⟨nofun, List.nil_subset _⟩
      | cons v vs =>
        obtain ⟨hv, hps⟩ := List.cons_subset.1 hps
        refine ⟨fun w hw => ?_, hps⟩
        cases hw
        exact ⟨hvs v (List.mem_cons_self ..), hv⟩
    rw [List.head?_map] at hplace
    rw [← List.map_tail] at htargets
    rw [assignVisit]
    refine .unlessDone ((hkeeps.of_mem ht).seq ((keeps_placeVisit aim hplace hvalue).seq ?_))
    exact keeps_assignVisit htargets hps hts fun v hv => hvs v (List.mem_of_mem_tail hv)

theorem receiver?_of_unnamed {name : Expr} (h : name.dottedName? = none) : receiver? name = none := by
  have hself := implicitSelf_of_unnamed h
  rw [implicitSelf_eq] at hself
  cases hreceiver : receiver? name with
  | none => rfl
  | some receiver =>
    rw [hreceiver] at hself
    cases hself

theorem keeps_declarationVisit {isLocal : Bool} {name : Expr} {f : FuncBody}
    {body : String → Option (String × Range) → Visit (Option Nat)}
    (hname : declaredNameIf name.dottedName? name.range (some (.func f)) ⊆ ps)
    (hbody : KeepsChunk ps (body (name.dottedName?.getD (anonymousName f)) (receiver? name))) :
    Keeps ps (declarationVisit aim isLocal name f body) := by
  unfold declarationVisit
  split
  · rename_i hdotted
    rw [hdotted, receiver?_of_unnamed hdotted] at hbody
    exact hbody.forget
  · rename_i dotted hdotted
    rw [hdotted] at hbody
    have hn : .declared ⟨dotted, name.range, some (.func f)⟩ ∈ ps := by
      rw [hdotted] at hname
      exact hname (List.mem_singleton_self _)
    refine fun r hr => .bind (.now (.bind (((Since.refl hr).declareIf _ aim
      (d := functionDeclaration r.now.context ..) rfl (isOf_function ..) hn).mono fun _ _ h => ?_)))
    exact (hbody.ownValue h.1 h.2).mono fun _ _ h' => h'.1

end

/-! ## The visits of parts -/

theorem map_valueVisits (aim : Aim) (vs : List Expr) :
    (valueVisits aim vs).map (·.value) = vs := by
  induction vs with
  | nil => rfl
  | cons v vs ih => rw [valueVisits, List.map_cons, ih]

theorem map_targetVisits (aim : Aim) (ts : List Expr) :
    (targetVisits aim ts).map (·.1) = ts := by
  induction ts with
  | nil => rfl
  | cons t ts ih => rw [targetVisits, List.map_cons, ih]

section

variable (aim : Aim)

mutual

theorem keeps_exprVisit : ∀ e : Expr, Keeps [.expr none e] (exprVisit aim e)
  | .ident id => by
    rw [exprVisit]
    exact .unlessDone (.tellUse aim _)
  | .member base accessor field range => by
    rw [exprVisit]
    exact .parent (keeps_memberVisit aim _ (keeps_exprVisit base)) rfl
  | .index base key range => by
    rw [exprVisit]
    exact .parent (keeps_indexVisit aim _ (keeps_exprVisit base) (keeps_exprVisit key)) rfl
  | .call callee args range => by
    rw [exprVisit]
    exact .parent (.unlessDone (keeps_callVisit aim _ _ _ _ (keeps_exprVisit callee) (keeps_exprsVisit args))) rfl
  | .func f => by
    rw [exprVisit]
    exact .parent (.unlessDone (keepsChunk_functionVisit none none f).forget) rfl
  | .table entries range => by
    rw [exprVisit]
    exact .parent (.unlessDone (keeps_entriesVisit none entries)) rfl
  | .binary left right range => by
    rw [exprVisit]
    exact .parent (.unlessDone ((keeps_exprVisit left).append (keeps_exprVisit right))) rfl
  | .unary operand range => by
    rw [exprVisit]
    exact .parent (.unlessDone (keeps_exprVisit operand)) rfl
  | .paren inner range => by
    rw [exprVisit]
    exact .parent (.unlessDone (keeps_exprVisit inner)) rfl
  | .string .. | .number .. | .literal _ | .vararg _ => by
    rw [exprVisit]
    exact .pure

theorem keeps_exprsVisit : ∀ es : List Expr, Keeps (es.map (.expr none)) (exprsVisit aim es)
  | [] => by
    rw [exprsVisit]
    exact .pure
  | e :: es => by
    rw [exprsVisit]
    exact (keeps_exprVisit e).append (keeps_exprsVisit es)

theorem keepsChunk_valueVisit (b : Binding) : ∀ e : Expr, KeepsChunk [.expr (some b.name) e] (valueVisit aim b e)
  | .func f => by
    rw [valueVisit]
    exact .parent (keepsChunk_functionVisit (some b.name) none f) rfl
  | .table entries range => by
    rw [valueVisit]
    exact .parent (keeps_entriesVisit (some b) entries).noChunk rfl
  | .call callee args range => by
    rw [valueVisit]
    exact .parent (keeps_callVisit aim _ _ _ _ (keeps_exprVisit callee) (keeps_exprsVisit args)).noChunk rfl
  | .paren inner range => by
    rw [valueVisit]
    exact .parent (keepsChunk_valueVisit b inner) rfl
  | .ident id => by
    rw [valueVisit]
    exact .seq (.unlessDone (.tellUse aim _)) (Keeps.tellEquated aim b _).noChunk
  | .member base accessor field range => by
    rw [valueVisit]
    exact .parent (.seq (keeps_memberVisit aim _ (keeps_exprVisit base)) (Keeps.tellEquated aim b _).noChunk) rfl
  | .index base key range => by
    rw [valueVisit]
    exact .parent (.seq (keeps_indexVisit aim _ (keeps_exprVisit base) (keeps_exprVisit key))
      (Keeps.tellEquated aim b _).noChunk) rfl
  | .binary left right range => by
    rw [valueVisit]
    exact .parent (Keeps.unlessDone ((keeps_exprVisit left).append (keeps_exprVisit right))).noChunk rfl
  | .unary operand range => by
    rw [valueVisit]
    exact .parent (Keeps.unlessDone (keeps_exprVisit operand)).noChunk rfl
  | .string .. | .number .. | .literal _ | .vararg _ => by
    rw [valueVisit]
    exact Keeps.pure.noChunk

theorem keeps_valueVisits : ∀ vs : List Expr, ∀ v ∈ valueVisits aim vs, v.Keeps
  | [] => by
    rw [valueVisits]
    exact fun v hv => by cases hv
  | e :: es => by
    rw [valueVisits]
    exact List.forall_mem_cons.2 ⟨⟨keeps_exprVisit e, fun b => keepsChunk_valueVisit b e⟩, keeps_valueVisits es⟩

theorem keeps_entriesVisit (base? : Option Binding) :
    ∀ es : List TableEntry, Keeps (es.map (.entry (base?.map (·.name)))) (entriesVisit aim base? es)
  | [] => by
    rw [entriesVisit]
    exact .pure
  | e :: es => by
    rw [entriesVisit]
    exact .unlessDone ((keeps_tableEntryVisit base? e).append (keeps_entriesVisit base? es))

theorem keeps_tableEntryVisit (base? : Option Binding) :
    ∀ e : TableEntry, Keeps [.entry (base?.map (·.name)) e] (tableEntryVisit aim base? e)
  | .named key value => by
    refine .parent ?_ rfl
    cases base? with
    | none =>
      simp only [tableEntryVisit, entryName?, Option.map_none]
      exact keeps_exprVisit value
    | some base =>
      simp only [tableEntryVisit, entryName?, Option.map_some]
      refine keeps_entryVisit aim (List.mem_cons_self ..) ((keepsChunk_valueVisit _ value).of_mem ?_)
      exact List.mem_cons_of_mem _ (List.mem_singleton_self _)
  | .indexed key value => by
    refine .parent ?_ rfl
    cases base? with
    | none =>
      simp only [tableEntryVisit, entryName?, Option.bind_none]
      exact (keeps_exprVisit key).append (keeps_exprVisit value)
    | some base =>
      rw [Fragment.children]
      cases hkey : key.keySuffix? with
      | none =>
        simp only [tableEntryVisit, entryName?, Option.bind_some, Option.map_some, hkey, Option.map_none]
        exact (keeps_exprVisit key).append (keeps_exprVisit value)
      | some suffix =>
        simp only [tableEntryVisit, entryName?, Option.bind_some, Option.map_some, hkey]
        refine keeps_entryVisit aim ?_ ((keepsChunk_valueVisit _ value).of_mem ?_)
        · exact List.mem_cons_of_mem _ (List.mem_cons_self ..)
        · exact List.mem_cons_of_mem _ (List.mem_cons_of_mem _ (List.mem_singleton_self _))
  | .positional value => by
    rw [tableEntryVisit]
    exact .parent (keeps_exprVisit value) rfl

theorem keepsChunk_functionVisit (name? : Option String) (receiver? : Option (String × Range)) : ∀ f : FuncBody,
    KeepsChunk [.function name? ((receiver?.map fun r => Ident.mk "self" r.2).toList) f]
      (functionVisit aim (name?.getD (anonymousName f)) receiver? f)
  | .mk params isVararg body range => by
    rw [functionVisit]
    refine .function (f := .mk params isVararg body range) (.inScope ?_)
    rw [Fragment.children, List.map_append, List.append_assoc]
    exact (keeps_selfVisit aim (List.Subset.refl _)).append
      ((keeps_locals aim (List.Subset.refl _)).append (keeps_blockVisit body))

theorem keeps_blockVisit : ∀ b : Block, Keeps [.block b] (blockVisit aim b)
  | .mk stmts range => by
    rw [blockVisit]
    exact .parent (.inScope (keeps_stmtsVisit stmts)) rfl

theorem keeps_stmtsVisit : ∀ ss : List Stmt, Keeps (ss.map .stmt) (stmtsVisit aim ss)
  | [] => by
    rw [stmtsVisit]
    exact .pure
  | s :: ss => by
    rw [stmtsVisit]
    exact .unlessDone ((keeps_stmtVisit s).append (keeps_stmtsVisit ss))

theorem keeps_clausesVisit : ∀ cs : List Clause, Keeps (cs.flatMap clauseFragments) (clausesVisit aim cs)
  | [] => by
    rw [clausesVisit]
    exact .pure
  | .mk (some condition) body :: cs => by
    rw [clausesVisit]
    exact (keeps_exprVisit condition).append ((keeps_blockVisit body).append (keeps_clausesVisit cs))
  | .mk none body :: cs => by
    rw [clausesVisit]
    exact (keeps_blockVisit body).append (keeps_clausesVisit cs)

theorem keeps_stmtVisit : ∀ s : Stmt, Keeps [.stmt s] (stmtVisit aim s)
  | .localVars names values range => by
    rw [stmtVisit]
    refine .parent (keeps_localsVisit aim ?_ ?_ (keeps_valueVisits values)) rfl
    · rw [map_valueVisits]
      exact List.subset_append_left ..
    · rw [map_valueVisits]
      exact List.subset_append_right ..
  | .assign targets values range => by
    rw [stmtVisit]
    refine .parent (keeps_assignVisit aim ?_ ?_ (keeps_targetVisits targets) (keeps_valueVisits values)) rfl
    · rw [map_valueVisits, map_targetVisits]
      exact List.subset_append_left ..
    · rw [map_valueVisits, map_targetVisits]
      exact List.subset_append_right ..
  | .funcDecl isLocal name f range => by
    rw [stmtVisit]
    have hbody := keepsChunk_functionVisit name.dottedName? (receiver? name) f
    rw [← implicitSelf_eq] at hbody
    refine .parent (.seq (.bind _) ((keeps_exprVisit name).append (keeps_declarationVisit aim ?_ ?_))) rfl
    · exact List.subset_append_left ..
    · exact hbody.of_mem (List.mem_append_right _ (List.mem_singleton_self _))
  | .call callee args range => by
    rw [stmtVisit]
    exact .parent (keeps_callVisit aim _ _ _ _ (keeps_exprVisit callee) (keeps_exprsVisit args)) rfl
  | .ret values range => by
    rw [stmtVisit]
    exact .parent ((keeps_returnVisit _).seq (keeps_exprsVisit values)) rfl
  | .branch clauses range => by
    rw [stmtVisit]
    exact .parent (keeps_clausesVisit clauses) rfl
  | .whileLoop condition body range => by
    rw [stmtVisit]
    exact .parent ((keeps_exprVisit condition).append (keeps_blockVisit body)) rfl
  | .repeatLoop body condition range => by
    rw [stmtVisit]
    exact .parent ((keeps_blockVisit body).append (keeps_exprVisit condition)) rfl
  | .doBlock body range => by
    rw [stmtVisit]
    exact .parent (keeps_blockVisit body) rfl
  | .numericFor x start limit (some step) body range => by
    rw [stmtVisit]
    exact .parent ((keeps_exprVisit start).append ((keeps_exprVisit limit).append ((keeps_exprVisit step).append
      (.inScope ((keeps_localVisit aim (List.mem_singleton_self _)).append (keeps_blockVisit body)))))) rfl
  | .numericFor x start limit none body range => by
    rw [stmtVisit]
    exact .parent ((keeps_exprVisit start).append ((keeps_exprVisit limit).append
      (.inScope ((keeps_localVisit aim (List.mem_singleton_self _)).append (keeps_blockVisit body))))) rfl
  | .genericFor xs iterators body range => by
    rw [stmtVisit]
    refine .parent ?_ rfl
    rw [Fragment.children, List.append_assoc]
    exact (keeps_exprsVisit iterators).append
      (.inScope ((keeps_locals aim (List.Subset.refl _)).append (keeps_blockVisit body)))

theorem keeps_targetVisits : ∀ ts : List Expr, ∀ t ∈ targetVisits aim ts, Keeps [.expr none t.1] t.2
  | [] => by
    rw [targetVisits]
    exact fun t ht => by cases ht
  | t :: ts => by
    rw [targetVisits]
    exact List.forall_mem_cons.2 ⟨keeps_exprVisit t, keeps_targetVisits ts⟩

end

end

end LuaAtlas.Walk
