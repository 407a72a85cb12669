/-
What a pass gathers. As long as it is not done, a pass meets the events of what it visits, in their order, and takes
from each of them what it is made for: a cursor the first thing that is hit, a pass for the uses of a name all of its
places, and a pass for symbols chunks, required modules, notes and the declarations that count. A visit is told by the
context that it starts in, the context that it ends in and its events; two such visits are put together as their
events are.
-/
import LuaAtlas.Proofs.Walk.Balance
import LuaAtlas.Proofs.Walk.Contents
import LuaAtlas.Proofs.Walk.Globals

namespace LuaAtlas.Walk

open LuaAtlas.Syntax LuaAtlas.Declare Visit

/-! ## What is taken from events -/

/-- What an event tells about the cursor of a pass. -/
def Aim.hitOf? : Aim → Event → Option Document.Hit
  | .cursor p, e => Document.hitOf? p e
  | _, _ => none

/-- Where an event writes `name`. -/
def occurrence? (name : String) : Event → Option Range
  | .site s => if s.name = name then some s.range else none
  | _ => none

/-- Whether an event is about the value of a symbol. -/
def isNote : Event → Bool
  | .equated .. | .metatable .. | .called .. => true
  | _ => false

/-- Whether an event is neither a declaration nor the beginning of a chunk. -/
def isTold : Event → Bool
  | .declared _ | .opened _ => false
  | _ => true

/-- The `i`-th chunk returns the variable `name`, if there are both. -/
def returning (name? : Option String) (i? : Option Nat) (ks : List Chunk) : List Chunk :=
  match i?, name? with
  | some i, some name => ks.modify i fun k => { k with returnName? := some name }
  | _, _ => ks

/-- A declaration without the chunk that it owns. -/
def Declaration.unowned (d : Declaration) : Declaration := { d with ownedChunk? := none }

/-- What a pass for symbols gathers from events, from the state `s` to the state `s'`. -/
structure Gathers (es : List Event) (ret? : Option String) (s s' : Progress) : Prop where
  chunks : s'.chunks = returning ret? s.openChunks.getLast? s.chunks ++ Declare.chunks es
  known : s'.known = ((effective s.known es).map (Name.normalize ·.name)).reverse ++ s.known
  requires : s'.requires = s.requires ++ Declare.requires es
  annotations : s'.annotations = s.annotations
  notes : s'.notes = s.notes ++ es.filter isNote

/-- What any pass takes from events that it meets before it is done. -/
structure Met (aim : Aim) (es : List Event) (ret? : Option String) (s s' : Progress) : Prop where
  hit : s'.hit? = es.findSome? aim.hitOf?
  uses : ∀ name, aim = .uses name → s'.uses = s.uses ++ es.filterMap (occurrence? name)
  gathers : aim = .symbols → Gathers es ret? s s'

/-- Besides, new declarations follow the declarations `ds`, and the locals in scope are in the end those of `c`. -/
structure Gathered (aim : Aim) (c : Context) (ret? : Option String) (es : List Event) (ds : List Declaration)
    (s s' : Progress) : Prop extends Met aim es ret? s s' where
  declarations : aim = .symbols → s'.declarations = ds ++ effective s.known es
  locals : s'.hit? = none → ∀ n, n ∈ s'.scopes.flatten ↔ n ∈ c.locals

/-! ### Lists -/

theorem modify_append_left {α : Type} (f : α → α) : ∀ {as : List α} {i : Nat} (bs : List α), i < as.length →
    (as ++ bs).modify i f = as.modify i f ++ bs
  | a :: as, 0, bs, _ => rfl
  | a :: as, i + 1, bs, h => by
    rw [List.cons_append, List.modify_succ_cons, List.modify_succ_cons, List.cons_append,
      modify_append_left f bs (Nat.lt_of_succ_lt_succ h)]

theorem modify_length_append {α : Type} (f : α → α) (a : α) (bs : List α) : ∀ as : List α,
    (as ++ a :: bs).modify as.length f = as ++ f a :: bs
  | [] => rfl
  | a' :: as => by
    rw [List.cons_append, List.length_cons, List.modify_succ_cons, modify_length_append f a bs as, List.cons_append]

theorem map_modify {α β : Type} {f : α → β} {g : α → α} {g' : β → β} (h : ∀ a, f (g a) = g' (f a)) (as : List α)
    (i : Nat) : (as.modify i g).map f = (as.map f).modify i g' := by
  refine List.ext_getElem? fun j => ?_
  rw [List.getElem?_map, List.getElem?_modify, List.getElem?_modify, List.getElem?_map]
  cases as[j]? with
  | none => rfl
  | some a =>
    show some _ = some _
    dsimp only
    split
    · rw [h]
    · rfl

@[simp] theorem returning_none (i? : Option Nat) (ks : List Chunk) : returning none i? ks = ks := by
  cases i? <;> rfl

theorem length_returning (name? : Option String) (i? : Option Nat) (ks : List Chunk) :
    (returning name? i? ks).length = ks.length := by
  unfold returning
  split
  · exact List.length_modify ..
  · rfl

theorem returning_append (name? : Option String) {i? : Option Nat} {ks : List Chunk} (hi : ∀ i ∈ i?, i < ks.length)
    (ls : List Chunk) : returning name? i? (ks ++ ls) = returning name? i? ks ++ ls := by
  unfold returning
  split
  · exact modify_append_left _ ls (hi _ rfl)
  · rfl

/-- The later of two returned variables counts. -/
theorem returning_returning (name? name?' : Option String) (i? : Option Nat) (ks : List Chunk) :
    returning name?' i? (returning name? i? ks) = returning (name?'.or name?) i? ks := by
  cases i? with
  | none => rfl
  | some i =>
    cases name?' with
    | none => exact returning_none ..
    | some name' =>
      cases name? with
      | none => rfl
      | some name => exact List.modify_modify_eq ..

/-! ### Events in a row -/

theorem hitOf?_eq_none {aim : Aim} (h : ∀ p, aim ≠ .cursor p) (e : Event) : aim.hitOf? e = none := by
  cases aim with
  | cursor p => exact absurd rfl (h p)
  | _ => rfl

section

variable {aim : Aim} {es es' : List Event} {ret? ret?' : Option String} {ds ds' : List Declaration} {c c' : Context}
  {s s₁ s₂ : Progress}

namespace Met

/-- A pass that is done is one for a cursor. -/
theorem eq_cursor (h : Met aim es ret? s s₁) {a : Document.Hit} (ha : s₁.hit? = some a) : ∃ p, aim = .cursor p := by
  by_contra hne
  have hnone : es.findSome? aim.hitOf? = none :=
    List.findSome?_eq_none_iff.2 fun e _ => hitOf?_eq_none (fun p hp => hne ⟨p, hp⟩) e
  rw [h.hit, hnone] at ha
  cases ha

/-- What a pass for a cursor meets when it is done is not missed. -/
theorem stop (h : Met aim es ret? s s₁) {a : Document.Hit} (ha : s₁.hit? = some a) (ha' : s₂.hit? = some a) :
    Met aim (es ++ es') ret?' s s₂ := by
  obtain ⟨p, rfl⟩ := h.eq_cursor ha
  refine ⟨?_, nofun, nofun⟩
  rw [List.findSome?_append, ← h.hit, ha, ha', Option.some_or]

/-- Events that follow each other. -/
theorem append (h : Met aim es ret? s s₁) (hs : s.Sound) (hopen : s₁.openChunks = s.openChunks)
    (hnone : s₁.hit? = none) (h' : Met aim es' ret?' s₁ s₂) : Met aim (es ++ es') (ret?'.or ret?) s s₂ := by
  refine ⟨?_, fun name hname => ?_, fun haim => ?_⟩
  · rw [List.findSome?_append, ← h.hit, hnone, h'.hit, Option.none_or]
  · rw [h'.uses name hname, h.uses name hname, List.filterMap_append, List.append_assoc]
  · have hg := h.gathers haim
    have hg' := h'.gathers haim
    refine ⟨?_, ?_, ?_, hg'.annotations.trans hg.annotations, ?_⟩
    · have hlast : ∀ i ∈ s.openChunks.getLast?, i < (returning ret? s.openChunks.getLast? s.chunks).length := by
        intro i hi
        rw [length_returning]
        exact hs.lt_of_mem (List.mem_of_getLast? hi)
      rw [hg'.chunks, hg.chunks, hopen, returning_append _ hlast, returning_returning, chunks_append,
        List.append_assoc]
    · rw [hg'.known, hg.known, effective_append, List.map_append, List.reverse_append, List.append_assoc]
    · rw [hg'.requires, hg.requires, requires_append, List.append_assoc]
    · rw [hg'.notes, hg.notes, List.filter_append, List.append_assoc]

end Met

namespace Gathered

theorem stop (h : Met aim es ret? s s₁) {a : Document.Hit} (ha : s₁.hit? = some a) (ha' : s₂.hit? = some a) :
    Gathered aim c ret?' (es ++ es') ds s s₂ := by
  obtain ⟨p, rfl⟩ := h.eq_cursor ha
  refine ⟨h.stop ha ha', nofun, fun hnone => ?_⟩
  rw [ha'] at hnone
  cases hnone

theorem append (h : Met aim es ret? s s₁) (hs : s.Sound) (hopen : s₁.openChunks = s.openChunks)
    (hnone : s₁.hit? = none) (h' : Gathered aim c ret?' es' ds' s₁ s₂)
    (hds : aim = .symbols → ds' = ds ++ effective s.known es) : Gathered aim c (ret?'.or ret?) (es ++ es') ds s s₂ := by
  refine ⟨h.append hs hopen hnone h'.toMet, fun haim => ?_, h'.locals⟩
  rw [h'.declarations haim, hds haim, effective_append, (h.gathers haim).known, List.append_assoc]

/-- Only a pass for symbols looks at the declarations. -/
theorem congr (h : Gathered aim c ret? es ds s s₁) (hds : aim = .symbols → ds = ds') :
    Gathered aim c ret? es ds' s s₁ := { h with declarations := fun haim => hds haim ▸ h.declarations haim }

end Gathered

end

/-! ## States that stand at a place of the text -/

/-- The state is not done, and it stands where the context `c` does. -/
structure Progress.Stands (c : Context) (s : Progress) : Prop where
  sound : s.Sound
  undone : s.hit? = none
  stack : s.stack = c.stack
  locals : ∀ n, n ∈ s.scopes.flatten ↔ n ∈ c.locals

/-- Besides, it stands in some scope. -/
structure Progress.Ready (c : Context) (s : Progress) : Prop extends s.Stands c where
  within : s.scopes ≠ []

namespace Progress.Stands

variable {c : Context} {s : Progress}

theorem isLocal_eq (h : s.Stands c) : s.context.isLocal = c.isLocal := by
  funext name
  refine Bool.eq_iff_iff.2 ?_
  unfold Context.isLocal
  rw [List.contains_iff_mem, List.contains_iff_mem]
  exact h.locals _

theorem use_eq (h : s.Stands c) (e : Expr) : use s.context e = use c e := by
  unfold use
  rw [h.isLocal_eq, show s.context.stack = c.stack from h.stack]

theorem localVar_eq (h : s.Stands c) (x : Ident) : localVar s.context x = localVar c x := by
  unfold localVar
  rw [show s.context.stack = c.stack from h.stack]

theorem localDeclaration_eq (h : s.Stands c) (x : Ident) (value? : Option Expr) :
    localDeclaration s.context x value? = localDeclaration c x value? := by
  unfold localDeclaration
  rw [h.localVar_eq]

theorem targetDeclaration_eq (h : s.Stands c) (t : Expr) (name : String) (value? : Option Expr) :
    targetDeclaration s.context t name value? = targetDeclaration c t name value? := by
  unfold targetDeclaration
  rw [h.isLocal_eq, show s.context.stack = c.stack from h.stack]

theorem functionDeclaration_eq (h : s.Stands c) (isLocal : Bool) (name : Expr) (dotted : String) (f : FuncBody) :
    functionDeclaration s.context isLocal name dotted f = functionDeclaration c isLocal name dotted f := by
  unfold functionDeclaration
  rw [h.isLocal_eq, show s.context.stack = c.stack from h.stack]

theorem selfDeclaration_eq (h : s.Stands c) (owner : String) (range : Range) :
    selfDeclaration s.context owner range = selfDeclaration c owner range := by
  unfold selfDeclaration
  rw [show s.context.stack = c.stack from h.stack]

theorem entryDeclaration_eq (h : s.Stands c) (base : Binding) (name : String) (key : Range) (value : Expr) :
    entryDeclaration s.context base name key value = entryDeclaration c base name key value := by
  unfold entryDeclaration
  rw [show s.context.stack = c.stack from h.stack]

end Progress.Stands

theorem Widens.ne_nil {a b : List (List String)} (h : Widens a b) (ha : a ≠ []) : b ≠ [] := by
  cases h with
  | none => exact ha
  | inner => exact List.cons_ne_nil _ _

/-! ## Visits by their events -/

/-- A balanced visit that meets the events `es` and goes over from the context `c` to `c'`. -/
structure Meets (aim : Aim) (c c' : Context) (ret? : Option String) (es : List Event) (m : Visit Unit) : Prop where
  stack : c'.stack = c.stack
  keeps : ∃ ps, Keeps ps m
  gathers : ∀ r : Run, r.now.Ready c →
    Ends m r fun _ r' => Gathered aim c' ret? es r.now.declarations r.now r'.now

/-- A balanced visit of a value that meets the events `es` and gives the position of `chunk?`. -/
structure MeetsValue (aim : Aim) (c : Context) (chunk? : Option Chunk) (es : List Event) (m : Visit (Option Nat)) :
    Prop where
  keeps : ∃ ps, KeepsChunk ps m
  gathers : ∀ r : Run, r.now.Ready c → Ends m r fun k? r' =>
    Gathered aim c none es r.now.declarations r.now r'.now ∧ (aim = .symbols → k?.bind (r'.now.chunks[·]?) = chunk?)

section

variable {aim : Aim} {c c₁ c₂ : Context} {ret? ret?' : Option String} {es es' : List Event} {m m' : Visit Unit}

theorem Progress.Ready.next {r r' : Run} {P : Declaration → Progress → Prop} {ds : List Declaration}
    (h : r.now.Ready c) (hsince : Since P r r') (hstack : c₁.stack = c.stack)
    (hgathered : Gathered aim c₁ ret? es ds r.now r'.now) (hnone : r'.now.hit? = none) : r'.now.Ready c₁ where
  sound := hsince.sound
  undone := hnone
  stack := (hsince.balanced.stack.trans h.stack).trans hstack.symm
  locals := hgathered.locals hnone
  within := hsince.balanced.scopes.ne_nil h.within

namespace Meets

theorem seq (h : Meets aim c c₁ ret? es m) (h' : Meets aim c₁ c₂ ret?' es' m') :
    Meets aim c c₂ (ret?'.or ret?) (es ++ es') (m >>= fun _ => m') := by
  obtain ⟨ps, hm⟩ := h.keeps
  obtain ⟨ps', hm'⟩ := h'.keeps
  refine ⟨h'.stack.trans h.stack, ⟨_, hm.append hm'⟩, fun r hr => ?_⟩
  refine .bind (((hm r hr.sound).and (h.gathers r hr)).mono ?_)
  rintro _ r₁ ⟨hsince, hgathered⟩
  cases hhit : r₁.now.hit? with
  | none =>
    refine (h'.gathers r₁ (hr.next hsince h.stack hgathered hhit)).mono fun _ r₂ hgathered' => ?_
    exact .append hgathered.toMet hr.sound hsince.balanced.openChunks hhit hgathered' hgathered.declarations
  | some a =>
    exact (hm' r₁ hsince.sound).mono fun _ r₂ hsince' => .stop hgathered.toMet hhit (hsince'.balanced.hit a hhit)

/-- What comes first returns nothing. -/
theorem before (h : Meets aim c c₁ none es m) (h' : Meets aim c₁ c₂ ret? es' m') :
    Meets aim c c₂ ret? (es ++ es') (m >>= fun _ => m') := by
  have hseq := h.seq h'
  rwa [Option.or_none] at hseq

theorem unlessDone (h : Meets aim c c₁ ret? es m) : Meets aim c c₁ ret? es (Visit.unlessDone m) := by
  obtain ⟨ps, hm⟩ := h.keeps
  exact ⟨h.stack, ⟨ps, hm.unlessDone⟩, fun r hr => .undone hr.undone (h.gathers r hr)⟩

/-- Contexts with the same locals are the same. -/
theorem congr (h : Meets aim c c₁ ret? es m) (hstack : c₂.stack = c₁.stack)
    (hlocals : ∀ n, n ∈ c₁.locals ↔ n ∈ c₂.locals) : Meets aim c c₂ ret? es m where
  stack := hstack.trans h.stack
  keeps := h.keeps
  gathers r hr := (h.gathers r hr).mono fun _ _ hgathered =>
    { hgathered with locals := fun hnone n => (hgathered.locals hnone n).trans (hlocals n) }

end Meets

/-! ## Single steps -/

/-- Nothing is met. -/
theorem Progress.Stands.gathered {s : Progress} {scopes : List (List String)} (h : s.Stands c)
    (hlocals : ∀ n, n ∈ scopes.flatten ↔ n ∈ c₁.locals) :
    Gathered aim c₁ none [] s.declarations s { s with scopes := scopes } := by
  refine ⟨⟨h.undone, fun _ _ => (List.append_nil _).symm, fun _ => ⟨?_, rfl, ?_, rfl, ?_⟩⟩, fun _ => ?_,
    fun _ => hlocals⟩
  · rw [returning_none]
    exact (List.append_nil _).symm
  · exact (List.append_nil _).symm
  · exact (List.append_nil _).symm
  · exact (List.append_nil _).symm

theorem met_tell {s : Progress} (hnone : s.hit? = none) {e : Event} (he : isTold e = true) :
    Met aim [e] none s (s.tell aim e) := by
  cases aim with
  | symbols =>
    have hchunks : (s.tell .symbols e).chunks =
        returning none s.openChunks.getLast? s.chunks ++ Declare.chunks [e] := by
      rw [returning_none]
      cases e with
      | opened k => cases he
      | _ => exact (List.append_nil _).symm
    cases e with
    | declared d => cases he
    | opened k => cases he
    | site site =>
      exact ⟨hnone, nofun, fun _ => ⟨hchunks, rfl, (List.append_nil _).symm, rfl, (List.append_nil _).symm⟩⟩
    | required edge argument => exact ⟨hnone, nofun, fun _ => ⟨hchunks, rfl, rfl, rfl, (List.append_nil _).symm⟩⟩
    | _ => exact ⟨hnone, nofun, fun _ => ⟨hchunks, rfl, (List.append_nil _).symm, rfl, rfl⟩⟩
  | cursor p =>
    refine ⟨?_, nofun, nofun⟩
    show s.hit?.or (Document.hitOf? p e) = _
    rw [hnone, Option.none_or, List.findSome?_singleton]
    rfl
  | uses name =>
    refine ⟨?_, fun name' hname => ?_, nofun⟩
    · cases e with
      | site site =>
        unfold Progress.tell
        dsimp only
        split <;> exact hnone
      | _ => exact hnone
    · cases hname
      cases e with
      | site site =>
        by_cases h : site.name = name
        · simp [Progress.tell, occurrence?, h]
        · simp [Progress.tell, occurrence?, h]
      | _ => exact (List.append_nil _).symm

/-- A told event adds nothing but what it tells. -/
theorem gathered_tell {s : Progress} (h : s.Stands c) {e : Event} (he : isTold e = true) :
    Gathered aim c none [e] s.declarations s (s.tell aim e) := by
  obtain ⟨requires, notes, uses, hit?, heq, -⟩ := s.tell_eq aim e
  have heffective : effective s.known [e] = [] := by
    cases e with
    | declared d => cases he
    | _ => rfl
  refine ⟨met_tell h.undone he, fun _ => ?_, fun _ n => ?_⟩
  · rw [heq, heffective, List.append_nil]
    rfl
  · rw [heq]
    exact h.locals n

namespace Meets

theorem pure : Meets aim c c none [] (Pure.pure ()) :=
  ⟨rfl, ⟨[], .pure⟩, fun _ hr => .pure (hr.gathered hr.locals)⟩

/-- Names come into scope. -/
theorem bind (names : List String) : Meets aim c (c.withLocals names) none [] (change (.bind names)) := by
  refine ⟨rfl, ⟨[], .bind names⟩, fun r hr => .change ?_⟩
  obtain ⟨inner, outer, hscopes⟩ := List.exists_cons_of_ne_nil hr.within
  have hbind : r.now.bind names = { r.now with scopes := (names ++ inner) :: outer } := by
    unfold Progress.bind
    rw [hscopes]
  rw [hbind]
  refine hr.gathered fun n => ?_
  have hlocals := hr.locals n
  rw [hscopes, List.flatten_cons, List.mem_append] at hlocals
  show _ ↔ n ∈ names ++ c.locals
  rw [List.flatten_cons, List.append_assoc, List.mem_append, List.mem_append, List.mem_append, hlocals]

theorem tell : ∀ {es : List Event}, (∀ e ∈ es, isTold e = true) → Meets aim c c none es (Visit.tell aim es)
  | [], _ => pure
  | e :: es, hes => by
    obtain ⟨he, hes⟩ := List.forall_mem_cons.1 hes
    have hstep : Meets aim c c none [e] (change (.tell aim e)) :=
      ⟨rfl, ⟨[], .tellOne aim e⟩, fun _ hr => .change (gathered_tell hr.toStands he)⟩
    exact hstep.seq (tell hes)

end Meets

/-! ## Declarations and the chunks that they own -/

/-- The `i`-th declaration owns the chunk `k`, if there are both. -/
def complete (i? : Option Nat) (k? : Option Chunk) (ds : List Declaration) : List Declaration :=
  match i?, k? with
  | some i, some k => ds.modify i fun d => { d with ownedChunk? := some k }
  | _, _ => ds

theorem complete_append {i? : Option Nat} {ds : List Declaration} (hi : ∀ i ∈ i?, i < ds.length) (k? : Option Chunk)
    (ds' : List Declaration) : complete i? k? (ds ++ ds') = complete i? k? ds ++ ds' := by
  unfold complete
  split
  · exact modify_append_left _ ds' (hi _ rfl)
  · rfl

theorem complete_unowned (before after : List Declaration) (d : Declaration) :
    complete (some before.length) d.ownedChunk? (before ++ d.unowned :: after) = before ++ d :: after := by
  obtain ⟨name, displayName, kind, range, isLocal, stack, params, tag?, ownedChunk?, onlyNew⟩ := d
  cases ownedChunk? with
  | none => rfl
  | some k => exact modify_length_append ..

@[simp] theorem length_declarations (s : Progress) : s.declarations.length = s.drafts.length := List.length_map ..

/-- Only the chunks that are owned matter for the declarations. -/
theorem declarations_congr {s : Progress} {ks : List Chunk}
    (h : ∀ d ∈ s.drafts, ∀ k ∈ d.owned?, ks[k]? = s.chunks[k]?) : s.drafts.map (·.finish ks) = s.declarations := by
  refine List.map_congr_left fun d hd => ?_
  unfold Draft.finish
  cases howned : d.owned? with
  | none => rfl
  | some k => rw [Option.bind_some, Option.bind_some, h d hd k howned]

theorem declarations_owning {s : Progress} (i? : Option Nat) {k? : Option Nat} (hk : ∀ k ∈ k?, s.Closed k) :
    (s.owning i? k?).declarations = complete i? (k?.bind (s.chunks[·]?)) s.declarations := by
  cases i? with
  | none => rfl
  | some i =>
    cases k? with
    | none => rfl
    | some k =>
      rw [Option.bind_some, List.getElem?_eq_getElem (hk k rfl).1]
      refine map_modify (fun d => ?_) s.drafts i
      show Draft.finish s.chunks ⟨d.declaration, some k⟩ = _
      rw [Draft.finish, Option.bind_some, List.getElem?_eq_getElem (hk k rfl).1]
      rfl

theorem Gathered.owning {s s' : Progress} {ds : List Declaration} (h : Gathered aim c none es ds s s')
    {i? k? : Option Nat} (hk : ∀ k ∈ k?, s'.Closed k) (hi : ∀ i ∈ i?, i < ds.length) {chunk? : Option Chunk}
    (hchunk : aim = .symbols → k?.bind (s'.chunks[·]?) = chunk?) :
    Gathered aim c none es (complete i? chunk? ds) s (s'.owning i? k?) := by
  have hdeclarations : aim = .symbols →
      (s'.owning i? k?).declarations = complete i? chunk? ds ++ effective s.known es := by
    intro haim
    rw [declarations_owning i? hk, hchunk haim, h.declarations haim, complete_append hi]
  refine ⟨⟨?_, ?_, fun haim => ?_⟩, hdeclarations, ?_⟩
  all_goals unfold Progress.owning
  · split <;> exact h.hit
  · split <;> exact h.uses
  · have hgathers := h.gathers haim
    split <;> exact ⟨hgathers.chunks, hgathers.known, hgathers.requires, hgathers.annotations, hgathers.notes⟩
  · split <;> exact h.locals

theorem Progress.Ready.owning {s : Progress} (h : s.Ready c) (i? : Option Nat) {k? : Option Nat}
    (hk : ∀ k ∈ k?, s.Closed k) : (s.owning i? k?).Ready c := by
  refine ⟨⟨h.sound.owning i? hk, ?_, ?_, ?_⟩, ?_⟩
  all_goals unfold Progress.owning
  · split <;> exact h.undone
  · split <;> exact h.stack
  · split <;> exact h.locals
  · split <;> exact h.within

/-- The name of the declaration `d` has been announced by the events `es`: if it counts, there is a symbol for it, which
owns nothing so far, and `i?` is the position of this symbol. -/
structure Announced (aim : Aim) (d : Declaration) (es : List Event) (i? : Option Nat) (s s' : Progress) : Prop
    extends Met aim es none s s' where
  scopes : s'.scopes = s.scopes
  counts : effective s.known es = effective s.known [.declared d]
  pending : aim = .symbols → s'.declarations = s.declarations ++ (effective s.known es).map Declaration.unowned
  position : i? = if aim = .symbols ∧ effective s.known es ≠ [] then some s.declarations.length else none

namespace Announced

variable {d : Declaration} {i? : Option Nat} {s s' : Progress}

/-- A new symbol. -/
theorem draft (hnone : s.hit? = none) (hes : es = [siteOf d, .declared d] ∨ es = [.declared d])
    (hcounts : effective s.known [.declared d] = [d]) :
    Announced .symbols d es (some s.drafts.length) s (s.draft d) := by
  have heffective : effective s.known es = [d] := by
    rcases hes with rfl | rfl <;> exact hcounts
  have hdeclarations : (s.draft d).declarations = s.declarations ++ [d.unowned] := List.map_append
  refine ⟨⟨?_, nofun, fun _ => ⟨?_, ?_, ?_, rfl, ?_⟩⟩, rfl, heffective.trans hcounts.symm, fun _ => ?_, ?_⟩
  · rcases hes with rfl | rfl <;> exact hnone
  · rcases hes with rfl | rfl <;> exact ((List.append_nil _).trans (returning_none ..)).symm
  · rw [heffective]
    rfl
  · rcases hes with rfl | rfl <;> exact (List.append_nil _).symm
  · rcases hes with rfl | rfl <;> exact (List.append_nil _).symm
  · rw [heffective, hdeclarations]
    rfl
  · rw [heffective, if_pos ⟨rfl, List.cons_ne_nil _ _⟩, length_declarations]

/-- A declaration that does not count or is not asked for. -/
theorem skip (hnone : s.hit? = none) (hskip : aim = .symbols → effective s.known [.declared d] = []) :
    Announced aim d [.declared d] none s s := by
  refine ⟨⟨?_, ?_, fun haim => ⟨?_, ?_, ?_, rfl, ?_⟩⟩, rfl, rfl, fun haim => ?_, ?_⟩
  · cases aim <;> exact hnone
  · exact fun _ _ => (List.append_nil _).symm
  · exact ((List.append_nil _).trans (returning_none ..)).symm
  · rw [hskip haim]
    rfl
  · exact (List.append_nil _).symm
  · exact (List.append_nil _).symm
  · rw [hskip haim]
    exact (List.append_nil _).symm
  · rw [if_neg]
    rintro ⟨haim, hne⟩
    exact hne (hskip haim)

/-- A pass that is not for symbols meets a place where the name is written. -/
theorem tell (haim : aim ≠ .symbols) (hnone : s.hit? = none) :
    Announced aim d [siteOf d, .declared d] none s (s.tell aim (siteOf d)) := by
  have hmet : Met aim [siteOf d] none s (s.tell aim (siteOf d)) := met_tell hnone rfl
  have hdeclared : aim.hitOf? (.declared d) = none := by
    cases aim <;> rfl
  refine ⟨⟨?_, fun name hname => ?_, fun h => absurd h haim⟩, ?_, rfl, fun h => absurd h haim, ?_⟩
  · show _ = ([siteOf d] ++ [Event.declared d]).findSome? aim.hitOf?
    rw [List.findSome?_append, ← hmet.hit, List.findSome?_singleton, hdeclared, Option.or_none]
  · exact hmet.uses name hname
  · obtain ⟨requires, notes, uses, hit?, heq, -⟩ := s.tell_eq aim (siteOf d)
    rw [heq]
  · exact (if_neg fun h => haim h.1).symm

end Announced

theorem effective_declared (known : List String) (d : Declaration) :
    effective known [.declared d] = if d.onlyNew && known.contains d.name then [] else [d] := by
  rw [effective]
  rfl

theorem Ends.declare {r : Run} (h : r.now.Stands c) {d : Declaration} (hd : d.onlyNew = false) :
    Ends (Visit.declare aim d) r fun i? r' => Announced aim d [siteOf d, .declared d] i? r.now r'.now := by
  refine .bind ⟨(), _, rfl, ?_⟩
  cases aim with
  | symbols =>
    refine .bind (.now (.bind (.change (.pure ?_))))
    refine .draft h.undone (.inl rfl) ?_
    rw [effective_declared, hd]
    rfl
  | _ => exact .bind (.bind (.change (.pure (.pure (.tell nofun h.undone)))))

theorem Ends.declareIf {r : Run} (h : r.now.Stands c) {d : Declaration} {condition : Bool}
    (hcondition : condition = (decide (aim = .symbols) && !(d.onlyNew && r.now.known.contains d.name))) :
    Ends (Visit.declareIf condition aim d) r fun i? r' => Announced aim d [.declared d] i? r.now r'.now := by
  unfold Visit.declareIf
  rw [hcondition]
  split
  · rename_i hcounts
    obtain ⟨haim, hnew⟩ := Bool.and_eq_true_iff.1 hcounts
    obtain rfl := of_decide_eq_true haim
    refine .bind ⟨(), _, rfl, .bind (.now (.bind (.change (.pure (.draft h.undone (.inr rfl) ?_)))))⟩
    rw [effective_declared, if_neg]
    rwa [Bool.not_eq_true, ← Bool.not_eq_true']
  · rename_i hcounts
    refine .pure (.skip h.undone fun haim => ?_)
    rw [effective_declared, if_pos]
    by_contra hnew
    refine hcounts ?_
    rw [haim, Bool.eq_false_of_not_eq_true hnew]
    rfl

namespace Announced

variable {d : Declaration} {i? : Option Nat} {s s' : Progress}

/-- When the symbol owns its chunk, all declarations are complete. -/
theorem completed (h : Announced aim d es i? s s') (haim : aim = .symbols) :
    complete i? d.ownedChunk? s'.declarations = s.declarations ++ effective s.known es := by
  have hposition := h.position
  rw [h.pending haim]
  rw [h.counts, effective_declared] at hposition ⊢
  split
  · rename_i hknown
    rw [if_pos hknown, if_neg fun hne => hne.2 rfl] at hposition
    subst hposition
    rfl
  · rename_i hnew
    rw [if_neg hnew, if_pos ⟨haim, List.cons_ne_nil _ _⟩] at hposition
    subst hposition
    exact complete_unowned ..

/-- The announced position is that of a symbol. -/
theorem position_lt (h : Announced aim d es i? s s') : ∀ i ∈ i?, i < s'.drafts.length := by
  intro i hi
  have hposition := h.position
  split at hposition
  · rename_i hcounts
    have hlength := congrArg List.length (h.pending hcounts.1)
    have hne := List.length_pos_iff.2 hcounts.2
    subst hposition
    cases hi
    rw [List.length_append, List.length_map, length_declarations] at hlength
    omega
  · subst hposition
    cases hi

theorem locals (h : Announced aim d es i? s s') (hs : s.Stands c) (n : String) :
    n ∈ s'.scopes.flatten ↔ n ∈ c.locals := by
  rw [h.scopes]
  exact hs.locals n

/-- The pass goes on where the declaration has been announced. -/
theorem ready {r r₁ : Run} {P : Declaration → Progress → Prop} (h : Announced aim d es i? r.now r₁.now)
    (hr : r.now.Ready c) (hsince : Since P r r₁) (hnone : r₁.now.hit? = none) : r₁.now.Ready c where
  sound := hsince.sound
  undone := hnone
  stack := hsince.balanced.stack.trans hr.stack
  locals := h.locals hr.toStands
  within := hsince.balanced.scopes.ne_nil hr.within

/-- A declaration that owns nothing is complete. -/
theorem gathered (h : Announced aim d es i? s s') (hs : s.Stands c) (hd : d.ownedChunk? = none) :
    Gathered aim c none es s.declarations s s' := by
  refine ⟨h.toMet, fun haim => ?_, fun _ => h.locals hs⟩
  have hcompleted := h.completed haim
  rwa [hd, show complete i? none s'.declarations = s'.declarations by cases i? <;> rfl] at hcompleted

end Announced

/-- A value whose chunk the `i`-th symbol owns. -/
theorem MeetsValue.ownValue {chunk? : Option Chunk} {m : Visit (Option Nat)} (h : MeetsValue aim c chunk? es m)
    {r : Run} (hr : r.now.Ready c) {i? : Option Nat} (hi : ∀ i ∈ i?, i < r.now.drafts.length) :
    Ends (ownValue i? m) r fun _ r' =>
      Gathered aim c none es (complete i? chunk? r.now.declarations) r.now r'.now ∧
        r'.now.openChunks = r.now.openChunks ∧ (r'.now.hit? = none → r'.now.Ready c) := by
  obtain ⟨ps, hm⟩ := h.keeps
  refine .bind (((hm r hr.sound).and (h.gathers r hr)).mono ?_)
  rintro k? r₁ ⟨⟨hsince, hk⟩, hgathered, hchunk⟩
  have hi₁ : ∀ i ∈ i?, i < r₁.now.drafts.length := fun i hi' =>
    Nat.lt_of_lt_of_le (hi i hi') hsince.balanced.drafts.length_le
  have howning := hgathered.owning hk (fun i hi' => by rw [length_declarations]; exact hi i hi') hchunk
  have hopen : (r₁.now.owning i? k?).openChunks = r.now.openChunks := by
    unfold Progress.owning
    split <;> exact hsince.balanced.openChunks
  have hready : (r₁.now.owning i? k?).hit? = none → (r₁.now.owning i? k?).Ready c := by
    intro hnone
    refine (hr.next hsince rfl hgathered ?_).owning i? hk
    unfold Progress.owning at hnone
    split at hnone <;> exact hnone
  exact .own hi₁ (fun hsame => hsame ▸ ⟨howning, hopen, hready⟩) ⟨howning, hopen, hready⟩

/-- A value whose chunk the announced symbol owns. -/
theorem Announced.value {d : Declaration} {i? : Option Nat} {r r₁ : Run} {P : Declaration → Progress → Prop}
    {m : Visit (Option Nat)} (h : Announced aim d es i? r.now r₁.now) (hr : r.now.Ready c) (hsince : Since P r r₁)
    (hm : MeetsValue aim c d.ownedChunk? es' m) :
    Ends (ownValue i? m) r₁ fun _ r' => Gathered aim c none (es ++ es') r.now.declarations r.now r'.now := by
  cases hhit : r₁.now.hit? with
  | none =>
    refine (hm.ownValue (h.ready hr hsince hhit) h.position_lt).mono fun _ r' h' => ?_
    exact .append h.toMet hr.sound hsince.balanced.openChunks hhit h'.1 fun haim => h.completed haim
  | some a =>
    obtain ⟨ps, hkeeps⟩ := hm.keeps
    refine .bind ((hkeeps r₁ hsince.sound).mono fun k? r₂ h₂ => ?_)
    have hhit₂ := h₂.1.balanced.hit a hhit
    have hlt : ∀ i ∈ i?, i < r₂.now.drafts.length := fun i hi =>
      Nat.lt_of_lt_of_le (h.position_lt i hi) h₂.1.balanced.drafts.length_le
    have hhit' : (r₂.now.owning i? k?).hit? = some a := by
      unfold Progress.owning
      split <;> exact hhit₂
    exact .own hlt (fun _ => .stop h.toMet hhit hhit₂) (.stop h.toMet hhit hhit')

namespace Meets

/-! ## Visits around the visits of parts -/

theorem tellUse (e : Expr) : Meets aim c c none (use c e) (Visit.tellUse aim e) := by
  have htold : ∀ e' ∈ use c e, isTold e' = true := by
    unfold use
    split
    · exact List.forall_mem_singleton.2 rfl
    · exact fun e' he' => by cases he'
  refine ⟨rfl, ⟨[], .tellUse aim e⟩, fun r hr => .bind (.now ?_)⟩
  rw [hr.use_eq]
  exact (tell htold).gathers r hr

theorem tellEquated (b : Binding) (e : Expr) :
    Meets aim c c none (e.dottedName?.map (.equated b.line b.name)).toList (Visit.tellEquated aim b e) := by
  refine tell fun e' he' => ?_
  obtain ⟨name, -, rfl⟩ := Option.map_eq_some_iff.1 (Option.mem_toList.1 he')
  rfl

theorem isTold_callFacts (binding? : Option Binding) (callee : Expr) (args : List Expr) (range : Range) :
    ∀ e ∈ callFacts binding? callee args range, isTold e = true := by
  unfold callFacts
  refine List.forall_mem_append.2 ⟨?_, ?_⟩
  · split
    · exact List.forall_mem_singleton.2 rfl
    · exact fun e he => by cases he
  · split
    · exact List.forall_mem_singleton.2 rfl
    · split
      · exact List.forall_mem_singleton.2 rfl
      · exact fun e he => by cases he

/-- The declaration of a plain name by the context of the pass. -/
theorem declare {d : Context → Declaration} {n : Declared} (hstack : ∀ c, (d c).stack = c.stack)
    (hd : ∀ c, (d c).IsOf n) (hnew : (d c).onlyNew = false) (howned : (d c).ownedChunk? = none)
    (hsame : ∀ s : Progress, s.Stands c → d s.context = d c) :
    Meets aim c c none [siteOf (d c), .declared (d c)]
      (do let s ← now; let _ ← Visit.declare aim (d s.context)) := by
  refine ⟨rfl, ⟨_, .declare aim hstack hd (List.mem_singleton_self _)⟩, fun r hr => .bind (.now (.bind ?_))⟩
  rw [hsame _ hr.toStands]
  exact (Ends.declare hr.toStands hnew).mono fun _ _ h => .pure (h.gathered hr.toStands howned)

theorem localVisit (x : Ident) : Meets aim c (c.withLocals [x.name]) none
    [siteOf (localVar c x), .declared (localVar c x)] (Visit.localVisit aim x) :=
  (bind [x.name]).seq (declare (c := c.withLocals [x.name]) (d := (localVar · x)) (fun _ => rfl)
    (fun c => isOf_localVar c x) rfl rfl fun _ h => h.localVar_eq x)

theorem locals : ∀ {c : Context} (xs : List Ident), Meets aim c (c.withLocals (xs.map (·.name))) none
    (xs.flatMap fun x => [siteOf (localVar c x), .declared (localVar c x)]) (xs.forM (Visit.localVisit aim))
  | _, [] => pure
  | c, x :: xs => by
    refine ((localVisit x).seq (locals xs)).congr rfl fun n => ?_
    show n ∈ xs.map (·.name) ++ ([x.name] ++ c.locals) ↔ n ∈ (x.name :: xs.map (·.name)) ++ c.locals
    simp only [List.mem_append, List.mem_cons, List.not_mem_nil, or_false]
    tauto

theorem declareIf {d : Context → Declaration} {n : Declared} (hstack : ∀ c, (d c).stack = c.stack)
    (hd : ∀ c, (d c).IsOf n) (hnew : (d c).onlyNew = false) (howned : (d c).ownedChunk? = none)
    (hsame : ∀ s : Progress, s.Stands c → d s.context = d c) :
    Meets aim c c none [.declared (d c)]
      (do let s ← now; let _ ← Visit.declareIf (aim = .symbols) aim (d s.context)) := by
  refine ⟨rfl, ⟨_, .declareIf aim _ hstack hd (List.mem_singleton_self _)⟩, fun r hr => .bind (.now (.bind ?_))⟩
  rw [hsame _ hr.toStands]
  refine (Ends.declareIf hr.toStands ?_).mono fun _ _ h => .pure (h.gathered hr.toStands howned)
  rw [hnew, Bool.false_and, Bool.not_false, Bool.and_true]

/-- The implicit `self` of a method. -/
theorem selfVisit (receiver? : Option (String × Range)) :
    Meets aim c (c.withLocals (if receiver?.isSome then ["self"] else [])) none
      (match receiver? with
        | some (owner, range) => [.declared (selfDeclaration c owner range)]
        | none => []) (Visit.selfVisit aim receiver?) := by
  cases receiver? with
  | none => exact pure
  | some receiver =>
    exact (bind ["self"]).seq (declareIf (c := c.withLocals ["self"]) (d := (selfDeclaration · receiver.1 receiver.2))
      (fun _ => rfl) (fun c => isOf_self c ..) rfl rfl fun _ h => h.selfDeclaration_eq ..)

/-- The innermost open chunk learns what it returns. -/
theorem returnVisit (name? : Option String) : Meets aim c c name? [] (Visit.returnVisit name?) := by
  cases name? with
  | none => exact pure
  | some name =>
    refine ⟨rfl, ⟨[], keeps_returnVisit (some name)⟩, fun r hr => ?_⟩
    obtain ⟨s, hs, heq⟩ := Progress.setReturn?_eq hr.sound name
    replace heq : s = { r.now with chunks := returning (some name) r.now.openChunks.getLast? r.now.chunks } := by
      rw [heq]
      cases r.now.openChunks.getLast? <;> rfl
    have hdeclarations : s.declarations = r.now.declarations := by
      subst heq
      show r.now.drafts.map (·.finish (returning (some name) r.now.openChunks.getLast? r.now.chunks)) = _
      refine declarations_congr fun d hd k hk => ?_
      have hne : r.now.openChunks.getLast? ≠ some k := fun hlast =>
        (hr.sound.owned d hd k hk).2 (List.mem_of_getLast? hlast)
      unfold returning
      split
      · rename_i i name' hlast _
        exact List.getElem?_modify_ne _ _ fun hik => hne (hik ▸ hlast)
      · rfl
    refine .attempt hs ⟨⟨?_, fun name' _ => ?_, fun _ => ⟨?_, ?_, ?_, ?_, ?_⟩⟩, fun _ => ?_, fun _ => ?_⟩
    · exact heq ▸ hr.undone
    · subst heq
      exact (List.append_nil _).symm
    · subst heq
      exact (List.append_nil _).symm
    · subst heq
      rfl
    · subst heq
      exact (List.append_nil _).symm
    · subst heq
      rfl
    · subst heq
      exact (List.append_nil _).symm
    · rw [hdeclarations]
      exact (List.append_nil _).symm
    · subst heq
      exact hr.locals

/-- A scope that is opened is closed again, and its locals are forgotten. -/
theorem ends_inScope (h : Meets aim c c₁ ret? es m) {r : Run} (hr : r.now.Stands c) :
    Ends (Visit.inScope m) r fun _ r' => Gathered aim c ret? es r.now.declarations r.now r'.now := by
  obtain ⟨ps, hm⟩ := h.keeps
  have hopened : r.now.openScope.Ready c :=
    ⟨⟨⟨hr.sound.matching, hr.sound.owned⟩, hr.undone, hr.stack, hr.locals⟩, List.cons_ne_nil _ _⟩
  refine .bind (.change (.bind (((hm _ hopened.sound).and (h.gathers _ hopened)).mono ?_)))
  rintro _ r' ⟨hsince, hgathered⟩
  refine .change ⟨⟨hgathered.hit, hgathered.uses, fun haim => ?_⟩, hgathered.declarations, fun _ n => ?_⟩
  · have hgathers := hgathered.gathers haim
    exact ⟨hgathers.chunks, hgathers.known, hgathers.requires, hgathers.annotations, hgathers.notes⟩
  · have hscopes : r'.now.scopes.tail = r.now.scopes := hsince.balanced.scopes.tail_eq
    show n ∈ r'.now.scopes.tail.flatten ↔ _
    rw [hscopes]
    exact hr.locals n

theorem inScope (h : Meets aim c c₁ ret? es m) : Meets aim c c ret? es (Visit.inScope m) := by
  obtain ⟨ps, hm⟩ := h.keeps
  exact ⟨rfl, ⟨ps, hm.inScope⟩, fun _ hr => h.ends_inScope hr.toStands⟩

/-- What is met in a chunk is met behind its opening. -/
theorem inChunk {ps : List Fragment} {name : String} {range : Range}
    (h : Meets aim (c.enter ⟨name, range⟩) (c.enter ⟨name, range⟩) ret? es m)
    (hkeeps : KeepsChunk ps (Visit.inChunk name range m)) :
    MeetsValue aim c (some ⟨name, range, ret?⟩) (.opened ⟨name, range, ret?⟩ :: es) (Visit.inChunk name range m) := by
  refine ⟨⟨ps, hkeeps⟩, fun r hr => ?_⟩
  have hopened : (r.now.openChunk name range).Ready (c.enter ⟨name, range⟩) :=
    ⟨⟨hr.sound.openChunk name range, hr.undone, congrArg (· ++ [_]) hr.stack, hr.locals⟩, hr.within⟩
  have hdeclarations : (r.now.openChunk name range).declarations = r.now.declarations :=
    declarations_congr fun d hd k hk => List.getElem?_append_left (hr.sound.owned d hd k hk).1
  refine .bind (.now (.bind (.change (.bind ((h.gathers _ hopened).mono fun _ r' hgathered => ?_)))))
  have hchunks (haim : aim = .symbols) :
      r'.now.chunks = r.now.chunks ++ ⟨name, range, ret?⟩ :: Declare.chunks es := by
    rw [(hgathered.gathers haim).chunks]
    show returning ret? (r.now.openChunks ++ [_]).getLast? (r.now.chunks ++ [⟨name, range, none⟩]) ++ _ = _
    rw [List.getLast?_concat]
    cases ret? with
    | none => exact List.append_assoc ..
    | some ret =>
      show (r.now.chunks ++ [Chunk.mk name range none]).modify r.now.chunks.length _ ++ _ = _
      rw [modify_length_append]
      exact List.append_assoc ..
  have hopen : aim.hitOf? (.opened ⟨name, range, ret?⟩) = none := by
    cases aim <;> rfl
  refine .bind (.change (.pure ⟨⟨⟨?_, hgathered.uses, fun haim => ?_⟩, fun haim => ?_, hgathered.locals⟩,
    fun haim => ?_⟩))
  · rw [List.findSome?_cons, hopen]
    exact hgathered.hit
  · have hgathers := hgathered.gathers haim
    refine ⟨?_, hgathers.known, hgathers.requires, hgathers.annotations, hgathers.notes⟩
    rw [returning_none]
    exact hchunks haim
  · rw [← hdeclarations]
    exact hgathered.declarations haim
  · show r'.now.chunks[r.now.chunks.length]? = _
    rw [hchunks haim, List.getElem?_append_right (Nat.le_refl _), Nat.sub_self]
    rfl

/-- A chain. -/
theorem memberVisit (e : Expr) (h : Meets aim c c none es m) :
    Meets aim c c none (es ++ use c e) (Visit.memberVisit aim e m) := unlessDone (h.seq (tellUse e))

theorem indexVisit (e : Expr) (h : Meets aim c c none es m) (h' : Meets aim c c none es' m') :
    Meets aim c c none (es ++ match e.dottedName? with
      | some _ => use c e
      | none => es') (Visit.indexVisit aim e m m') := by
  have hkey : Meets aim c c none (match e.dottedName? with
      | some _ => use c e
      | none => es') (match e.dottedName? with
      | some _ => Visit.tellUse aim e
      | none => m') := by
    split
    · exact tellUse e
    · exact h'
  exact unlessDone (h.seq hkey)

theorem callVisit (binding? : Option Binding) (callee : Expr) (args : List Expr) (range : Range)
    (h : Meets aim c c none es m) (h' : Meets aim c c none es' m') :
    Meets aim c c none (es ++ callFacts binding? callee args range ++ es')
      (Visit.callVisit aim binding? callee args range m m') := by
  rw [List.append_assoc]
  exact h.seq ((tell (isTold_callFacts binding? callee args range)).seq h')

end Meets

namespace MeetsValue

variable {chunk? : Option Chunk} {k : Visit (Option Nat)}

/-- A value that has no chunk. -/
theorem noChunk (h : Meets aim c c none es m) : MeetsValue aim c none es (do m; return none) := by
  obtain ⟨ps, hm⟩ := h.keeps
  refine ⟨⟨ps, hm.noChunk⟩, fun r hr => .bind ((h.gathers r hr).mono fun _ _ hgathered => ?_)⟩
  exact .pure ⟨hgathered, fun _ => rfl⟩

theorem seq (h : Meets aim c c none es m) (h' : MeetsValue aim c chunk? es' k) :
    MeetsValue aim c chunk? (es ++ es') (m >>= fun _ => k) := by
  obtain ⟨ps, hm⟩ := h.keeps
  obtain ⟨ps', hk⟩ := h'.keeps
  have hkeeps : KeepsChunk (ps ++ ps') (m >>= fun _ => k) :=
    .seq (hm.mono (List.subset_append_left ..)) (hk.mono (List.subset_append_right ..))
  refine ⟨⟨_, hkeeps⟩, fun r hr => .bind (((hm r hr.sound).and (h.gathers r hr)).mono ?_)⟩
  rintro _ r₁ ⟨hsince, hgathered⟩
  cases hhit : r₁.now.hit? with
  | none =>
    refine (h'.gathers r₁ (hr.next hsince rfl hgathered hhit)).mono fun _ r₂ h₂ => ⟨?_, h₂.2⟩
    exact .append hgathered.toMet hr.sound hsince.balanced.openChunks hhit h₂.1 hgathered.declarations
  | some a =>
    obtain ⟨p, rfl⟩ := hgathered.eq_cursor hhit
    exact (hk r₁ hsince.sound).mono fun _ r₂ h₂ => ⟨.stop hgathered.toMet hhit (h₂.1.balanced.hit a hhit), nofun⟩

/-- A visit that gives no chunk to any symbol. -/
theorem forget (h : MeetsValue aim c chunk? es k) : Meets aim c c none es (do let _ ← k) := by
  obtain ⟨ps, hk⟩ := h.keeps
  exact ⟨rfl, ⟨ps, hk.forget⟩, fun r hr => .bind ((h.gathers r hr).mono fun _ _ hgathered => .pure hgathered.1)⟩

end MeetsValue

end

end LuaAtlas.Walk
