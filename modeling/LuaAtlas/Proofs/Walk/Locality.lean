/-
What a cursor on a name gets to know. A cursor stands on the first mention there is at its position, and what it
points at is that mention: outside the conditions of `repeat` loops a used name counts as local exactly if static
scoping binds the variable that it starts from.
-/
import LuaAtlas.Document
import LuaAtlas.Proofs.Syntax.Mentions
import LuaAtlas.Proofs.Walk.Binding

namespace LuaAtlas.Walk

open LuaAtlas.Syntax

variable {E : List Event}

/-! ## Cursors on mentions -/

/-- What a cursor on a mention points at, in a walk with the events `E`. -/
inductive PointsAt (E : List Event) : Mention → Document.Hit → Prop
  | used {c : Context} {σ : Scope} {e : Expr} {name : String} : Knows E c σ → e.dottedName? = some name →
      PointsAt E (.used e σ) (.name (Name.normalize name) e.range (c.isLocal name) c.stack)
  | introduced (x : Ident) (stack : List ChunkRef) :
      PointsAt E (.introduced x) (.name (Name.normalize x.name) x.range true stack)
  | key {owner : Owner} {isLocal : Bool} (name : String) (range : Range) (stack : List ChunkRef) :
      Owns E isLocal owner → PointsAt E (.key range owner) (.name name range isLocal stack)
  | argument (module : String) (range : Range) : PointsAt E (.argument module range) (.required module range)

theorem rel_or {α β : Type} {R : α → β → Prop} {a a' : Option α} {b b' : Option β} (h : Option.Rel R a b)
    (h' : Option.Rel R a' b') : Option.Rel R (a.or a') (b.or b') := by
  cases h with
  | none => exact h'
  | some h => exact .some h

theorem rel_imp {α β : Type} {R S : α → β → Prop} {a : Option α} {b : Option β} (h : Option.Rel R a b)
    (himp : ∀ x ∈ a, ∀ y, R x y → S x y) : Option.Rel S a b := by
  cases h with
  | none => exact .none
  | some h => exact .some (himp _ rfl _ h)

theorem rel_through {α β γ : Type} {R : α → β → Prop} {S : β → γ → Prop} {a : Option α} {b : Option β} {c : Option γ}
    (h : Option.Rel R a b) (h' : Option.Rel S b c) : Option.Rel (fun x z => ∃ y ∈ b, R x y ∧ S y z) a c := by
  cases h with
  | none =>
    cases h'
    exact .none
  | some h =>
    cases h' with
    | some h' => exact .some ⟨_, rfl, h, h'⟩

/-- A cursor on a single mention that is reported as a single site. -/
theorem pointsAt_site {m : Mention} {s : Site} (p : Position) (hrange : m.hitRange? = some s.hitRange)
    (h : PointsAt E m (.name (Name.normalize s.name) s.range s.isLocal s.stack)) :
    Option.Rel (PointsAt E) ([m].find? (·.isAt p)) ([.site s].findSome? (Document.hitOf? p)) := by
  have hat : m.isAt p = s.hitRange.contains p := by
    unfold Mention.isAt
    rw [hrange]
    rfl
  cases hp : s.hitRange.contains p with
  | true => simpa [hat, hp, Document.hitOf?] using h
  | false => simp [hat, hp, Document.hitOf?]

theorem rel_append {m n : List Mention} {e f : List Event} {p : Position}
    (h : Option.Rel (PointsAt E) (m.find? (·.isAt p)) (e.findSome? (Document.hitOf? p)))
    (h' : Option.Rel (PointsAt E) (n.find? (·.isAt p)) (f.findSome? (Document.hitOf? p))) :
    Option.Rel (PointsAt E) ((m ++ n).find? (·.isAt p)) ((e ++ f).findSome? (Document.hitOf? p)) := by
  rw [List.find?_append, List.findSome?_append]
  exact rel_or h h'

/-- A declaration is nothing to point at. -/
theorem rel_declared {ms : List Mention} {d : Declaration} {p : Position} (h : ∀ m ∈ ms, m.hitRange? = none) :
    Option.Rel (PointsAt E) (ms.find? (·.isAt p)) ([.declared d].findSome? (Document.hitOf? p)) := by
  have hnone : ms.find? (·.isAt p) = none := by
    refine List.find?_eq_none.2 fun m hm => ?_
    simp [Mention.isAt, h m hm]
  rw [hnone]
  exact .none

/-- What a value tells changes neither a name nor its locality. -/
theorem withValue_keeps (d : Declaration) (functionName : String) (value? : Option Expr) :
    (d.withValue functionName value?).name = d.name ∧ (d.withValue functionName value?).range = d.range ∧
      (d.withValue functionName value?).isLocal = d.isLocal ∧ (d.withValue functionName value?).stack = d.stack := by
  unfold Declaration.withValue
  dsimp only
  split <;> exact ⟨rfl, rfl, rfl, rfl⟩

theorem entryDeclaration_keeps (c : Context) (base : Binding) (name : String) (range : Range) (value : Expr) :
    (entryDeclaration c base name range value).range = range ∧
      (entryDeclaration c base name range value).isLocal = base.isLocal := by
  obtain ⟨-, hrange, hlocal, -⟩ := withValue_keeps
    ⟨name, name, .var, range, base.isLocal, c.stack, [], none, none, false⟩ ("function " ++ name) (some value)
  exact ⟨hrange, hlocal⟩

theorem Reports.pointsAt {ms : List Mention} {es : List Event} (h : Reports E ms es) (p : Position) :
    Option.Rel (PointsAt E) (ms.find? (·.isAt p)) (es.findSome? (Document.hitOf? p)) := by
  induction h with
  | nil => exact .none
  | append _ _ ih ih' => exact rel_append ih ih'
  | @silent e he =>
    cases e with
    | site s => cases he
    | required edge range => cases he
    | _ => exact .none
  | self c owner range => exact .none
  | used hk hname => exact pointsAt_site p rfl (.used hk hname)
  | argument edge range =>
    cases hp : range.contains p with
    | true => simpa [Mention.isAt, Mention.hitRange?, hp, Document.hitOf?] using .argument edge.targetModule range
    | false => simp [Mention.isAt, Mention.hitRange?, hp, Document.hitOf?]
  | introduced c x value? =>
    have hd := declares_localDeclaration c x value?
    refine rel_append (n := []) (e := [_]) (pointsAt_site p ?_ ?_) (rel_declared (by simp))
    · show some x.range = some (localDeclaration c x value?).range
      rw [hd.range]
    · dsimp only
      rw [hd.called, hd.range, hd.isLocal]
      exact .introduced x _
  | key c base name range value howns =>
    obtain ⟨hrange, hlocal⟩ := entryDeclaration_keeps c base name range value
    refine rel_append (n := []) (e := [_]) (pointsAt_site p ?_ ?_) (rel_declared (by simp))
    · exact congrArg some hrange.symm
    · dsimp only
      rw [hrange, hlocal]
      exact .key _ range _ howns
  | @assigned c σ t name value? hk hname =>
    refine rel_append (m := [_]) (e := [_]) (pointsAt_site p rfl (.used hk ?_)) (rel_declared ?_)
    · exact (dottedName?_inner t).trans hname
    · simp [Mention.hitRange?]
  | @function c σ t name isLocal f hk hname _ =>
    refine rel_append (m := [_]) (e := [_]) (pointsAt_site p rfl (.used hk ?_)) (rel_declared ?_)
    · exact (dottedName?_inner t).trans hname
    · simp [Mention.hitRange?]

/-- A cursor points at the first mention where it stands. -/
theorem pointsAt_file (uri : Uri) (file : File) (p : Position) :
    Option.Rel (PointsAt (events uri file)) (file.mentionAt? p) ((events uri file).findSome? (Document.hitOf? p)) :=
  (reports_file uri file).pointsAt p

/-! ## Locality -/

theorem isSome_binder?_iff (σ : Scope) (name : String) :
    (σ.binder? name).isSome = true ↔ ∃ b ∈ σ.binders, b.name = name := by
  simp [Scope.binder?]

/-- Where a walk knows the scope, a chain is local if the scope binds the variable that it starts from. -/
theorem Sees.isLocal_eq {c : Context} {σ : Scope} (h : Sees E c σ) {e : Expr} {name : String}
    (hname : e.dottedName? = some name) (hplain : ∀ x, e.root? = some x → Name.IsPlain x.name) :
    c.isLocal name = σ.binds e := by
  obtain ⟨x, hx, hroot⟩ := Expr.root_dottedName? hname
  unfold Context.isLocal Scope.binds
  rw [hx, hroot (hplain x hx), Bool.eq_iff_iff, List.contains_iff_mem, h.locals, Option.any_some, isSome_binder?_iff]

theorem Knows.isLocal_eq {c : Context} {σ : Scope} (hk : Knows E c σ) {t : Expr} {name : String}
    (hname : t.dottedName? = some name) (hplain : ∀ x ∈ exprIdents t, Name.IsPlain x.name)
    (hσ : σ.inCondition = false) : c.isLocal name = σ.binds t :=
  (hk hσ).isLocal_eq hname fun x hx => hplain x (mem_exprIdents_of_root? hx)

end LuaAtlas.Walk

namespace LuaAtlas

open LuaAtlas.Syntax LuaAtlas.Walk

/-- Whether what is given to the owner is told to be local: if the owner is introduced as a local, or if the variable
that it starts from is bound. -/
def Syntax.Owner.Tells (isLocal : Bool) : Owner → Prop
  | .introduced => isLocal = true
  | .target t σ => σ.inCondition = false → isLocal = σ.binds t

theorem Walk.Owns.tells {E : List Event} {isLocal : Bool} : ∀ {owner : Owner}, Owns E isLocal owner →
    (∀ x ∈ owner.idents, Name.IsPlain x.name) → owner.Tells isLocal
  | .introduced, h, _ => h
  | .target .., ⟨_, _, hk, hname, hlocal⟩, hplain => fun hσ => hlocal.trans (hk.isLocal_eq hname hplain hσ)

/-- What a cursor on a mention is told: a used name is local if its variable is bound there, a name that is
introduced is local, and a key is local if the table is given to a local. -/
def Syntax.Mention.IsToldBy : Mention → Document.Hit → Prop
  | .used e σ, .name name range isLocal _ =>
    e.dottedName?.map Name.normalize = some name ∧ range = e.range ∧ (σ.inCondition = false → isLocal = σ.binds e)
  | .introduced x, .name name range isLocal _ =>
    name = Name.normalize x.name ∧ range = x.range ∧ isLocal = true
  | .key range owner, .name _ range' isLocal _ => range' = range ∧ owner.Tells isLocal
  | .argument module range, .required module' range' => module' = module ∧ range' = range
  | _, _ => False

theorem Walk.PointsAt.isToldBy {E : List Event} {m : Mention} {hit : Document.Hit} (h : PointsAt E m hit)
    (hplain : ∀ x ∈ m.idents, Name.IsPlain x.name) : m.IsToldBy hit := by
  cases h with
  | @used c σ e name hk hname =>
    refine ⟨?_, rfl, hk.isLocal_eq hname hplain⟩
    rw [hname]
    rfl
  | introduced x stack => exact ⟨rfl, rfl, rfl⟩
  | key name range stack howns => exact ⟨rfl, howns.tells hplain⟩
  | argument module range => exact ⟨rfl, rfl⟩

namespace Document

theorem hitAt?_build (shelf : Shelf) (uri : Uri) (o : Outcome) (p : Position) :
    (build shelf uri o).hitAt? p = (events uri o.file).findSome? (hitOf? p) := by
  cases o <;> rfl

/-- A cursor in the document of any text points at something exactly if it stands on a mention. It is told what the
first such mention is; and if that is a variable or a chain, used, assigned to or declared as a function, outside the
conditions of `repeat` loops, then it is told that the name is local exactly if static scoping binds the variable
there. -/
theorem cursor_told_by_scoping (shelf : Shelf) (uri : Uri) (text : String) (p : Position) :
    Option.Rel Mention.IsToldBy ((parse text).file.mentionAt? p) ((build shelf uri (parse text)).hitAt? p) := by
  rw [hitAt?_build]
  refine rel_imp (pointsAt_file uri (parse text).file p) fun m hm hit h => ?_
  exact h.isToldBy fun x hx => isPlain_of_mem_mentions (File.mem_mentions_of_mentionAt? hm) hx

end Document

end LuaAtlas
