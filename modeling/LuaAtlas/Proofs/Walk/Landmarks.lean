/-
A walk passes the landmarks of a file, each of them once and in order, by whatever route it comes to them: as a value
that is bound to a name or not, as a key that becomes part of a name, as a target before it is declared. So the required
modules of a file are those of its calls, its chunks are the file and the bodies of its functions, and its symbols are
names that it declares.
-/
import LuaAtlas.Proofs.Syntax.Landmarks
import LuaAtlas.Proofs.Walk.Binding
import LuaAtlas.Proofs.Walk.Views
import Mathlib

namespace LuaAtlas.Walk

open LuaAtlas.Syntax

/-! ## Events at landmarks -/

/-- A declaration of a name with its value. -/
structure Declaration.IsOf (d : Declaration) (n : Declared) : Prop where
  name : d.name = n.name
  range : d.range = n.range
  owned : d.ownedChunk? = n.function?.map (functionChunk n.name)
  kind : d.kind = .func → n.function?.isSome = true
  tag : d.tag?.isSome = true → d.isImplicitSelf = true

/-- Whether an event tells something beside the landmarks. -/
def Event.isAside : Event → Bool
  | .site _ | .equated .. | .metatable .. | .called .. => true
  | _ => false

/-- Events of a walk that passes landmarks. -/
inductive Passes : List Landmark → List Event → Prop
  | nil : Passes [] []
  | append {ls ms : List Landmark} {es fs : List Event} : Passes ls es → Passes ms fs → Passes (ls ++ ms) (es ++ fs)
  | aside {e : Event} : e.isAside = true → Passes [] [e]
  | stmt {ls : List Landmark} {c : Context} {s : Stmt} : Passes ls (stmtEvents c s) →
      Passes (.stmt s :: ls) (stmtEvents c s)
  | call {ls ms : List Landmark} {c : Context} {callee : Expr} {args : List Expr} (binding? : Option Binding)
      (range : Range) : Passes ls (exprEvents c callee) → Passes ms (exprsEvents c args) →
      Passes (.call callee args range :: ls ++ ms)
        (exprEvents c callee ++ callFacts binding? callee args range ++ exprsEvents c args)
  | body (name? : Option String) (f : FuncBody) :
      Passes [.body name? f] [.opened (functionChunk (name?.getD (anonymousName f)) f)]
  | declared {d : Declaration} {n : Declared} : d.IsOf n → Passes [.declared n] [.declared d]

namespace Passes

variable {ls : List Landmark} {es fs : List Event}

/-- Behind the landmarks there may be more to tell. -/
theorem before (h : Passes ls es) (h' : Passes [] fs) : Passes ls (es ++ fs) := by
  have happend := h.append h'
  rwa [List.append_nil] at happend

theorem flatten {lss : List (List Landmark)} {ess : List (List Event)} (h : List.Forall₂ Passes lss ess) :
    Passes lss.flatten ess.flatten := rel_flatten .nil .append h

theorem alternate {lss mss : List (List Landmark)} {ess fss : List (List Event)} (h : List.Forall₂ Passes lss ess)
    (h' : List.Forall₂ Passes mss fss) : Passes (alternate lss mss) (alternate ess fss) :=
  rel_alternate .nil .append h h'

theorem flatMap {α : Type} {l : α → Landmark} {f : α → List Event} (h : ∀ a, Passes [l a] (f a)) :
    ∀ as : List α, Passes (as.map l) (as.flatMap f)
  | [] => .nil
  | a :: as => (h a).append (flatMap h as)

end Passes

/-! ## Declarations -/

theorem heldFunction?_eq : ∀ e : Expr, heldFunction? e = e.function?
  | .paren e _ => heldFunction?_eq e
  | .func _ | .ident _ | .member .. | .index .. | .call .. | .table .. | .binary .. | .unary .. | .string ..
  | .number .. | .literal _ | .vararg _ => rfl

/-- A declaration that has learnt its value. -/
theorem isOf_withValue {d : Declaration} (hkind : d.kind = .var) (htag : d.tag? = none) (functionName : String)
    (value? : Option Expr) : (d.withValue functionName value?).IsOf ⟨d.name, d.range, value?⟩ := by
  have howned : (value?.bind heldFunction?) = (Declared.mk d.name d.range value?).function? := by
    unfold Declared.function?
    congr 1
    exact funext heldFunction?_eq
  unfold Declaration.withValue
  dsimp only
  rw [howned]
  split
  · rename_i f hplain
    refine ⟨rfl, rfl, rfl, ?_, ?_⟩
    · intro _
      unfold plainFunction? at hplain
      split at hplain
      · rfl
      · cases hplain
    · intro h
      simp [htag] at h
  · refine ⟨rfl, rfl, rfl, ?_, ?_⟩
    · intro h
      simp [hkind] at h
    · intro h
      simp [htag] at h

theorem isOf_localVar (c : Context) (x : Ident) : (localVar c x).IsOf ⟨x.name, x.range, none⟩ :=
  ⟨rfl, rfl, rfl, nofun, nofun⟩

theorem isOf_localDeclaration (c : Context) (x : Ident) (value? : Option Expr) :
    (localDeclaration c x value?).IsOf ⟨x.name, x.range, value?⟩ :=
  isOf_withValue (d := localVar c x) rfl rfl _ value?

theorem isOf_targetDeclaration (c : Context) (t : Expr) (name : String) (value? : Option Expr) :
    (targetDeclaration c t name value?).IsOf ⟨name, t.range, value?⟩ :=
  isOf_withValue (d := ⟨name, name, .var, t.range, c.isLocal name, c.stack, [], none, none, true⟩) rfl rfl _ value?

theorem isOf_entryDeclaration (c : Context) (base : Binding) (name : String) (key : Range) (value : Expr) :
    (entryDeclaration c base name key value).IsOf ⟨name, key, some value⟩ :=
  isOf_withValue (d := ⟨name, name, .var, key, base.isLocal, c.stack, [], none, none, false⟩) rfl rfl _ (some value)

theorem isOf_self (c : Context) (owner : String) (range : Range) :
    (selfDeclaration c owner range).IsOf ⟨"self", range, none⟩ :=
  ⟨rfl, rfl, rfl, nofun, fun _ => isImplicitSelf_self c owner range⟩

theorem isOf_function (c : Context) (isLocal : Bool) (name : Expr) (dotted : String) (f : FuncBody) :
    (functionDeclaration c isLocal name dotted f).IsOf ⟨dotted, name.range, some (.func f)⟩ :=
  ⟨rfl, rfl, rfl, fun _ => rfl, nofun⟩

namespace Passes

/-- A declaration with the place where its name is written. -/
theorem written {d : Declaration} {n : Declared} (h : d.IsOf n) : Passes [.declared n] [siteOf d, .declared d] :=
  (Passes.aside rfl).append (.declared h)

theorem localVars (c : Context) (xs : List Ident) : Passes (xs.map Ident.declared)
    (xs.flatMap fun x => [siteOf (localVar c x), .declared (localVar c x)]) :=
  flatMap (fun x => written (isOf_localVar c x)) xs

theorem localDeclarations (c : Context) : ∀ (xs : List Ident) (vs : List Expr), Passes (localLandmarks xs vs)
    ((localDeclarations c xs vs).flatMap fun d => [siteOf d, .declared d])
  | [], _ => .nil
  | x :: xs, [] => (written (isOf_localDeclaration c x none)).append (localDeclarations c xs [])
  | x :: xs, v :: vs => (written (isOf_localDeclaration c x (some v))).append (localDeclarations c xs vs)

theorem use (c : Context) (e : Expr) : Passes [] (use c e) := by
  unfold Walk.use
  split
  · exact .aside rfl
  · exact .nil

end Passes

theorem exprLandmarks_of_keySuffix? {key : Expr} {suffix : String} (h : key.keySuffix? = some suffix)
    (name? : Option String) : exprLandmarks name? key = [] := by
  cases key with
  | string value range => rw [exprLandmarks]
  | number raw range => rw [exprLandmarks]
  | _ => cases h

theorem exprLandmarks_key {base key : Expr} {range : Range} {name : String}
    (h : (Expr.index base key range).dottedName? = some name) : exprLandmarks none key = [] := by
  obtain ⟨suffix, hs⟩ := Expr.keySuffix?_of_dottedName? h
  exact exprLandmarks_of_keySuffix? hs none

/-! ## The walk passes the landmarks -/

/-- The names that bindings give to their values. -/
def boundNames (bs : List (Option Binding)) : List (Option String) := bs.map (·.map (·.name))

theorem boundNames_targets (c : Context) (ts : List Expr) :
    boundNames (ts.map (targetBinding? c)) = ts.map Expr.dottedName? := by
  unfold boundNames targetBinding?
  rw [List.map_map]
  apply List.map_congr_left
  intro t _
  simp [Function.comp_def]

mutual

theorem passes_expr (c : Context) : ∀ e : Expr, Passes (exprLandmarks none e) (exprEvents c e)
  | .ident id => by
    rw [exprLandmarks, exprEvents]
    exact .use c _
  | .member base accessor field range => by
    rw [exprLandmarks, exprEvents]
    exact (passes_expr c base).before (.use c _)
  | .index base key range => by
    rw [exprLandmarks, exprEvents]
    refine (passes_expr c base).append ?_
    split
    · rename_i name hname
      rw [exprLandmarks_key hname]
      exact .use c _
    · exact passes_expr c key
  | .call callee args range => by
    rw [exprLandmarks, exprEvents]
    exact .call none range (passes_expr c callee) (passes_exprs c args)
  | .func f => by
    rw [exprLandmarks, exprEvents]
    exact passes_function c none rfl f rfl
  | .table entries range => by
    rw [exprLandmarks, exprEvents]
    exact passes_entries c none entries
  | .binary left right range => by
    rw [exprLandmarks, exprEvents]
    exact (passes_expr c left).append (passes_expr c right)
  | .unary operand range => by
    rw [exprLandmarks, exprEvents]
    exact passes_expr c operand
  | .paren inner range => by
    rw [exprLandmarks, exprEvents]
    exact passes_expr c inner
  | .string .. | .number .. | .literal _ | .vararg _ => by
    rw [exprLandmarks, exprEvents]
    exact .nil

theorem passes_exprs (c : Context) : ∀ es : List Expr, Passes (exprsLandmarks es) (exprsEvents c es)
  | [] => by
    rw [exprsLandmarks, exprsEvents]
    exact .nil
  | e :: es => by
    rw [exprsLandmarks, exprsEvents]
    exact (passes_expr c e).append (passes_exprs c es)

theorem passes_value (c : Context) (b : Binding) : ∀ e : Expr,
    Passes (exprLandmarks (some b.name) e) (valueEvents c b e)
  | .func f => by
    rw [exprLandmarks, valueEvents]
    exact passes_function c none rfl f rfl
  | .table entries range => by
    rw [exprLandmarks, valueEvents]
    exact passes_entries c (some b) entries
  | .call callee args range => by
    rw [exprLandmarks, valueEvents]
    exact .call (some b) range (passes_expr c callee) (passes_exprs c args)
  | .paren inner range => by
    rw [exprLandmarks, valueEvents]
    exact passes_value c b inner
  | .ident id => by
    rw [exprLandmarks, valueEvents]
    exact (Passes.use c _).before (.aside rfl)
  | .member base accessor field range => by
    rw [exprLandmarks, valueEvents]
    refine ((passes_expr c base).before (.use c _)).before ?_
    cases (Expr.member base accessor field range).dottedName? with
    | none => exact .nil
    | some name => exact .aside rfl
  | .index base key range => by
    rw [exprLandmarks, valueEvents]
    refine (passes_expr c base).append ?_
    split
    · rename_i name hname
      rw [exprLandmarks_key hname]
      exact (Passes.use c _).before (.aside rfl)
    · exact passes_expr c key
  | .binary left right range => by
    rw [exprLandmarks, valueEvents]
    exact (passes_expr c left).append (passes_expr c right)
  | .unary operand range => by
    rw [exprLandmarks, valueEvents]
    exact passes_expr c operand
  | .string .. | .number .. | .literal _ | .vararg _ => by
    rw [exprLandmarks, valueEvents]
    exact .nil

theorem passes_values (c : Context) : ∀ (bs : List (Option Binding)) (vs : List Expr),
    List.Forall₂ Passes (valuesLandmarks (boundNames bs) vs) (valuesEvents c bs vs)
  | bs, [] => by
    rw [valuesLandmarks, valuesEvents]
    exact .nil
  | some b :: bs, v :: vs => by
    rw [valuesLandmarks, valuesEvents]
    exact .cons (passes_value c b v) (passes_values c bs vs)
  | none :: bs, v :: vs => by
    rw [valuesLandmarks, valuesEvents]
    exact .cons (passes_expr c v) (passes_values c bs vs)
  | [], v :: vs => by
    rw [valuesLandmarks, valuesEvents]
    exact .cons (passes_expr c v) (passes_values c [] vs)

theorem passes_entries (c : Context) (base? : Option Binding) : ∀ es : List TableEntry,
    Passes (entriesLandmarks (base?.map (·.name)) es) (entriesEvents c base? es)
  | [] => by
    rw [entriesLandmarks, entriesEvents]
    exact .nil
  | e :: es => by
    rw [entriesLandmarks, entriesEvents]
    exact (passes_entry c base? e).append (passes_entries c base? es)

theorem passes_entry (c : Context) (base? : Option Binding) : ∀ e : TableEntry,
    Passes (entryLandmarks (base?.map (·.name)) e) (entryEvents c base? e)
  | .named key value => by
    rw [entryLandmarks]
    unfold entryEvents
    cases base? with
    | none => exact passes_expr c value
    | some base =>
      exact (Passes.written (isOf_entryDeclaration c base (Name.field base.name key.name) key.range value)).append
        (passes_value c ⟨Name.field base.name key.name, base.isLocal, key.range.start.line⟩ value)
  | .indexed key value => by
    rw [entryLandmarks]
    unfold entryEvents entryName?
    cases hname : base?.bind fun b => key.keySuffix?.map (b.name ++ ·) with
    | none =>
      have hfield : ((base?.map (·.name)).bind fun name => key.keySuffix?.map (name ++ ·)) = none := by
        rw [Option.bind_map]
        exact hname
      simp only [hname, hfield]
      have hkey : Passes (exprLandmarks none key ++ []) (exprEvents c key) := by
        rw [List.append_nil]
        exact passes_expr c key
      exact hkey.append (passes_expr c value)
    | some name =>
      obtain ⟨base, rfl, hbase⟩ := Option.bind_eq_some_iff.1 hname
      obtain ⟨suffix, hsuffix, rfl⟩ := Option.map_eq_some_iff.1 hbase
      simp only [exprLandmarks_of_keySuffix? hsuffix, hsuffix, Option.map_some, Option.bind_some]
      exact (Passes.written (isOf_entryDeclaration c base (base.name ++ suffix) key.range value)).append
        (passes_value c ⟨base.name ++ suffix, base.isLocal, key.range.start.line⟩ value)
  | .positional value => by
    rw [entryLandmarks, entryEvents]
    exact passes_expr c value

/-- A function body that is called by the name it is bound to, or else by its line. -/
theorem passes_function (c : Context) {name? : Option String} {name : String} {implicit : List Ident}
    (receiver? : Option (String × Range)) (himplicit : implicit = (receiver?.map fun r => ⟨"self", r.2⟩).toList) :
    ∀ f : FuncBody, name = name?.getD (anonymousName f) →
      Passes (functionLandmarks name? implicit f) (functionEvents c name receiver? f)
  | .mk params isVararg body range, hname => by
    subst hname himplicit
    rw [functionLandmarks, List.map_append]
    unfold functionEvents
    refine ((Passes.append (.body name? _) ?_).append (.localVars _ params)).append (passes_block _ body)
    cases receiver? with
    | none => exact .nil
    | some receiver => exact .declared (isOf_self _ receiver.1 receiver.2)

theorem passes_block (c : Context) : ∀ b : Block, Passes (blockLandmarks b) (blockEvents c b)
  | .mk stmts range => by
    rw [blockLandmarks, blockEvents]
    exact passes_stmts c stmts

theorem passes_stmts (c : Context) : ∀ ss : List Stmt, Passes (stmtsLandmarks ss) (stmtsEvents c ss)
  | [] => by
    rw [stmtsLandmarks, stmtsEvents]
    exact .nil
  | s :: ss => by
    rw [stmtsLandmarks, stmtsEvents]
    exact (Passes.stmt (passes_stmt c s)).append (passes_stmts _ ss)

theorem passes_clauses (c : Context) : ∀ cs : List Clause, Passes (clausesLandmarks cs) (clausesEvents c cs)
  | [] => by
    rw [clausesLandmarks, clausesEvents]
    exact .nil
  | .mk (some condition) body :: cs => by
    rw [clausesLandmarks, clausesEvents]
    exact ((passes_expr c condition).append (passes_block c body)).append (passes_clauses c cs)
  | .mk none body :: cs => by
    rw [clausesLandmarks, clausesEvents]
    exact (passes_block c body).append (passes_clauses c cs)

theorem passes_stmt (c : Context) : ∀ s : Stmt, Passes (stmtLandmarks s) (stmtEvents c s)
  | .localVars names values range => by
    rw [stmtLandmarks, stmtEvents]
    have hvalues := passes_values c (names.map fun x => some ⟨x.name, true, x.range.start.line⟩) values
    rw [boundNames, List.map_map] at hvalues
    exact (Passes.localDeclarations c names values).append (.flatten hvalues)
  | .assign targets values range => by
    rw [stmtLandmarks, stmtEvents]
    have hvalues := passes_values c (targets.map (targetBinding? c)) values
    rw [boundNames_targets] at hvalues
    exact .alternate (passes_targets c targets values) hvalues
  | .funcDecl isLocal name f range => by
    rw [stmtLandmarks, stmtEvents]
    generalize c.withLocals (introduced (.funcDecl isLocal name f range)) = inner
    rw [List.append_assoc]
    refine (passes_expr inner name).append ?_
    cases hname : name.dottedName? with
    | some dotted =>
      exact (Passes.declared (isOf_function inner isLocal name dotted f)).append
        (passes_function inner (receiver? name) (implicitSelf_eq name) f rfl)
    | none =>
      rw [implicitSelf_of_unnamed hname]
      exact passes_function inner none rfl f rfl
  | .call callee args range => by
    rw [stmtLandmarks, stmtEvents]
    exact .call none range (passes_expr c callee) (passes_exprs c args)
  | .ret values range => by
    rw [stmtLandmarks, stmtEvents]
    exact passes_exprs c values
  | .branch clauses range => by
    rw [stmtLandmarks, stmtEvents]
    exact passes_clauses c clauses
  | .whileLoop condition body range => by
    rw [stmtLandmarks, stmtEvents]
    exact (passes_expr c condition).append (passes_block c body)
  | .repeatLoop body condition range => by
    rw [stmtLandmarks, stmtEvents]
    exact (passes_block c body).append (passes_expr c condition)
  | .doBlock body range => by
    rw [stmtLandmarks, stmtEvents]
    exact passes_block c body
  | .numericFor x start limit (some step) body range => by
    rw [stmtLandmarks, stmtEvents]
    refine .append (((passes_expr c start).append (passes_expr c limit)).append (passes_expr c step)) ?_
    exact (Passes.written (isOf_localVar c x)).append (passes_block _ body)
  | .numericFor x start limit none body range => by
    rw [stmtLandmarks, stmtEvents]
    refine .append ((passes_expr c start).append (passes_expr c limit)) ?_
    exact (Passes.written (isOf_localVar c x)).append (passes_block _ body)
  | .genericFor xs iterators body range => by
    rw [stmtLandmarks, stmtEvents]
    exact ((passes_exprs c iterators).append (.localVars c xs)).append (passes_block _ body)

/-- Each target of an assignment is met as an expression and then declared, if it has a name. -/
theorem passes_targets (c : Context) : ∀ ts vs : List Expr, List.Forall₂ Passes (targetsLandmarks ts vs)
    (List.zipWith (· ++ ·) (targetsEvents c ts) (targetDeclarations c ts vs))
  | [], vs => by
    rw [targetsLandmarks, targetsEvents]
    exact .nil
  | t :: ts, vs => by
    rw [targetsLandmarks, targetsEvents, targetDeclarations]
    refine .cons ((passes_expr c t).append ?_) (passes_targets c ts vs.tail)
    cases t.dottedName? with
    | none => exact .nil
    | some name => exact .declared (isOf_targetDeclaration c t name vs.head?)

end

/-- Behind its own chunk, a walk over a file passes the landmarks of the file. -/
theorem passes_file (uri : Uri) (file : File) :
    ∃ es, events uri file = .opened (fileChunk uri file) :: es ∧ Passes file.landmarks es :=
  ⟨_, rfl, passes_block _ file.body⟩

/-! ## Statements -/

/-- A statement of a file is met in one piece. -/
theorem Passes.stmt_mem {ls : List Landmark} {es : List Event} (h : Passes ls es) {s : Stmt} (hs : .stmt s ∈ ls) :
    ∃ c before after, es = before ++ stmtEvents c s ++ after := by
  induction h with
  | nil => cases hs
  | @append ls ms es fs _ _ ih ih' =>
    rcases List.mem_append.1 hs with hs | hs
    · obtain ⟨c, before, after, rfl⟩ := ih hs
      exact ⟨c, before, after ++ fs, by simp⟩
    · obtain ⟨c, before, after, rfl⟩ := ih' hs
      exact ⟨c, es ++ before, after, by simp⟩
  | aside he => cases hs
  | @stmt ls c s' _ ih =>
    rcases List.mem_cons.1 hs with hs | hs
    · cases hs
      exact ⟨c, [], [], by simp⟩
    · exact ih hs
  | @call ls ms c callee args binding? range _ _ ih ih' =>
    rw [List.cons_append] at hs
    rcases List.mem_cons.1 hs with hs | hs
    · cases hs
    rcases List.mem_append.1 hs with hs | hs
    · obtain ⟨c', before, after, hes⟩ := ih hs
      exact ⟨c', before, after ++ callFacts binding? callee args range ++ exprsEvents c args, by simp [hes]⟩
    · obtain ⟨c', before, after, hes⟩ := ih' hs
      exact ⟨c', exprEvents c callee ++ callFacts binding? callee args range ++ before, after, by simp [hes]⟩
  | body name? f => cases List.mem_singleton.1 hs
  | declared h => cases List.mem_singleton.1 hs

theorem stmt_met (uri : Uri) {file : File} {s : Stmt} (hs : s ∈ file.statements) :
    ∃ c before after, events uri file = before ++ stmtEvents c s ++ after := by
  obtain ⟨es, hes, hpasses⟩ := passes_file uri file
  obtain ⟨l, hl, hls⟩ := List.mem_filterMap.1 hs
  cases l with
  | stmt s' =>
    cases hls
    obtain ⟨c, before, after, rfl⟩ := hpasses.stmt_mem hl
    exact ⟨c, .opened (fileChunk uri file) :: before, after, by rw [hes]; simp⟩
  | _ => cases hls

end LuaAtlas.Walk
