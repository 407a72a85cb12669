/-
The order of a walk around function bodies. A symbol that owns a body is declared before that body is entered, and
what is declared inside a body is declared behind its opening. So a symbol can only own the body around a symbol
that is declared later, as long as bodies are told apart.
-/
import LuaAtlas.Proofs.Walk.Views
import Mathlib.Data.List.Nodup
import Mathlib.Data.List.Pairwise

namespace LuaAtlas

/-- The chunk as it encloses what stands in it. -/
def Chunk.ref (k : Chunk) : ChunkRef := ⟨k.name, k.range⟩

/-- The name of a chunk with the line on which it starts. -/
def ChunkRef.label (r : ChunkRef) : String × Nat := (r.name, r.range.start.line)

namespace Walk

open LuaAtlas.Syntax

/-! ## Events in order -/

/-- Events met directly inside the chunk `around`, with the events `behind` still to come: what is declared in another
chunk is declared behind where that one opens, and a body that a declaration owns opens behind it. -/
structure InOrder (around : Option ChunkRef) (behind es : List Event) : Prop where
  inside : ∀ {before after : List Event} {d : Declaration}, es = before ++ .declared d :: after →
    d.stack.getLast? = around ∨ ∃ k, .opened k ∈ before ∧ d.stack.getLast? = some k.ref
  owned : ∀ {before after : List Event} {d : Declaration} {k : Chunk}, es = before ++ .declared d :: after →
    d.ownedChunk? = some k → .opened k ∈ after ++ behind

namespace InOrder

variable {around : Option ChunkRef} {behind es fs : List Event}

theorem of_declarations_nil (h : declarations es = []) : InOrder around behind es := by
  have hnone : ∀ {before after d}, es ≠ before ++ .declared d :: after := by
    intro before after d hes
    have hd : d ∈ declarations es := List.mem_filterMap.2 ⟨.declared d, by simp [hes], rfl⟩
    rw [h] at hd
    cases hd
  exact ⟨fun hes => absurd hes hnone, fun hes => absurd hes hnone⟩

theorem nil : InOrder around behind [] := of_declarations_nil rfl

theorem declared {d : Declaration} (hstack : d.stack.getLast? = around)
    (howned : ∀ k, d.ownedChunk? = some k → .opened k ∈ behind) : InOrder around behind [.declared d] := by
  have honly : ∀ {before after d'}, [Event.declared d] = before ++ .declared d' :: after → d' = d ∧ after = [] := by
    intro before after d' hes
    obtain ⟨-, ha⟩ | ⟨-, hb⟩ := List.append_eq_singleton_iff.1 hes.symm
    · cases ha
      exact ⟨rfl, rfl⟩
    · cases hb
  constructor
  · intro before after d' hes
    obtain ⟨rfl, -⟩ := honly hes
    exact .inl hstack
  · intro before after d' k hes hk
    obtain ⟨rfl, rfl⟩ := honly hes
    exact howned k hk

theorem append (h : InOrder around (fs ++ behind) es) (h' : InOrder around behind fs) :
    InOrder around behind (es ++ fs) := by
  -- a declaration among the events of both stands either in `es`, with `fs` behind it, or in `fs`
  have hsplit : ∀ {before after d}, es ++ fs = before ++ .declared d :: after →
      (∃ after', es = before ++ .declared d :: after' ∧ after = after' ++ fs) ∨
        ∃ before', before = es ++ before' ∧ fs = before' ++ .declared d :: after := by
    intro before after d hes
    obtain ⟨before', hb, hf⟩ | ⟨rest, he, ha⟩ := List.append_eq_append_iff.1 hes
    · exact .inr ⟨before', hb, hf⟩
    · cases rest with
      | nil => exact .inr ⟨[], by simpa using he.symm, ha.symm⟩
      | cons e rest =>
        cases ha
        exact .inl ⟨rest, he, rfl⟩
  constructor
  · intro before after d hes
    rcases hsplit hes with ⟨after', he, -⟩ | ⟨before', rfl, hf⟩
    · exact h.inside he
    · exact (h'.inside hf).imp id fun ⟨k, hk, hd⟩ => ⟨k, List.mem_append_right es hk, hd⟩
  · intro before after d k hes hk
    rcases hsplit hes with ⟨after', he, rfl⟩ | ⟨before', -, hf⟩
    · rw [List.append_assoc]
      exact h.owned he hk
    · exact h'.owned hf hk

/-- More may come behind. -/
theorem mono {behind' : List Event} (h : InOrder around behind es) (hsub : behind ⊆ behind') :
    InOrder around behind' es :=
  ⟨h.inside, fun hes hk => List.append_subset.2 ⟨List.subset_append_left _ _,
    List.subset_append_of_subset_right _ hsub⟩ (h.owned hes hk)⟩

/-- Events that owe nothing are in order before any others. -/
theorem seq (h : InOrder around [] es) (h' : InOrder around behind fs) : InOrder around behind (es ++ fs) :=
  (h.mono (List.nil_subset _)).append h'

theorem flatten {ess : List (List Event)} (h : ∀ es ∈ ess, InOrder around [] es) : InOrder around [] ess.flatten := by
  induction ess with
  | nil => exact .nil
  | cons es ess ih => exact (h es (List.mem_cons_self ..)).seq (ih fun fs hfs => h fs (List.mem_cons_of_mem _ hfs))

/-- What is declared in a body stands behind its opening. -/
theorem body {k : Chunk} {inner : Option ChunkRef} (hinner : inner = some k.ref) (h : InOrder inner [] es) :
    InOrder around [] (.opened k :: es) := by
  subst hinner
  have hsplit : ∀ {before after d}, .opened k :: es = before ++ .declared d :: after →
      ∃ before', before = .opened k :: before' ∧ es = before' ++ .declared d :: after := by
    intro before after d hes
    obtain ⟨-, ha⟩ | ⟨before', hb, hes⟩ := List.cons_eq_append_iff.1 hes
    · cases ha
    · exact ⟨before', hb, hes⟩
  constructor
  · intro before after d hes
    obtain ⟨before', rfl, hbody⟩ := hsplit hes
    rcases h.inside hbody with hd | ⟨k', hk', hd⟩
    · exact .inr ⟨k, List.mem_cons_self .., hd⟩
    · exact .inr ⟨k', List.mem_cons_of_mem _ hk', hd⟩
  · intro before after d k' hes hk'
    obtain ⟨before', rfl, hbody⟩ := hsplit hes
    exact h.owned hbody hk'

end InOrder

/-! ## Declarations and the bodies they own -/

/-- The chunk around a place. -/
def Context.around (c : Context) : Option ChunkRef := c.stack.getLast?

@[simp] theorem around_enter (c : Context) (r : ChunkRef) : (c.enter r).around = some r := List.getLast?_concat

theorem withValue_stack (d : Declaration) (functionName : String) (value? : Option Expr) :
    (d.withValue functionName value?).stack = d.stack :=
  congrArg Placement.stack (d.withValue_placement functionName value?)

theorem withValue_ownedChunk? (d : Declaration) (functionName : String) (value? : Option Expr) :
    (d.withValue functionName value?).ownedChunk? = (value?.bind heldFunction?).map (functionChunk d.name) := by
  unfold Declaration.withValue
  split <;> rfl

/-- A value that holds a function opens its body under the name it is bound to. -/
theorem opened_mem_valueEvents (c : Context) (b : Binding) : ∀ {v : Expr} {f : FuncBody}, heldFunction? v = some f →
    .opened (functionChunk b.name f) ∈ valueEvents c b v
  | .func (.mk params isVararg body range), _, h => by
    cases h
    unfold valueEvents functionEvents
    exact List.mem_cons_self ..
  | .paren inner _, f, h => by
    rw [heldFunction?] at h
    rw [valueEvents]
    exact opened_mem_valueEvents c b h
  | .ident _, _, h | .member .., _, h | .index .., _, h | .call .., _, h | .table .., _, h | .binary .., _, h
  | .unary .., _, h | .string .., _, h | .number .., _, h | .literal _, _, h | .vararg _, _, h => by cases h

variable (c : Context)

/-- The declaration of a name by its value, before what the value holds. -/
theorem inOrder_withValue {d : Declaration} (hstack : d.stack = c.stack) (functionName : String) {b : Binding}
    (hname : b.name = d.name) {value : Expr} {behind : List Event} (hvalue : valueEvents c b value ⊆ behind) :
    InOrder c.around behind [.declared (d.withValue functionName (some value))] := by
  refine .declared ?_ fun k hk => ?_
  · rw [withValue_stack, hstack]
    rfl
  · rw [withValue_ownedChunk?, Option.bind_some] at hk
    obtain ⟨f, hf, rfl⟩ := Option.map_eq_some_iff.1 hk
    rw [← hname]
    exact hvalue (opened_mem_valueEvents c b hf)

/-- A declaration without a value owns no body. -/
theorem inOrder_withoutValue {d : Declaration} (hstack : d.stack = c.stack) (functionName : String)
    (behind : List Event) : InOrder c.around behind [.declared (d.withValue functionName none)] := by
  refine .declared ?_ fun k hk => ?_
  · rw [withValue_stack, hstack]
    rfl
  · rw [withValue_ownedChunk?] at hk
    cases hk

theorem inOrder_use (e : Expr) : InOrder c.around [] (use c e) :=
  .of_declarations_nil (by unfold use; split <;> rfl)

theorem inOrder_callFacts (binding? : Option Binding) (callee : Expr) (args : List Expr) (range : Range) :
    InOrder c.around [] (callFacts binding? callee args range) := by
  refine .of_declarations_nil ?_
  unfold callFacts declarations
  rw [List.filterMap_append]
  refine List.append_eq_nil_iff.2 ⟨?_, ?_⟩
  · split <;> rfl
  · split
    · rfl
    · split <;> rfl

/-- Plain locals, each with the place where it is written. -/
theorem inOrder_localVars (xs : List Ident) :
    InOrder c.around [] (xs.flatMap fun x => [siteOf (localVar c x), .declared (localVar c x)]) := by
  induction xs with
  | nil => exact .nil
  | cons x xs ih =>
    have hsite : InOrder c.around [] [siteOf (localVar c x)] := .of_declarations_nil rfl
    exact (hsite.seq (.declared rfl fun k hk => by cases hk)).seq ih

/-- The names of a `local` statement are declared before all of its values. -/
theorem inOrder_locals : ∀ (xs : List Ident) (vs : List Expr) {behind : List Event},
    (valuesEvents c (xs.map fun x => some ⟨x.name, true, x.range.start.line⟩) vs).flatten ⊆ behind →
    InOrder c.around behind ((localDeclarations c xs vs).flatMap fun d => [siteOf d, .declared d])
  | [], _, _, _ => .nil
  | x :: xs, [], behind, h => by
    have hsite : InOrder c.around [] [siteOf (localDeclaration c x none)] := .of_declarations_nil rfl
    exact (hsite.seq (inOrder_withoutValue c rfl _ _)).append (inOrder_locals xs [] h)
  | x :: xs, v :: vs, behind, h => by
    rw [List.map_cons, valuesEvents, List.flatten_cons] at h
    obtain ⟨hvalue, hvalues⟩ := List.append_subset.1 h
    have hsite : InOrder c.around [] [siteOf (localDeclaration c x (some v))] := .of_declarations_nil rfl
    have hx : InOrder c.around behind [.declared (localDeclaration c x (some v))] :=
      inOrder_withValue c (b := ⟨x.name, true, x.range.start.line⟩) rfl _ rfl hvalue
    exact (hsite.seq (hx.mono (List.subset_append_right _ _))).append (inOrder_locals xs vs hvalues)

/-- The targets of an assignment are declared in turns with what their values hold. -/
theorem inOrder_assignment : ∀ (ts vs : List Expr), (∀ t ∈ ts, InOrder c.around [] (exprEvents c t)) →
    (∀ es ∈ valuesEvents c (ts.map (targetBinding? c)) vs, InOrder c.around [] es) →
    InOrder c.around [] (alternate (List.zipWith (· ++ ·) (targetsEvents c ts) (targetDeclarations c ts vs))
      (valuesEvents c (ts.map (targetBinding? c)) vs))
  | [], vs, _, hvs => by
    rw [targetsEvents, List.zipWith_nil_left, alternate_nil_left]
    exact .flatten hvs
  | t :: ts, [], hts, hvs => by
    have hrest := inOrder_assignment ts [] (fun u hu => hts u (List.mem_cons_of_mem t hu)) fun es hes => by
      rw [valuesEvents] at hes
      cases hes
    rw [valuesEvents, alternate_nil_right] at hrest ⊢
    rw [targetsEvents, targetDeclarations, List.zipWith_cons_cons, List.flatten_cons]
    refine InOrder.seq ((hts t (List.mem_cons_self ..)).seq ?_) hrest
    cases t.dottedName? with
    | none => exact .nil
    | some name => exact inOrder_withoutValue c rfl _ _
  | t :: ts, v :: vs, hts, hvs => by
    rw [List.map_cons] at hvs ⊢
    rw [targetsEvents, targetDeclarations, List.zipWith_cons_cons]
    have ht := hts t (List.mem_cons_self ..)
    have hrest := fun h => inOrder_assignment ts vs (fun u hu => hts u (List.mem_cons_of_mem t hu)) h
    cases hname : t.dottedName? with
    | none =>
      have hb : targetBinding? c t = none := by rw [targetBinding?, hname, Option.map_none]
      rw [hb, valuesEvents] at hvs ⊢
      obtain ⟨hv, hvs⟩ := List.forall_mem_cons.1 hvs
      exact ((ht.seq .nil).seq hv).seq (hrest hvs)
    | some name =>
      have hb : targetBinding? c t = some ⟨name, c.isLocal name, t.range.start.line⟩ := by
        rw [targetBinding?, hname, Option.map_some]
      rw [hb, valuesEvents] at hvs ⊢
      obtain ⟨hv, hvs⟩ := List.forall_mem_cons.1 hvs
      have hd : InOrder c.around _ [.declared (targetDeclaration c t name (some v))] :=
        inOrder_withValue c (b := ⟨name, c.isLocal name, t.range.start.line⟩) rfl _ rfl (List.subset_append_left _ [])
      exact ((ht.seq hd).append hv).seq (hrest hvs)

/-- An entry of a table with a name is declared before what its value holds. -/
theorem inOrder_declaredEntry (base : Binding) (name : String) (key : Range) (value : Expr)
    (h : InOrder c.around [] (valueEvents c ⟨name, base.isLocal, key.start.line⟩ value)) :
    InOrder c.around [] (siteOf (entryDeclaration c base name key value) ::
      .declared (entryDeclaration c base name key value) ::
      valueEvents c ⟨name, base.isLocal, key.start.line⟩ value) := by
  have hsite : InOrder c.around [] [siteOf (entryDeclaration c base name key value)] := .of_declarations_nil rfl
  have hd : InOrder c.around _ [.declared (entryDeclaration c base name key value)] :=
    inOrder_withValue c (b := ⟨name, base.isLocal, key.start.line⟩) rfl _ rfl (List.subset_append_left _ [])
  exact hsite.seq (hd.append h)

/-! ## The walk is in order -/

mutual

theorem inOrder_expr (c : Context) : ∀ e : Expr, InOrder c.around [] (exprEvents c e)
  | .ident id => by
    rw [exprEvents]
    exact inOrder_use c _
  | .member base accessor field range => by
    rw [exprEvents]
    exact (inOrder_expr c base).seq (inOrder_use c _)
  | .index base key range => by
    rw [exprEvents]
    refine (inOrder_expr c base).seq ?_
    split
    · exact inOrder_use c _
    · exact inOrder_expr c key
  | .call callee args range => by
    rw [exprEvents]
    exact ((inOrder_expr c callee).seq (inOrder_callFacts c ..)).seq (inOrder_exprs c args)
  | .func f => by
    rw [exprEvents]
    exact inOrder_function c _ none f
  | .table entries range => by
    rw [exprEvents]
    exact inOrder_entries c none entries
  | .binary left right range => by
    rw [exprEvents]
    exact (inOrder_expr c left).seq (inOrder_expr c right)
  | .unary operand range => by
    rw [exprEvents]
    exact inOrder_expr c operand
  | .paren inner range => by
    rw [exprEvents]
    exact inOrder_expr c inner
  | .string .. | .number .. | .literal _ | .vararg _ => by
    rw [exprEvents]
    exact .nil

theorem inOrder_exprs (c : Context) : ∀ es : List Expr,
    InOrder c.around [] (exprsEvents c es)
  | [] => by
    rw [exprsEvents]
    exact .nil
  | e :: es => by
    rw [exprsEvents]
    exact (inOrder_expr c e).seq (inOrder_exprs c es)

theorem inOrder_value (c : Context) (b : Binding) : ∀ e : Expr,
    InOrder c.around [] (valueEvents c b e)
  | .func f => by
    rw [valueEvents]
    exact inOrder_function c _ none f
  | .table entries range => by
    rw [valueEvents]
    exact inOrder_entries c (some b) entries
  | .call callee args range => by
    rw [valueEvents]
    exact ((inOrder_expr c callee).seq (inOrder_callFacts c ..)).seq (inOrder_exprs c args)
  | .paren inner range => by
    rw [valueEvents]
    exact inOrder_value c b inner
  | .ident id => by
    rw [valueEvents]
    exact (inOrder_use c _).seq (.of_declarations_nil rfl)
  | .member base accessor field range => by
    rw [valueEvents]
    refine ((inOrder_expr c base).seq (inOrder_use c _)).seq (.of_declarations_nil ?_)
    cases (Expr.member base accessor field range).dottedName? <;> rfl
  | .index base key range => by
    rw [valueEvents]
    refine (inOrder_expr c base).seq ?_
    split
    · exact (inOrder_use c _).seq (.of_declarations_nil rfl)
    · exact inOrder_expr c key
  | .binary left right range => by
    rw [valueEvents]
    exact (inOrder_expr c left).seq (inOrder_expr c right)
  | .unary operand range => by
    rw [valueEvents]
    exact inOrder_expr c operand
  | .string .. | .number .. | .literal _ | .vararg _ => by
    rw [valueEvents]
    exact .nil

theorem inOrder_values (c : Context) : ∀ (bs : List (Option Binding)) (vs : List Expr),
    ∀ es ∈ valuesEvents c bs vs, InOrder c.around [] es
  | bs, [] => by
    rw [valuesEvents]
    exact fun es hes => by cases hes
  | some b :: bs, v :: vs => by
    rw [valuesEvents]
    exact List.forall_mem_cons.2 ⟨inOrder_value c b v, inOrder_values c bs vs⟩
  | none :: bs, v :: vs => by
    rw [valuesEvents]
    exact List.forall_mem_cons.2 ⟨inOrder_expr c v, inOrder_values c bs vs⟩
  | [], v :: vs => by
    rw [valuesEvents]
    exact List.forall_mem_cons.2 ⟨inOrder_expr c v, inOrder_values c [] vs⟩

theorem inOrder_entries (c : Context) (base? : Option Binding) :
    ∀ es : List TableEntry, InOrder c.around [] (entriesEvents c base? es)
  | [] => by
    rw [entriesEvents]
    exact .nil
  | e :: es => by
    rw [entriesEvents]
    exact (inOrder_entry c base? e).seq (inOrder_entries c base? es)

theorem inOrder_entry (c : Context) (base? : Option Binding) :
    ∀ e : TableEntry, InOrder c.around [] (entryEvents c base? e)
  | .named key value => by
    unfold entryEvents
    split
    · exact inOrder_declaredEntry c _ _ _ value (inOrder_value c _ value)
    · exact inOrder_expr c value
  | .indexed key value => by
    unfold entryEvents
    split
    · exact inOrder_declaredEntry c _ _ _ value (inOrder_value c _ value)
    · exact (inOrder_expr c key).seq (inOrder_expr c value)
  | .positional value => by
    rw [entryEvents]
    exact inOrder_expr c value

/-- Whatever the chunk around a function, nothing in the function is declared in it. -/
theorem inOrder_function (c : Context) (name : String) (receiver? : Option (String × Range))
    {around : Option ChunkRef} : ∀ f : FuncBody, InOrder around [] (functionEvents c name receiver? f)
  | .mk params isVararg body range => by
    unfold functionEvents
    refine InOrder.body (around_enter c ⟨name, range⟩) ?_
    refine InOrder.seq (InOrder.seq ?_ (inOrder_localVars _ params)) (inOrder_block ((c.enter _).withLocals _) body)
    cases receiver? with
    | none => exact .nil
    | some receiver => exact .declared rfl fun k hk => by cases hk

theorem inOrder_block (c : Context) : ∀ b : Block,
    InOrder c.around [] (blockEvents c b)
  | .mk stmts range => by
    rw [blockEvents]
    exact inOrder_stmts c stmts

theorem inOrder_stmts (c : Context) : ∀ ss : List Stmt,
    InOrder c.around [] (stmtsEvents c ss)
  | [] => by
    rw [stmtsEvents]
    exact .nil
  | s :: ss => by
    rw [stmtsEvents]
    exact (inOrder_stmt c s).seq (inOrder_stmts (c.withLocals _) ss)

theorem inOrder_clauses (c : Context) : ∀ cs : List Clause,
    InOrder c.around [] (clausesEvents c cs)
  | [] => by
    rw [clausesEvents]
    exact .nil
  | .mk (some condition) body :: cs => by
    rw [clausesEvents]
    exact ((inOrder_expr c condition).seq (inOrder_block c body)).seq (inOrder_clauses c cs)
  | .mk none body :: cs => by
    rw [clausesEvents]
    exact (inOrder_block c body).seq (inOrder_clauses c cs)

theorem inOrder_stmt (c : Context) : ∀ s : Stmt,
    InOrder c.around [] (stmtEvents c s)
  | .localVars names values range => by
    rw [stmtEvents]
    refine InOrder.append (inOrder_locals c names values ?_) (.flatten (inOrder_values c _ values))
    exact List.subset_append_left _ _
  | .assign targets values range => by
    rw [stmtEvents]
    exact inOrder_assignment c targets values (inOrder_each c targets) (inOrder_values c _ values)
  | .funcDecl isLocal name f range => by
    rw [stmtEvents]
    refine InOrder.seq (inOrder_expr (c.withLocals _) name) ?_
    split
    · rename_i dotted _
      rw [← List.singleton_append]
      refine InOrder.append (.declared rfl fun k hk => ?_) (inOrder_function _ dotted (receiver? name) f)
      cases hk
      obtain ⟨params, isVararg, body, range⟩ := f
      unfold functionEvents
      exact List.mem_cons_self ..
    · exact inOrder_function _ _ none f
  | .call callee args range => by
    rw [stmtEvents]
    exact ((inOrder_expr c callee).seq (inOrder_callFacts c ..)).seq (inOrder_exprs c args)
  | .ret values range => by
    rw [stmtEvents]
    exact inOrder_exprs c values
  | .branch clauses range => by
    rw [stmtEvents]
    exact inOrder_clauses c clauses
  | .whileLoop condition body range => by
    rw [stmtEvents]
    exact (inOrder_expr c condition).seq (inOrder_block c body)
  | .repeatLoop body condition range => by
    rw [stmtEvents]
    exact (inOrder_block c body).seq (inOrder_expr c condition)
  | .doBlock body range => by
    rw [stmtEvents]
    exact inOrder_block c body
  | .numericFor x start limit (some step) body range => by
    rw [stmtEvents]
    refine InOrder.seq (((inOrder_expr c start).seq (inOrder_expr c limit)).seq (inOrder_expr c step)) ?_
    exact (inOrder_localVars c [x]).seq (inOrder_block (c.withLocals _) body)
  | .numericFor x start limit none body range => by
    rw [stmtEvents]
    refine InOrder.seq ((inOrder_expr c start).seq (inOrder_expr c limit)) ?_
    exact (inOrder_localVars c [x]).seq (inOrder_block (c.withLocals _) body)
  | .genericFor xs iterators body range => by
    rw [stmtEvents]
    exact ((inOrder_exprs c iterators).seq (inOrder_localVars c xs)).seq (inOrder_block (c.withLocals _) body)

theorem inOrder_each (c : Context) : ∀ ts : List Expr,
    ∀ t ∈ ts, InOrder c.around [] (exprEvents c t)
  | [] => fun t ht => by cases ht
  | t :: ts => List.forall_mem_cons.2 ⟨inOrder_expr c t, inOrder_each c ts⟩

end

/-- A walk over a file is in order around its function bodies. -/
theorem inOrder_events (uri : Uri) (file : File) :
    InOrder (some (fileChunk uri file).ref) [] (events uri file) :=
  InOrder.body rfl (inOrder_block ⟨[(fileChunk uri file).ref], []⟩ file.body)

/-! ## Owners come first -/

/-- As long as no two chunks have the same label, no declaration owns the body around one before it. -/
theorem InOrder.pairwise {around : Option ChunkRef} {es : List Event} (h : InOrder around [] es)
    (hlabels : ((Declare.chunks es).map (·.ref.label)).Nodup) :
    (declarations es).Pairwise fun d o => ∀ r k, d.stack.getLast? = some r → o.ownedChunk? = some k →
      some r ≠ around → r.label ≠ k.ref.label := by
  have hes : es.Pairwise fun e f => ∀ d o, e = .declared d → f = .declared o → ∀ r k, d.stack.getLast? = some r →
      o.ownedChunk? = some k → some r ≠ around → r.label ≠ k.ref.label := by
    refine List.pairwise_iff_forall_sublist.2 fun {e f} hsub => ?_
    rintro d o rfl rfl r k hr hk hother hlabel
    obtain ⟨front, back, rfl, hd, ho⟩ := List.cons_sublist_iff.1 hsub
    obtain ⟨before, between, rfl⟩ := List.append_of_mem hd
    obtain ⟨between', after, rfl⟩ := List.append_of_mem (List.singleton_sublist.1 ho)
    obtain ⟨k', hopened, hr'⟩ : ∃ k', .opened k' ∈ before ∧ some r = some k'.ref := by
      have hsplit : (before ++ .declared d :: between) ++ (between' ++ .declared o :: after) =
          before ++ .declared d :: (between ++ (between' ++ .declared o :: after)) := List.append_assoc ..
      rcases h.inside hsplit with hd | ⟨k', hk', hd⟩
      · exact absurd (hr.symm.trans hd) hother
      · exact ⟨k', hk', hr.symm.trans hd⟩
    have howned : .opened k ∈ after := by
      have hsplit : (before ++ .declared d :: between) ++ (between' ++ .declared o :: after) =
          ((before ++ .declared d :: between) ++ between') ++ .declared o :: after := (List.append_assoc ..).symm
      simpa using h.owned hsplit hk
    -- the chunk around `d` opens before it and the one that `o` owns behind it, both with the same label
    unfold Declare.chunks at hlabels
    rw [List.append_assoc, List.filterMap_append, List.map_append] at hlabels
    refine List.disjoint_of_nodup_append hlabels (a := k.ref.label) ?_ ?_
    · exact List.mem_map.2 ⟨k', List.mem_filterMap.2 ⟨_, hopened, rfl⟩, by rw [← hlabel, Option.some.inj hr']⟩
    · refine List.mem_map.2 ⟨k, List.mem_filterMap.2 ⟨.opened k, ?_, rfl⟩, rfl⟩
      simp [howned]
  refine hes.filterMap _ fun e f hef d hd o ho => hef d o ?_ ?_
  · cases e <;> cases hd
    rfl
  · cases f <;> cases ho
    rfl

end Walk

end LuaAtlas
