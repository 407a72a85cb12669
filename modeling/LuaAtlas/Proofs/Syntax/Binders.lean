/-
Names are bound before they are used. Whatever binds a name stands before the part of the text that sees it: the
statements behind a `local` statement, the body behind the parameters and behind the name of the function, the body of
a loop behind its variables. So no use of a variable begins before the place where it is bound. Of the condition of a
`repeat` loop nothing is said.
-/
import LuaAtlas.Proofs.Syntax.Recovery
import LuaAtlas.Proofs.Syntax.Scoping

namespace LuaAtlas.Syntax

open LuaAtlas.Walk (alternate)

/-- Outside the conditions of `repeat` loops all names in scope are bound at `p` or before. -/
def Scope.Precedes (σ : Scope) (p : Position) : Prop := σ.inCondition = true ∨ ∀ b ∈ σ.binders, b.range.start ≤ p

namespace Scope.Precedes

variable {σ : Scope} {p q : Position} {xs : List Ident}

theorem outermost (p : Position) : Scope.outermost.Precedes p := .inr (List.forall_mem_nil _)

theorem condition (σ : Scope) (p : Position) : σ.condition.Precedes p := .inl rfl

theorem mono (h : σ.Precedes p) (hle : p ≤ q) : σ.Precedes q := h.imp id fun hb x hx => (hb x hx).trans hle

theorem bind (h : σ.Precedes p) (hxs : ∀ x ∈ xs, x.range.start ≤ p) : (σ.bind xs).Precedes p := by
  refine h.imp id fun hb x hx => ?_
  rcases List.mem_append.1 hx with hx | hx
  · exact hxs x (List.mem_reverse.1 hx)
  · exact hb x hx

end Scope.Precedes

/-- A block that is empty or sees no names that are bound behind its beginning. -/
def Block.IsPreceded (b : Block) (σ : Scope) : Prop := b.stmts = [] ∨ σ.Precedes b.range.start

/-- A block sees the names that stand in front of it. -/
theorem Block.IsPreceded.bind {σ : Scope} {xs : List Ident} {b : Block} (h : b.IsPreceded σ)
    (hxs : ∀ x ∈ xs, x.range.start ≤ x.range.stop ∧ b.StandsBehind x.range) : b.IsPreceded (σ.bind xs) := by
  rcases h with hempty | hσ
  · exact .inl hempty
  by_cases hempty : b.stmts = []
  · exact .inl hempty
  · exact .inr (hσ.bind fun x hx => (hxs x hx).1.trans ((hxs x hx).2.resolve_left hempty))

/-- What a mention uses is bound before. -/
def Mention.IsPreceded : Mention → Prop
  | .used e σ => σ.Precedes e.range.start
  | _ => True

/-- What some mentions use is bound before. -/
def ArePreceded (ms : List Mention) : Prop := ∀ m ∈ ms, m.IsPreceded

namespace ArePreceded

variable {ms ns : List Mention}

theorem nil : ArePreceded [] := List.forall_mem_nil _

theorem one {m : Mention} (h : m.IsPreceded) : ArePreceded [m] := List.forall_mem_singleton.2 h

theorem append (h : ArePreceded ms) (h' : ArePreceded ns) : ArePreceded (ms ++ ns) := List.forall_mem_append.2 ⟨h, h'⟩

theorem ofIf {p : Prop} [Decidable p] {m : Mention} (h : m.IsPreceded) : ArePreceded (if p then [m] else []) := by
  split
  · exact one h
  · exact nil

theorem introduced (xs : List Ident) : ArePreceded (xs.map .introduced) := by
  intro m hm
  obtain ⟨x, -, rfl⟩ := List.mem_map.1 hm
  trivial

theorem alternate {mss nss : List (List Mention)} (h : ArePreceded mss.flatten) (h' : ArePreceded nss.flatten) :
    ArePreceded (alternate mss nss) := fun m hm => (Walk.mem_alternate.1 hm).elim (h m) (h' m)

end ArePreceded

theorem argumentMentions_preceded (callee : Expr) (args : List Expr) : ArePreceded (argumentMentions callee args) := by
  unfold argumentMentions
  split
  · exact .one trivial
  · exact .nil

section

variable {isValue : String → String → Prop} {text : List Char} {σ : Scope} {outer : Range}

/-- The implicit parameter of a method stands within the method's name. -/
theorem liesProperlyIn_implicitSelf {name : Expr} (h : Expr.IsFaithful isValue text outer name) :
    ∀ x ∈ implicitSelf name, x.range.LiesProperlyIn name.range := by
  intro x hx
  unfold implicitSelf at hx
  split at hx
  · split at hx
    · obtain rfl := List.mem_singleton.1 hx
      cases h with
      | member _ _ hfield => exact hfield.liesIn
    · cases hx
  · cases hx

theorem binders_funcDecl {isLocal : Bool} {name : Expr} {f : FuncBody} {r : Range} {x : Ident}
    (hx : x ∈ (Stmt.funcDecl isLocal name f r).binders) : name = .ident x := by
  unfold Stmt.binders at hx
  split at hx
  · rename_i heq
    cases heq
  · rename_i heq
    cases heq
    rw [List.mem_singleton.1 hx]
  · cases hx

/-- What a statement binds stands in it. -/
theorem Stmt.IsFaithful.liesProperlyIn_binders {s : Stmt} (h : Stmt.IsFaithful isValue text outer s) :
    ∀ x ∈ s.binders, x.range.LiesProperlyIn s.range := by
  intro x hx
  cases h with
  | localVars _ hnames _ _ _ => exact (hnames x hx).liesIn
  | funcDecl _ hname _ _ =>
    obtain rfl := binders_funcDecl hx
    exact hname.liesIn
  | _ => cases hx

mutual

theorem exprMentions_preceded (owner? : Option Owner) : ∀ (e : Expr) {σ : Scope} {outer : Range},
    Expr.IsFaithful isValue text outer e → σ.Precedes e.range.start → ArePreceded (exprMentions σ owner? e)
  | .ident id, _, _, _, hσ => .one hσ
  | .member base accessor field range, _, _, h, hσ => by
    cases h with
    | member _ hbase _ =>
      rw [exprMentions]
      exact (exprMentions_preceded none base hbase (hσ.mono hbase.liesIn.start_le)).append (.ofIf hσ)
  | .index base key range, _, _, h, hσ => by
    cases h with
    | index _ hbase hkey =>
      rw [exprMentions]
      refine (exprMentions_preceded none base hbase (hσ.mono hbase.liesIn.start_le)).append ?_
      split
      · exact .one hσ
      · exact exprMentions_preceded none key hkey (hσ.mono hkey.liesIn.start_le)
  | .call callee args range, _, _, h, hσ => by
    cases h with
    | call _ hcallee hargs _ =>
      rw [exprMentions]
      have hcallee := exprMentions_preceded none callee hcallee (hσ.mono hcallee.liesIn.start_le)
      exact (hcallee.append (argumentMentions_preceded callee args)).append (exprsMentions_preceded args hargs hσ)
  | .func f, _, _, h, hσ => by
    cases h with
    | func hf =>
      rw [exprMentions]
      exact functionMentions_preceded [] f hf (.inr (hσ.mono hf.body_start)) (List.forall_mem_nil _)
  | .table entries range, _, _, h, hσ => by
    cases h with
    | table _ hentries =>
      rw [exprMentions]
      exact entriesMentions_preceded owner? entries hentries hσ
  | .binary left right range, _, _, h, hσ => by
    cases h with
    | binary _ hleft hright =>
      rw [exprMentions]
      exact (exprMentions_preceded none left hleft (hσ.mono hleft.liesIn.start_le)).append
        (exprMentions_preceded none right hright (hσ.mono hright.liesIn.start_le))
  | .unary operand range, _, _, h, hσ => by
    cases h with
    | unary _ hoperand =>
      rw [exprMentions]
      exact exprMentions_preceded none operand hoperand (hσ.mono hoperand.liesIn.start_le)
  | .paren inner range, _, _, h, hσ => by
    cases h with
    | paren _ hinner =>
      rw [exprMentions]
      exact exprMentions_preceded owner? inner hinner (hσ.mono hinner.liesIn.start_le)
  | .string .., _, _, _, _ | .number .., _, _, _, _ | .literal _, _, _, _, _ | .vararg _, _, _, _, _ => .nil

theorem exprsMentions_preceded : ∀ (es : List Expr) {σ : Scope} {r : Range},
    (∀ e ∈ es, Expr.IsFaithful isValue text r e) → σ.Precedes r.start → ArePreceded (exprsMentions σ es)
  | [], _, _, _, _ => .nil
  | e :: es, _, _, h, hσ => by
    obtain ⟨he, hes⟩ := List.forall_mem_cons.1 h
    rw [exprsMentions]
    exact (exprMentions_preceded none e he (hσ.mono he.liesIn.start_le)).append (exprsMentions_preceded es hes hσ)

theorem valuesMentions_preceded : ∀ (owners : List (Option Owner)) (vs : List Expr) {σ : Scope} {r : Range},
    (∀ e ∈ vs, Expr.IsFaithful isValue text r e) → σ.Precedes r.start →
    ArePreceded (valuesMentions σ owners vs).flatten
  | _, [], _, _, _, _ => .nil
  | owners, v :: vs, _, _, h, hσ => by
    obtain ⟨hv, hvs⟩ := List.forall_mem_cons.1 h
    rw [valuesMentions, List.flatten_cons]
    exact (exprMentions_preceded _ v hv (hσ.mono hv.liesIn.start_le)).append
      (valuesMentions_preceded owners.tail vs hvs hσ)

theorem entriesMentions_preceded (owner? : Option Owner) : ∀ (es : List TableEntry) {σ : Scope} {r : Range},
    (∀ e ∈ es, TableEntry.IsFaithful isValue text r e) → σ.Precedes r.start →
    ArePreceded (entriesMentions σ owner? es)
  | [], _, _, _, _ => .nil
  | e :: es, _, _, h, hσ => by
    obtain ⟨he, hes⟩ := List.forall_mem_cons.1 h
    rw [entriesMentions]
    exact (entryMentions_preceded owner? e he hσ).append (entriesMentions_preceded owner? es hes hσ)

theorem entryMentions_preceded (owner? : Option Owner) : ∀ (e : TableEntry) {σ : Scope} {r : Range},
    TableEntry.IsFaithful isValue text r e → σ.Precedes r.start → ArePreceded (entryMentions σ owner? e)
  | .named key value, _, _, h, hσ => by
    cases h with
    | named _ hvalue =>
      rw [entryMentions]
      refine .append ?_ (exprMentions_preceded owner? value hvalue (hσ.mono hvalue.liesIn.start_le))
      cases owner? with
      | none => exact .nil
      | some owner => exact .one trivial
  | .indexed key value, _, _, h, hσ => by
    cases h with
    | indexed hkey hvalue =>
      have hvalue := fun owner? => exprMentions_preceded owner? value hvalue (hσ.mono hvalue.liesIn.start_le)
      unfold entryMentions
      split
      · exact List.forall_mem_cons.2 ⟨trivial, hvalue _⟩
      · exact (exprMentions_preceded none key hkey (hσ.mono hkey.liesIn.start_le)).append (hvalue none)
  | .positional value, _, _, h, hσ => by
    cases h with
    | positional hvalue =>
      rw [entryMentions]
      exact exprMentions_preceded none value hvalue (hσ.mono hvalue.liesIn.start_le)

theorem functionMentions_preceded (implicit : List Ident) : ∀ (f : FuncBody) {σ : Scope} {outer : Range},
    FuncBody.IsFaithful isValue text outer f → f.body.IsPreceded σ →
    (∀ x ∈ implicit, x.range.start ≤ x.range.stop ∧ f.body.StandsBehind x.range) →
    ArePreceded (functionMentions σ implicit f)
  | .mk params _ body range, _, _, h, hσ, himplicit => by
    cases h with
    | mk _ hparams _ hbehind hbody =>
      rw [functionMentions]
      refine (ArePreceded.introduced params).append (blockMentions_preceded body hbody (hσ.bind ?_))
      exact List.forall_mem_append.2 ⟨himplicit, fun x hx => ⟨(hparams x hx).liesIn.lt.le, hbehind x hx⟩⟩

theorem blockMentions_preceded : ∀ (b : Block) {σ : Scope} {outer : Range},
    Block.IsFaithful isValue text outer b → b.IsPreceded σ → ArePreceded (blockMentions σ b)
  | .mk stmts range, _, _, h, hσ => by
    cases h with
    | mk _ hstmts hordered =>
      rw [blockMentions]
      rcases hσ with rfl | hσ
      · exact .nil
      · exact stmtsMentions_preceded stmts (fun s hs => ⟨_, hstmts s hs⟩) hordered
          (fun s hs => (hstmts s hs).liesIn.start_le) hσ

theorem stmtsMentions_preceded : ∀ (ss : List Stmt) {σ : Scope} {p : Position},
    (∀ s ∈ ss, ∃ r, Stmt.IsFaithful isValue text r s) → Range.Ordered (ss.map (·.range)) →
    (∀ s ∈ ss, p ≤ s.range.start) → σ.Precedes p → ArePreceded (stmtsMentions σ ss)
  | [], _, _, _, _, _, _ => .nil
  | s :: ss, _, _, h, hordered, hstart, hσ => by
    obtain ⟨⟨r, hs⟩, hss⟩ := List.forall_mem_cons.1 h
    obtain ⟨hnext, hordered⟩ := List.pairwise_cons.1 hordered
    have hσ := hσ.mono (hstart s (List.mem_cons_self ..))
    have hbinders := hs.liesProperlyIn_binders
    rw [stmtsMentions]
    refine (stmtMentions_preceded s hs hσ).append (stmtsMentions_preceded ss (p := s.range.stop) hss hordered
      (fun t ht => (hnext _ (List.mem_map_of_mem ht)).2) ((hσ.mono hs.liesIn.lt.le).bind fun x hx => ?_))
    exact (hbinders x hx).lt.le.trans (hbinders x hx).stop_le

theorem clausesMentions_preceded : ∀ (cs : List Clause) {σ : Scope} {r : Range},
    (∀ c ∈ cs, Clause.IsFaithful isValue text r c) → σ.Precedes r.start → ArePreceded (clausesMentions σ cs)
  | [], _, _, _, _ => .nil
  | .mk (some condition) body :: cs, _, _, h, hσ => by
    obtain ⟨hc, hcs⟩ := List.forall_mem_cons.1 h
    cases hc with
    | mk hcondition hbody =>
      have hcondition := hcondition condition rfl
      rw [clausesMentions]
      exact ((exprMentions_preceded none condition hcondition (hσ.mono hcondition.liesIn.start_le)).append
        (blockMentions_preceded body hbody (.inr (hσ.mono hbody.liesIn.start_le)))).append
        (clausesMentions_preceded cs hcs hσ)
  | .mk none body :: cs, _, _, h, hσ => by
    obtain ⟨hc, hcs⟩ := List.forall_mem_cons.1 h
    cases hc with
    | mk _ hbody =>
      rw [clausesMentions]
      exact (blockMentions_preceded body hbody (.inr (hσ.mono hbody.liesIn.start_le))).append
        (clausesMentions_preceded cs hcs hσ)

theorem stmtMentions_preceded : ∀ (s : Stmt) {σ : Scope} {outer : Range},
    Stmt.IsFaithful isValue text outer s → σ.Precedes s.range.start → ArePreceded (stmtMentions σ s)
  | .localVars names values r, _, _, h, hσ => by
    cases h with
    | localVars _ _ _ hvalues _ =>
      rw [stmtMentions]
      exact (ArePreceded.introduced names).append (valuesMentions_preceded _ values hvalues hσ)
  | .assign targets values r, _, _, h, hσ => by
    cases h with
    | assign _ htargets _ hvalues _ =>
      rw [stmtMentions]
      exact .alternate (targetsMentions_preceded targets htargets hσ) (valuesMentions_preceded _ values hvalues hσ)
  | .funcDecl isLocal name f r, σ, _, h, hσ => by
    cases h with
    | funcDecl _ hname hf hbehind =>
      -- the name of a local function is bound at itself already
      have hbound : ∀ x ∈ (Stmt.funcDecl isLocal name f r).binders, x.range = name.range := by
        intro x hx
        rw [binders_funcDecl hx]
        rfl
      have hname' := exprMentions_preceded none name hname
        ((hσ.mono hname.liesIn.start_le).bind fun x hx => (congrArg Range.start (hbound x hx)).le)
      have hbody : f.body.IsPreceded (σ.bind (Stmt.funcDecl isLocal name f r).binders) := by
        refine Block.IsPreceded.bind (.inr (hσ.mono (hf.liesIn.start_le.trans hf.body_start))) fun x hx => ?_
        rw [hbound x hx]
        exact ⟨hname.liesIn.lt.le, hbehind⟩
      have himplicit : ∀ x ∈ implicitSelf name, x.range.start ≤ x.range.stop ∧ f.body.StandsBehind x.range := by
        intro x hx
        have hx' := liesProperlyIn_implicitSelf hname x hx
        exact ⟨hx'.lt.le, hbehind.imp id hx'.stop_le.trans⟩
      rw [stmtMentions]
      exact (hname'.append (.ofIf (by trivial))).append (functionMentions_preceded _ f hf hbody himplicit)
  | .call callee args r, _, _, h, hσ => by
    cases h with
    | call _ hcallee hargs _ =>
      rw [stmtMentions]
      have hcallee := exprMentions_preceded none callee hcallee (hσ.mono hcallee.liesIn.start_le)
      exact (hcallee.append (argumentMentions_preceded callee args)).append (exprsMentions_preceded args hargs hσ)
  | .ret values r, _, _, h, hσ => by
    cases h with
    | ret _ hvalues _ =>
      rw [stmtMentions]
      exact exprsMentions_preceded values hvalues hσ
  | .branch clauses r, _, _, h, hσ => by
    cases h with
    | branch _ hclauses =>
      rw [stmtMentions]
      exact clausesMentions_preceded clauses hclauses hσ
  | .whileLoop condition body r, _, _, h, hσ => by
    cases h with
    | whileLoop _ hcondition hbody =>
      rw [stmtMentions]
      exact (exprMentions_preceded none condition hcondition (hσ.mono hcondition.liesIn.start_le)).append
        (blockMentions_preceded body hbody (.inr (hσ.mono hbody.liesIn.start_le)))
  | .repeatLoop body condition r, _, _, h, hσ => by
    cases h with
    | repeatLoop _ hbody hcondition =>
      rw [stmtMentions]
      exact (blockMentions_preceded body hbody (.inr (hσ.mono hbody.liesIn.start_le))).append
        (exprMentions_preceded none condition hcondition (.condition _ _))
  | .doBlock body r, _, _, h, hσ => by
    cases h with
    | doBlock _ hbody =>
      rw [stmtMentions]
      exact blockMentions_preceded body hbody (.inr (hσ.mono hbody.liesIn.start_le))
  | .numericFor x start limit step? body r, _, _, h, hσ => by
    cases h with
    | numericFor _ hx hstart hlimit hstep hbehind hbody =>
      have hbody := blockMentions_preceded body hbody (.bind (.inr (hσ.mono hbody.liesIn.start_le))
        (List.forall_mem_singleton.2 ⟨hx.liesIn.lt.le, hbehind⟩))
      have hbounds := (exprMentions_preceded none start hstart (hσ.mono hstart.liesIn.start_le)).append
        (exprMentions_preceded none limit hlimit (hσ.mono hlimit.liesIn.start_le))
      cases step? with
      | none =>
        rw [stmtMentions]
        exact hbounds.append (List.forall_mem_cons.2 ⟨trivial, hbody⟩)
      | some step =>
        have hstep := hstep step rfl
        rw [stmtMentions]
        exact (hbounds.append (exprMentions_preceded none step hstep (hσ.mono hstep.liesIn.start_le))).append
          (List.forall_mem_cons.2 ⟨trivial, hbody⟩)
  | .genericFor xs iterators body r, _, _, h, hσ => by
    cases h with
    | genericFor _ hxs _ hiterators _ hbehind hbody =>
      rw [stmtMentions]
      refine ((exprsMentions_preceded iterators hiterators hσ).append (.introduced xs)).append
        (blockMentions_preceded body hbody (.bind (.inr (hσ.mono hbody.liesIn.start_le)) fun x hx => ?_))
      exact ⟨(hxs x hx).liesIn.lt.le, hbehind x hx⟩

theorem targetsMentions_preceded : ∀ (ts : List Expr) {σ : Scope} {r : Range},
    (∀ e ∈ ts, Expr.IsFaithful isValue text r e) → σ.Precedes r.start → ArePreceded (targetsMentions σ ts).flatten
  | [], _, _, _, _ => .nil
  | t :: ts, _, _, h, hσ => by
    obtain ⟨ht, hts⟩ := List.forall_mem_cons.1 h
    rw [targetsMentions, List.flatten_cons]
    exact ((exprMentions_preceded none t ht (hσ.mono ht.liesIn.start_le)).append (.ofIf (by trivial))).append
      (targetsMentions_preceded ts hts hσ)

end

end

/-- In every text the uses outside the conditions of `repeat` loops see nothing that is bound behind them. -/
theorem mentions_preceded (text : String) : ArePreceded (parse text).file.mentions := by
  have hvalue : Node.Reads fun _ _ => True := fun _ _ => trivial
  obtain ⟨hstmts, hordered⟩ := stmts_faithful hvalue text
  have hblock : ∀ b : Block, blockMentions .outermost b = stmtsMentions .outermost b.stmts := fun ⟨_, _⟩ => by
    rw [blockMentions, Block.stmts]
  rw [File.mentions, hblock]
  exact stmtsMentions_preceded _ hstmts hordered (fun s _ => Position.origin_le s.range.start) (.outermost .origin)

/-- A variable is bound before it is used. -/
theorem binder_start_le {text : String} {p : Position} {x b : Ident}
    (h : (parse text).file.boundUse? p = some (x, b)) : b.range.start ≤ x.range.start := by
  obtain ⟨σ, hmention, hσ, hbinder⟩ := File.boundUse?_eq_some h
  have hpreceded : σ.Precedes x.range.start := mentions_preceded text _ (File.mem_mentions_of_mentionAt? hmention)
  exact hpreceded.resolve_left (by simp [hσ]) b (List.mem_of_find?_eq_some hbinder)

end LuaAtlas.Syntax
