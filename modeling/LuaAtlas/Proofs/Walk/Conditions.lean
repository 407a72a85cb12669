/-
The conditions of `repeat` loops. A walk meets the condition of a loop outside the block of the loop, so it finds in a
file what it finds once the loops of the file are taken apart. What a cursor is told in a condition is therefore told by
what is in scope around the loop: a local of the loop's own body does not count, although it is in scope there.
-/
import LuaAtlas.Proofs.Syntax.Parted
import LuaAtlas.Proofs.Walk.Locality

namespace LuaAtlas.Syntax

/-- The variable that a cursor at `p` stands on and where it is bound, if it is used by itself in the condition of a
`repeat` loop. -/
def File.conditionUse? (file : File) (p : Position) : Option (Ident × Ident) :=
  match file.mentionAt? p with
  | some (.used (.ident x) σ) => if σ.inCondition then (σ.binder? x.name).map (x, ·) else none
  | _ => none

end LuaAtlas.Syntax

namespace LuaAtlas.Walk

open LuaAtlas.Syntax

/-! ## What a walk reads off the syntax -/

@[simp] theorem introduced_partedStmt (s : Stmt) : introduced (partedStmt s) = introduced s := by
  cases s with
  | funcDecl isLocal name f range => cases isLocal <;> cases name <;> rfl
  | numericFor x start limit step body range => cases step <;> rfl
  | _ => rfl

mutual

theorem stmtsReturn?_parted : ∀ ss : List Stmt, stmtsReturn? (partedStmts ss) = stmtsReturn? ss
  | [] => rfl
  | s :: ss => by rw [partedStmts, stmtsReturn?, stmtsReturn?_parted ss, stmtReturn?_parted s, stmtsReturn?]

theorem stmtReturn?_parted : ∀ s : Stmt, stmtReturn? (partedStmt s) = stmtReturn? s
  | .ret values range => by
    match values with
    | [] => rfl
    | [value] => cases value <;> rfl
    | value :: _ :: _ => cases value <;> rfl
  | .branch clauses range => clausesReturn?_parted clauses
  | .whileLoop condition body range => blockReturn?_parted body
  | .repeatLoop body condition range => blockReturn?_parted body
  | .doBlock body range => blockReturn?_parted body
  | .numericFor x start limit (some step) body range => blockReturn?_parted body
  | .numericFor x start limit none body range => blockReturn?_parted body
  | .genericFor xs iterators body range => blockReturn?_parted body
  | .localVars .. | .assign .. | .funcDecl .. | .call .. => rfl

theorem clausesReturn?_parted : ∀ cs : List Clause, clausesReturn? (partedClauses cs) = clausesReturn? cs
  | [] => rfl
  | .mk (some condition) body :: cs => by
    rw [partedClauses, clausesReturn?, clausesReturn?_parted cs, blockReturn?_parted body, clausesReturn?]
  | .mk none body :: cs => by
    rw [partedClauses, clausesReturn?, clausesReturn?_parted cs, blockReturn?_parted body, clausesReturn?]

theorem blockReturn?_parted : ∀ b : Block, blockReturn? (partedBlock b) = blockReturn? b
  | .mk stmts _ => stmtsReturn?_parted stmts

end

@[simp] theorem functionChunk_parted (name : String) (f : FuncBody) :
    functionChunk name (partedFunction f) = functionChunk name f := by
  cases f with
  | mk params isVararg body range =>
    unfold functionChunk
    rw [partedFunction, FuncBody.body, blockReturn?_parted]
    rfl

@[simp] theorem params_partedFunction (f : FuncBody) : (partedFunction f).params = f.params := by cases f; rfl

@[simp] theorem anonymousName_parted (f : FuncBody) : anonymousName (partedFunction f) = anonymousName f := by cases f; rfl

@[simp] theorem signature_parted (name : String) (f : FuncBody) : signature name (partedFunction f) = signature name f := by
  cases f; rfl

theorem heldFunction?_parted : ∀ e : Expr, heldFunction? (partedExpr e) = (heldFunction? e).map partedFunction
  | .func _ => rfl
  | .paren inner _ => heldFunction?_parted inner
  | .ident _ | .member .. | .index .. | .call .. | .table .. | .binary .. | .unary .. | .string .. | .number ..
  | .literal _ | .vararg _ => rfl

theorem plainFunction?_parted : ∀ value? : Option Expr,
    plainFunction? (value?.map partedExpr) = (plainFunction? value?).map partedFunction
  | none => rfl
  | some value => by cases value <;> rfl

@[simp] theorem writtenName_parted : ∀ e : Expr, writtenName (partedExpr e) = writtenName e
  | .member base .dot field range => by rw [partedExpr, writtenName, writtenName_parted base, writtenName]
  | .member base .colon field range => by rw [partedExpr, writtenName, writtenName_parted base, writtenName]
  | .index base key range => congrArg (·.getD "") (dottedName?_partedExpr (.index base key range))
  | .paren inner range => congrArg (·.getD "") (dottedName?_partedExpr (.paren inner range))
  | .ident _ | .call .. | .func _ | .table .. | .binary .. | .unary .. | .string .. | .number .. | .literal _
  | .vararg _ => rfl

@[simp] theorem receiver?_parted (e : Expr) : receiver? (partedExpr e) = receiver? e := by
  cases e with
  | member base accessor field range =>
    cases accessor with
    | dot => rfl
    | colon => exact congrArg (·.map (·, field.range)) (dottedName?_partedExpr base)
  | _ => rfl

@[simp] theorem entryName?_parted (base? : Option Binding) (e : TableEntry) :
    entryName? base? (partedEntry e) = entryName? base? e := by
  cases e with
  | indexed key value => rw [partedEntry, entryName?, keySuffix?_partedExpr, entryName?]
  | _ => rfl

@[simp] theorem use_parted (c : Context) (e : Expr) : use c (partedExpr e) = use c e := by
  unfold use
  rw [dottedName?_partedExpr, nameRange_partedExpr, range_partedExpr]

/-! ## Declarations -/

@[simp] theorem withValue_parted (d : Declaration) (functionName : String) (value? : Option Expr) :
    d.withValue functionName (value?.map partedExpr) = d.withValue functionName value? := by
  have hheld : ((value?.map partedExpr).bind heldFunction?).map (functionChunk d.name) =
      (value?.bind heldFunction?).map (functionChunk d.name) := by
    cases value? with
    | none => rfl
    | some value =>
      rw [Option.map_some, Option.bind_some, heldFunction?_parted, Option.map_map, Option.bind_some]
      exact congrArg (Option.map · _) (funext (functionChunk_parted d.name))
  unfold Declaration.withValue
  rw [hheld, plainFunction?_parted]
  cases plainFunction? value? with
  | none => rfl
  | some f => simp

theorem localDeclarations_parted (c : Context) : ∀ (xs : List Ident) (vs : List Expr),
    localDeclarations c xs (partedExprs vs) = localDeclarations c xs vs
  | [], _ => rfl
  | x :: xs, [] => rfl
  | x :: xs, v :: vs => by
    rw [partedExprs, localDeclarations, localDeclarations_parted c xs vs, localDeclarations]
    exact congrArg (· :: _) (withValue_parted _ _ (some v))

theorem targetDeclaration_parted (c : Context) (t : Expr) (name : String) (value? : Option Expr) :
    targetDeclaration c (partedExpr t) name (value?.map partedExpr) = targetDeclaration c t name value? := by
  unfold targetDeclaration
  rw [withValue_parted, range_partedExpr]

theorem targetDeclarations_parted (c : Context) (ts vs : List Expr) :
    targetDeclarations c (partedExprs ts) (partedExprs vs) = targetDeclarations c ts vs := by
  induction ts generalizing vs with
  | nil => rfl
  | cons t ts ih =>
    have hhead : (partedExprs vs).head? = vs.head?.map partedExpr := by cases vs <;> rfl
    have htail : (partedExprs vs).tail = partedExprs vs.tail := by cases vs <;> rfl
    rw [partedExprs, targetDeclarations, hhead, htail, ih, dottedName?_partedExpr, targetDeclarations]
    simp only [targetDeclaration_parted]

theorem targetBindings_parted (c : Context) (ts : List Expr) :
    (partedExprs ts).map (targetBinding? c) = ts.map (targetBinding? c) := by
  rw [partedExprs_eq_map, List.map_map]
  refine List.map_congr_left fun t _ => ?_
  show targetBinding? c (partedExpr t) = _
  unfold targetBinding?
  rw [dottedName?_partedExpr, range_partedExpr]

theorem functionDeclaration_parted (c : Context) (isLocal : Bool) (name : Expr) (dotted : String) (f : FuncBody) :
    functionDeclaration c isLocal (partedExpr name) dotted (partedFunction f) =
      functionDeclaration c isLocal name dotted f := by
  unfold functionDeclaration
  rw [writtenName_parted, signature_parted, range_partedExpr, functionChunk_parted, params_partedFunction]
  cases name <;> rfl

theorem entryDeclaration_parted (c : Context) (base : Binding) (name : String) (key : Range) (value : Expr) :
    entryDeclaration c base name key (partedExpr value) = entryDeclaration c base name key value :=
  withValue_parted _ _ (some value)

theorem callFacts_parted (binding? : Option Binding) (callee : Expr) (args : List Expr) (range : Range) :
    callFacts binding? (partedExpr callee) (partedExprs args) range = callFacts binding? callee args range := by
  have hname (i : Nat) : (partedExprs args)[i]?.bind Expr.dottedName? = args[i]?.bind Expr.dottedName? := by
    rw [partedExprs_eq_map, List.getElem?_map]
    cases args[i]? with
    | none => rfl
    | some e => exact dottedName?_partedExpr e
  have hlength : (partedExprs args).length = args.length := by rw [partedExprs_eq_map, List.length_map]
  unfold callFacts
  simp only [requiredModule?_parted, hname, hlength, isNamed_partedExpr, dottedName?_partedExpr]
  congr 1
  cases args with
  | nil => rfl
  | cons arg args =>
    rw [partedExprs]
    cases requiredModule? callee (arg :: args) with
    | none => rfl
    | some m =>
      dsimp only
      rw [range_partedExpr]

/-! ## The walk -/

mutual

theorem exprEvents_parted (c : Context) : ∀ e : Expr, exprEvents c (partedExpr e) = exprEvents c e
  | .ident id => rfl
  | .member base accessor field range => by
    rw [partedExpr, exprEvents, ← partedExpr, use_parted, exprEvents_parted c base, exprEvents]
  | .index base key range => by
    rw [partedExpr, exprEvents, ← partedExpr, use_parted, dottedName?_partedExpr, exprEvents_parted c base,
      exprEvents_parted c key, exprEvents]
  | .call callee args range => by
    rw [partedExpr, exprEvents, exprEvents_parted c callee, callFacts_parted, exprsEvents_parted c args, exprEvents]
  | .func f => by
    rw [partedExpr, exprEvents, anonymousName_parted, functionEvents_parted c _ none f, exprEvents]
  | .table entries range => by rw [partedExpr, exprEvents, entriesEvents_parted c none entries, exprEvents]
  | .binary left right range => by
    rw [partedExpr, exprEvents, exprEvents_parted c left, exprEvents_parted c right, exprEvents]
  | .unary operand range => by rw [partedExpr, exprEvents, exprEvents_parted c operand, exprEvents]
  | .paren inner range => by rw [partedExpr, exprEvents, exprEvents_parted c inner, exprEvents]
  | .string .. | .number .. | .literal _ | .vararg _ => rfl

theorem exprsEvents_parted (c : Context) : ∀ es : List Expr, exprsEvents c (partedExprs es) = exprsEvents c es
  | [] => rfl
  | e :: es => by rw [partedExprs, exprsEvents, exprEvents_parted c e, exprsEvents_parted c es, exprsEvents]

theorem valueEvents_parted (c : Context) (b : Binding) : ∀ e : Expr,
    valueEvents c b (partedExpr e) = valueEvents c b e
  | .func f => by rw [partedExpr, valueEvents, functionEvents_parted c _ none f, valueEvents]
  | .table entries range => by rw [partedExpr, valueEvents, entriesEvents_parted c (some b) entries, valueEvents]
  | .call callee args range => by
    rw [partedExpr, valueEvents, exprEvents_parted c callee, callFacts_parted, exprsEvents_parted c args, valueEvents]
  | .paren inner range => by rw [partedExpr, valueEvents, valueEvents_parted c b inner, valueEvents]
  | .ident id => rfl
  | .member base accessor field range => by
    rw [partedExpr, valueEvents, ← partedExpr, use_parted, dottedName?_partedExpr, exprEvents_parted c base, valueEvents]
  | .index base key range => by
    rw [partedExpr, valueEvents, ← partedExpr, use_parted, dottedName?_partedExpr, exprEvents_parted c base,
      exprEvents_parted c key, valueEvents]
  | .binary left right range => by
    rw [partedExpr, valueEvents, exprEvents_parted c left, exprEvents_parted c right, valueEvents]
  | .unary operand range => by rw [partedExpr, valueEvents, exprEvents_parted c operand, valueEvents]
  | .string .. | .number .. | .literal _ | .vararg _ => rfl

theorem valuesEvents_parted (c : Context) : ∀ (bs : List (Option Binding)) (vs : List Expr),
    valuesEvents c bs (partedExprs vs) = valuesEvents c bs vs
  | _, [] => by rw [partedExprs]
  | some b :: bs, v :: vs => by
    rw [partedExprs, valuesEvents, valueEvents_parted c b v, valuesEvents_parted c bs vs, valuesEvents]
  | none :: bs, v :: vs => by
    rw [partedExprs, valuesEvents, exprEvents_parted c v, valuesEvents_parted c bs vs, valuesEvents]
  | [], v :: vs => by
    rw [partedExprs, valuesEvents, exprEvents_parted c v, valuesEvents_parted c [] vs, valuesEvents]

theorem entriesEvents_parted (c : Context) (base? : Option Binding) : ∀ es : List TableEntry,
    entriesEvents c base? (partedEntries es) = entriesEvents c base? es
  | [] => rfl
  | e :: es => by
    rw [partedEntries, entriesEvents, entryEvents_parted c base? e, entriesEvents_parted c base? es, entriesEvents]

theorem entryEvents_parted (c : Context) (base? : Option Binding) : ∀ e : TableEntry,
    entryEvents c base? (partedEntry e) = entryEvents c base? e
  | .named key value => by
    have hname := entryName?_parted base? (.named key value)
    rw [partedEntry] at hname ⊢
    unfold entryEvents
    simp only [hname, entryDeclaration_parted, valueEvents_parted c _ value, exprEvents_parted c value]
  | .indexed key value => by
    have hname := entryName?_parted base? (.indexed key value)
    rw [partedEntry] at hname ⊢
    unfold entryEvents
    simp only [hname, range_partedExpr, entryDeclaration_parted, valueEvents_parted c _ value, exprEvents_parted c key,
      exprEvents_parted c value]
  | .positional value => by rw [partedEntry, entryEvents, exprEvents_parted c value, entryEvents]

theorem functionEvents_parted (c : Context) (name : String) (receiver? : Option (String × Range)) :
    ∀ f : FuncBody, functionEvents c name receiver? (partedFunction f) = functionEvents c name receiver? f
  | .mk params isVararg body range => by
    have hchunk := functionChunk_parted name (.mk params isVararg body range)
    rw [partedFunction] at hchunk ⊢
    unfold functionEvents
    dsimp only
    rw [hchunk, blockEvents_parted _ body]

theorem blockEvents_parted (c : Context) : ∀ b : Block, blockEvents c (partedBlock b) = blockEvents c b
  | .mk stmts range => by rw [partedBlock, blockEvents, stmtsEvents_parted c stmts, blockEvents]

theorem stmtsEvents_parted (c : Context) : ∀ ss : List Stmt, stmtsEvents c (partedStmts ss) = stmtsEvents c ss
  | [] => rfl
  | s :: ss => by
    rw [partedStmts, stmtsEvents, stmtEvents_parted c s, introduced_partedStmt, stmtsEvents_parted _ ss, stmtsEvents]

theorem clausesEvents_parted (c : Context) : ∀ cs : List Clause,
    clausesEvents c (partedClauses cs) = clausesEvents c cs
  | [] => rfl
  | .mk (some condition) body :: cs => by
    rw [partedClauses, clausesEvents, exprEvents_parted c condition, blockEvents_parted c body,
      clausesEvents_parted c cs, clausesEvents]
  | .mk none body :: cs => by
    rw [partedClauses, clausesEvents, blockEvents_parted c body, clausesEvents_parted c cs, clausesEvents]

theorem stmtEvents_parted (c : Context) : ∀ s : Stmt, stmtEvents c (partedStmt s) = stmtEvents c s
  | .localVars names values range => by
    rw [partedStmt, stmtEvents, localDeclarations_parted, valuesEvents_parted c _ values, stmtEvents]
  | .assign targets values range => by
    rw [partedStmt, stmtEvents, targetsEvents_parted c targets, targetDeclarations_parted, targetBindings_parted,
      valuesEvents_parted c _ values, stmtEvents]
  | .funcDecl isLocal name f range => by
    rw [partedStmt, stmtEvents, ← partedStmt, introduced_partedStmt, exprEvents_parted _ name, dottedName?_partedExpr,
      receiver?_parted, anonymousName_parted, stmtEvents]
    simp only [functionDeclaration_parted, functionEvents_parted _ _ _ f]
  | .call callee args range => by
    rw [partedStmt, stmtEvents, exprEvents_parted c callee, callFacts_parted, exprsEvents_parted c args, stmtEvents]
  | .ret values range => by rw [partedStmt, stmtEvents, exprsEvents_parted c values, stmtEvents]
  | .branch clauses range => by rw [partedStmt, stmtEvents, clausesEvents_parted c clauses, stmtEvents]
  | .whileLoop condition body range => by
    rw [partedStmt, stmtEvents, exprEvents_parted c condition, blockEvents_parted c body, stmtEvents]
  | .repeatLoop body condition range => by
    rw [partedStmt, stmtEvents, stmtEvents, ← exprEvents_parted c condition, ← blockEvents_parted c body]
    simp only [blockEvents, stmtsEvents, stmtEvents, List.append_nil]
    rfl
  | .doBlock body range => by rw [partedStmt, stmtEvents, blockEvents_parted c body, stmtEvents]
  | .numericFor x start limit (some step) body range => by
    rw [partedStmt, stmtEvents, exprEvents_parted c start, exprEvents_parted c limit, exprEvents_parted c step,
      blockEvents_parted _ body, stmtEvents]
  | .numericFor x start limit none body range => by
    rw [partedStmt, stmtEvents, exprEvents_parted c start, exprEvents_parted c limit, blockEvents_parted _ body,
      stmtEvents]
  | .genericFor xs iterators body range => by
    rw [partedStmt, stmtEvents, exprsEvents_parted c iterators, blockEvents_parted _ body, stmtEvents]

theorem targetsEvents_parted (c : Context) : ∀ ts : List Expr,
    targetsEvents c (partedExprs ts) = targetsEvents c ts
  | [] => rfl
  | t :: ts => by rw [partedExprs, targetsEvents, exprEvents_parted c t, targetsEvents_parted c ts, targetsEvents]

end

/-- A walk over a file meets what it meets once the loops of the file are taken apart. -/
theorem events_parted (uri : Uri) (file : File) : events uri file.parted = events uri file := by
  have hchunk : fileChunk uri file.parted = fileChunk uri file := by
    unfold fileChunk
    rw [File.parted, blockReturn?_parted]
  unfold events
  rw [hchunk]
  exact congrArg (_ :: ·) (blockEvents_parted _ file.body)

end LuaAtlas.Walk

namespace LuaAtlas.Document

open LuaAtlas.Syntax LuaAtlas.Walk

/-- A cursor in the document of any text is told about the mention it stands on what static scoping says about what
becomes of that mention once every `repeat` loop is taken apart. So a name is local exactly if the variable that it
starts from is bound there; in the condition of a loop it is not enough that the body of the loop binds it. -/
theorem conditions_told_behind_loops (shelf : Shelf) (uri : Uri) (text : String) (p : Position) :
    Option.Rel (fun m hit => ∃ m' ∈ (parse text).file.parted.mentionAt? p, m.Becomes m' ∧ m'.IsToldBy hit)
      ((parse text).file.mentionAt? p) ((build shelf uri (parse text)).hitAt? p) := by
  refine rel_through (File.mentionAt?_parted (parse text).file p) ?_
  rw [hitAt?_build, ← events_parted]
  refine rel_imp (pointsAt_file uri (parse text).file.parted p) fun m hm hit h => ?_
  exact h.isToldBy fun x hx => isPlain_of_mem_parted (File.mem_mentions_of_mentionAt? hm) hx

/-- A local of a loop's body that is used in the loop's condition: static scoping binds it, and a cursor on it is told
that it is not local. -/
theorem body_local_lost_in_condition :
    let text := "repeat local done until done"
    (parse text).file.conditionUse? ⟨0, 24⟩ = some (⟨"done", ⟨⟨0, 24⟩, ⟨0, 28⟩⟩⟩, ⟨"done", ⟨⟨0, 13⟩, ⟨0, 17⟩⟩⟩) ∧
      (build .workspace ⟨"file:///m.lua"⟩ (parse text)).hitAt? ⟨0, 24⟩ =
        some (.name "done" ⟨⟨0, 24⟩, ⟨0, 28⟩⟩ false [⟨"m.lua", ⟨⟨0, 0⟩, ⟨0, 28⟩⟩⟩]) := by
  decide +kernel

end LuaAtlas.Document
