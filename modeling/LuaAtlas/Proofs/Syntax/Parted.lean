/-
Files whose `repeat` loops are taken apart. The loop `repeat B until C` becomes the block `B` and behind it a loop of its
own on `C`, so that `C` stands where nothing of `B` is in scope any more; everything else stays as it is. Such a file has
the names of the original at the same places.
-/
import LuaAtlas.Proofs.Syntax.Mentions
import LuaAtlas.Proofs.Walk.Pieces

namespace LuaAtlas.Syntax

/-! ## Taking loops apart -/

mutual

/-- An expression with the loops in its functions taken apart. -/
def partedExpr : Expr → Expr
  | .ident id => .ident id
  | .member base accessor field range => .member (partedExpr base) accessor field range
  | .index base key range => .index (partedExpr base) (partedExpr key) range
  | .call callee args range => .call (partedExpr callee) (partedExprs args) range
  | .func f => .func (partedFunction f)
  | .table entries range => .table (partedEntries entries) range
  | .binary left right range => .binary (partedExpr left) (partedExpr right) range
  | .unary operand range => .unary (partedExpr operand) range
  | .paren inner range => .paren (partedExpr inner) range
  | .string value range => .string value range
  | .number raw range => .number raw range
  | .literal range => .literal range
  | .vararg range => .vararg range

def partedExprs : List Expr → List Expr
  | [] => []
  | e :: es => partedExpr e :: partedExprs es

def partedEntries : List TableEntry → List TableEntry
  | [] => []
  | e :: es => partedEntry e :: partedEntries es

def partedEntry : TableEntry → TableEntry
  | .named key value => .named key (partedExpr value)
  | .indexed key value => .indexed (partedExpr key) (partedExpr value)
  | .positional value => .positional (partedExpr value)

def partedFunction : FuncBody → FuncBody
  | .mk params isVararg body range => .mk params isVararg (partedBlock body) range

def partedBlock : Block → Block
  | .mk stmts range => .mk (partedStmts stmts) range

def partedStmts : List Stmt → List Stmt
  | [] => []
  | s :: ss => partedStmt s :: partedStmts ss

def partedClauses : List Clause → List Clause
  | [] => []
  | .mk (some condition) body :: cs => .mk (some (partedExpr condition)) (partedBlock body) :: partedClauses cs
  | .mk none body :: cs => .mk none (partedBlock body) :: partedClauses cs

/-- A statement with the loops in it taken apart: of `repeat B until C` this makes `do do B end while C do end end`. -/
def partedStmt : Stmt → Stmt
  | .localVars names values range => .localVars names (partedExprs values) range
  | .assign targets values range => .assign (partedExprs targets) (partedExprs values) range
  | .funcDecl isLocal name f range => .funcDecl isLocal (partedExpr name) (partedFunction f) range
  | .call callee args range => .call (partedExpr callee) (partedExprs args) range
  | .ret values range => .ret (partedExprs values) range
  | .branch clauses range => .branch (partedClauses clauses) range
  | .whileLoop condition body range => .whileLoop (partedExpr condition) (partedBlock body) range
  | .repeatLoop body condition range =>
    .doBlock (.mk [.doBlock (partedBlock body) range, .whileLoop (partedExpr condition) (.mk [] range) range] range) range
  | .doBlock body range => .doBlock (partedBlock body) range
  | .numericFor x start limit (some step) body range =>
    .numericFor x (partedExpr start) (partedExpr limit) (some (partedExpr step)) (partedBlock body) range
  | .numericFor x start limit none body range =>
    .numericFor x (partedExpr start) (partedExpr limit) none (partedBlock body) range
  | .genericFor xs iterators body range => .genericFor xs (partedExprs iterators) (partedBlock body) range

end

/-- A file with its `repeat` loops taken apart. -/
def File.parted (file : File) : File := { file with body := partedBlock file.body }

theorem partedExprs_eq_map (es : List Expr) : partedExprs es = es.map partedExpr := by
  induction es with
  | nil => rfl
  | cons e es ih => exact congrArg (partedExpr e :: ·) ih

/-! ## What stays -/

@[simp] theorem range_partedExpr (e : Expr) : (partedExpr e).range = e.range := by
  cases e with
  | func f => cases f; rfl
  | _ => rfl

@[simp] theorem keySuffix?_partedExpr (e : Expr) : (partedExpr e).keySuffix? = e.keySuffix? := by cases e <;> rfl

@[simp] theorem isNamed_partedExpr (name : String) (e : Expr) : (partedExpr e).isNamed name = e.isNamed name := by
  cases e <;> rfl

@[simp] theorem nameRange_partedExpr (e : Expr) : (partedExpr e).nameRange = e.nameRange := by
  cases e with
  | index base key range => exact range_partedExpr key
  | func f => exact range_partedExpr (.func f)
  | _ => rfl

/-- A chain keeps its name. -/
@[simp] theorem dottedName?_partedExpr : ∀ e : Expr, (partedExpr e).dottedName? = e.dottedName?
  | .member base accessor field range => by
    rw [partedExpr, Expr.dottedName?, dottedName?_partedExpr base, Expr.dottedName?]
  | .index base key range => by
    rw [partedExpr, Expr.dottedName?, dottedName?_partedExpr base, keySuffix?_partedExpr, Expr.dottedName?]
  | .paren inner range => dottedName?_partedExpr inner
  | .ident _ | .call .. | .func _ | .table .. | .binary .. | .unary .. | .string .. | .number .. | .literal _
  | .vararg _ => rfl

@[simp] theorem requiredModule?_parted (callee : Expr) (args : List Expr) :
    requiredModule? (partedExpr callee) (partedExprs args) = requiredModule? callee args := by
  match args with
  | [] => rfl
  | [arg] =>
    cases arg with
    | string value range =>
      show (if (partedExpr callee).isNamed "require" then some value else none) = _
      rw [isNamed_partedExpr]
      rfl
    | _ => rfl
  | arg :: _ :: _ => cases arg <;> rfl

/-- The condition of a loop that is taken apart sees what is in scope around the loop. -/
theorem mentions_repeatLoop (σ : Scope) (body : Block) (condition : Expr) (range : Range) :
    stmtMentions σ (partedStmt (.repeatLoop body condition range)) =
      blockMentions σ (partedBlock body) ++ exprMentions σ none (partedExpr condition) := by
  rw [partedStmt, stmtMentions, blockMentions]
  simp only [stmtsMentions, stmtMentions, blockMentions, List.append_nil]
  rfl

/-! ## Identifiers -/

mutual

theorem exprIdents_parted : ∀ e : Expr, exprIdents (partedExpr e) = exprIdents e
  | .member base accessor field range => by rw [partedExpr, exprIdents, exprIdents_parted base, exprIdents]
  | .index base key range => by
    rw [partedExpr, exprIdents, exprIdents_parted base, exprIdents_parted key, exprIdents]
  | .call callee args range => by
    rw [partedExpr, exprIdents, exprIdents_parted callee, exprsIdents_parted args, exprIdents]
  | .func f => functionIdents_parted f
  | .table entries range => entriesIdents_parted entries
  | .binary left right range => by
    rw [partedExpr, exprIdents, exprIdents_parted left, exprIdents_parted right, exprIdents]
  | .unary operand range => exprIdents_parted operand
  | .paren inner range => exprIdents_parted inner
  | .ident _ | .string .. | .number .. | .literal _ | .vararg _ => rfl

theorem exprsIdents_parted : ∀ es : List Expr, exprsIdents (partedExprs es) = exprsIdents es
  | [] => rfl
  | e :: es => by rw [partedExprs, exprsIdents, exprIdents_parted e, exprsIdents_parted es, exprsIdents]

theorem entriesIdents_parted : ∀ es : List TableEntry, entriesIdents (partedEntries es) = entriesIdents es
  | [] => rfl
  | e :: es => by rw [partedEntries, entriesIdents, entryIdents_parted e, entriesIdents_parted es, entriesIdents]

theorem entryIdents_parted : ∀ e : TableEntry, entryIdents (partedEntry e) = entryIdents e
  | .named key value => by rw [partedEntry, entryIdents, exprIdents_parted value, entryIdents]
  | .indexed key value => by
    rw [partedEntry, entryIdents, exprIdents_parted key, exprIdents_parted value, entryIdents]
  | .positional value => exprIdents_parted value

theorem functionIdents_parted : ∀ f : FuncBody, functionIdents (partedFunction f) = functionIdents f
  | .mk params isVararg body range => by rw [partedFunction, functionIdents, blockIdents_parted body, functionIdents]

theorem blockIdents_parted : ∀ b : Block, blockIdents (partedBlock b) = blockIdents b
  | .mk stmts _ => stmtsIdents_parted stmts

theorem stmtsIdents_parted : ∀ ss : List Stmt, stmtsIdents (partedStmts ss) = stmtsIdents ss
  | [] => rfl
  | s :: ss => by rw [partedStmts, stmtsIdents, stmtIdents_parted s, stmtsIdents_parted ss, stmtsIdents]

theorem clausesIdents_parted : ∀ cs : List Clause, clausesIdents (partedClauses cs) = clausesIdents cs
  | [] => rfl
  | .mk (some condition) body :: cs => by
    rw [partedClauses, clausesIdents, clauseIdents, exprIdents_parted condition, blockIdents_parted body,
      clausesIdents_parted cs, clausesIdents, clauseIdents]
  | .mk none body :: cs => by
    rw [partedClauses, clausesIdents, clauseIdents, blockIdents_parted body, clausesIdents_parted cs, clausesIdents,
      clauseIdents]

theorem stmtIdents_parted : ∀ s : Stmt, stmtIdents (partedStmt s) = stmtIdents s
  | .localVars names values range => by rw [partedStmt, stmtIdents, exprsIdents_parted values, stmtIdents]
  | .assign targets values range => by
    rw [partedStmt, stmtIdents, exprsIdents_parted targets, exprsIdents_parted values, stmtIdents]
  | .funcDecl isLocal name f range => by
    rw [partedStmt, stmtIdents, exprIdents_parted name, functionIdents_parted f, stmtIdents]
  | .call callee args range => by
    rw [partedStmt, stmtIdents, exprIdents_parted callee, exprsIdents_parted args, stmtIdents]
  | .ret values range => exprsIdents_parted values
  | .branch clauses range => clausesIdents_parted clauses
  | .whileLoop condition body range => by
    rw [partedStmt, stmtIdents, exprIdents_parted condition, blockIdents_parted body, stmtIdents]
  | .repeatLoop body condition range => by
    rw [partedStmt, stmtIdents, stmtIdents, ← exprIdents_parted condition, ← blockIdents_parted body]
    simp [blockIdents, stmtsIdents, stmtIdents]
  | .doBlock body range => blockIdents_parted body
  | .numericFor x start limit (some step) body range => by
    rw [partedStmt, stmtIdents, exprIdents_parted start, exprIdents_parted limit, exprIdents_parted step,
      blockIdents_parted body, stmtIdents]
  | .numericFor x start limit none body range => by
    rw [partedStmt, stmtIdents, exprIdents_parted start, exprIdents_parted limit, blockIdents_parted body, stmtIdents]
  | .genericFor xs iterators body range => by
    rw [partedStmt, stmtIdents, exprsIdents_parted iterators, blockIdents_parted body, stmtIdents]

end

theorem File.idents_parted (file : File) : file.parted.idents = file.idents := blockIdents_parted file.body

/-- The identifiers of a text are plain, also in what is mentioned once its loops are taken apart. -/
theorem isPlain_of_mem_parted {text : String} {m : Mention} (hm : m ∈ (parse text).file.parted.mentions) {x : Ident}
    (hx : x ∈ m.idents) : Name.IsPlain x.name := by
  generalize hfile : (parse text).file = file at hm
  have hparted : x ∈ file.parted.idents := blockMentions_within .outermost file.parted.body m hm hx
  rw [File.idents_parted, ← hfile] at hparted
  exact isPlain_of_mem_idents text x hparted

/-! ## Scopes -/

/-- What becomes of the scope of a place when loops are taken apart: the place stands outside of conditions then. If it
did so before, the scope stays as it is; if not, some of what was bound may not be bound any more. -/
structure Scope.Becomes (σ σ' : Scope) : Prop where
  outside : σ'.inCondition = false
  sublist : σ'.binders.Sublist σ.binders
  same : σ.inCondition = false → σ' = σ

/-- What becomes of that to which a value is given. -/
inductive Owner.Becomes : Owner → Owner → Prop
  | introduced : Becomes .introduced .introduced
  | target {t : Expr} {σ σ' : Scope} : σ.Becomes σ' → Becomes (.target t σ) (.target (partedExpr t) σ')

/-- What becomes of a mention: only its scope may change, and the functions inside of it. -/
inductive Mention.Becomes : Mention → Mention → Prop
  | used {e : Expr} {σ σ' : Scope} : σ.Becomes σ' → Becomes (.used e σ) (.used (partedExpr e) σ')
  | introduced (x : Ident) : Becomes (.introduced x) (.introduced x)
  | key {owner owner' : Owner} (range : Range) : owner.Becomes owner' → Becomes (.key range owner) (.key range owner')
  | argument (module : String) (range : Range) : Becomes (.argument module range) (.argument module range)
  | assigned {t : Expr} {σ σ' : Scope} : σ.Becomes σ' → Becomes (.assigned t σ) (.assigned (partedExpr t) σ')
  | function {name : Expr} {σ σ' : Scope} (isLocal : Bool) : σ.Becomes σ' →
      Becomes (.function isLocal name σ) (.function isLocal (partedExpr name) σ')

theorem Scope.becomes_outermost : outermost.Becomes outermost := ⟨rfl, .refl _, fun _ => rfl⟩

theorem Scope.Becomes.bind {σ σ' : Scope} (h : σ.Becomes σ') (xs : List Ident) : (σ.bind xs).Becomes (σ'.bind xs) where
  outside := h.outside
  sublist := h.sublist.append_left _
  same hσ := congrArg (·.bind xs) (h.same hσ)

/-- The condition of a loop loses what the body of the loop binds. -/
theorem Scope.Becomes.condition {σ σ' : Scope} (h : σ.Becomes σ') (xs : List Ident) :
    (σ.bind xs).condition.Becomes σ' where
  outside := h.outside
  sublist := h.sublist.trans (List.sublist_append_right ..)
  same hσ := by cases hσ

/-- What mentions become, one by one. -/
abbrev AllBecome : List Mention → List Mention → Prop := List.Forall₂ Mention.Becomes

namespace AllBecome

variable {ms ms' ns ns' : List Mention}

theorem one {m m' : Mention} (h : m.Becomes m') : AllBecome [m] [m'] := .cons h .nil

theorem append (h : AllBecome ms ms') (h' : AllBecome ns ns') : AllBecome (ms ++ ns) (ms' ++ ns') :=
  List.rel_append h h'

theorem ofIf {p : Prop} [Decidable p] {m m' : Mention} (h : m.Becomes m') :
    AllBecome (if p then [m] else []) (if p then [m'] else []) := by
  split
  · exact one h
  · exact .nil

theorem introduced (xs : List Ident) : AllBecome (xs.map .introduced) (xs.map .introduced) := by
  unfold AllBecome
  rw [List.forall₂_map_left_iff, List.forall₂_map_right_iff, List.forall₂_same]
  exact fun x _ => .introduced x

theorem arguments (callee : Expr) (args : List Expr) :
    AllBecome (argumentMentions callee args) (argumentMentions (partedExpr callee) (partedExprs args)) := by
  unfold argumentMentions
  rw [requiredModule?_parted]
  cases requiredModule? callee args with
  | none => exact .nil
  | some m =>
    cases args with
    | nil => exact .nil
    | cons arg args =>
      rw [partedExprs]
      dsimp only
      rw [range_partedExpr]
      exact one (.argument m arg.range)

theorem alternate {mss mss' nss nss' : List (List Mention)} (h : List.Forall₂ AllBecome mss mss')
    (h' : List.Forall₂ AllBecome nss nss') : AllBecome (Walk.alternate mss nss) (Walk.alternate mss' nss') :=
  Walk.rel_alternate .nil .append h h'

end AllBecome

theorem binders_partedStmt (s : Stmt) : (partedStmt s).binders = s.binders := by
  cases s with
  | funcDecl isLocal name f range => cases isLocal <;> cases name <;> rfl
  | numericFor x start limit step body range => cases step <;> rfl
  | _ => rfl

theorem implicitSelf_partedExpr (e : Expr) : implicitSelf (partedExpr e) = implicitSelf e := by
  cases e with
  | member base accessor field range =>
    cases accessor with
    | dot => rfl
    | colon =>
      rw [partedExpr, implicitSelf, dottedName?_partedExpr, implicitSelf]
  | _ => rfl

theorem targetOwner?_becomes {σ σ' : Scope} (h : σ.Becomes σ') (t : Expr) :
    Option.Rel Owner.Becomes (targetOwner? σ t) (targetOwner? σ' (partedExpr t)) := by
  unfold targetOwner?
  rw [dottedName?_partedExpr]
  cases t.dottedName? with
  | none => exact .none
  | some name => exact .some (.target h)

mutual

theorem becomes_expr {σ σ' : Scope} (h : σ.Becomes σ') : ∀ {owner? owner'? : Option Owner},
    Option.Rel Owner.Becomes owner? owner'? → ∀ e : Expr,
    AllBecome (exprMentions σ owner? e) (exprMentions σ' owner'? (partedExpr e))
  | _, _, _, .ident id => by
    rw [partedExpr, exprMentions, exprMentions]
    exact .one (.used (e := .ident id) h)
  | _, _, _, .member base accessor field range => by
    rw [exprMentions, partedExpr, exprMentions, ← partedExpr, chainMentions, chainMentions, dottedName?_partedExpr]
    exact (becomes_expr h .none base).append (.ofIf (.used h))
  | _, _, _, .index base key range => by
    rw [exprMentions, partedExpr, exprMentions, ← partedExpr, dottedName?_partedExpr]
    refine (becomes_expr h .none base).append ?_
    split
    · exact .one (.used h)
    · exact becomes_expr h .none key
  | _, _, _, .call callee args range => by
    rw [exprMentions, partedExpr, exprMentions]
    exact ((becomes_expr h .none callee).append (.arguments callee args)).append (becomes_exprs h args)
  | _, _, _, .func f => by
    rw [exprMentions, partedExpr, exprMentions]
    exact becomes_function h [] f
  | _, _, ho, .table entries range => by
    rw [exprMentions, partedExpr, exprMentions]
    exact becomes_entries h ho entries
  | _, _, _, .binary left right range => by
    rw [exprMentions, partedExpr, exprMentions]
    exact (becomes_expr h .none left).append (becomes_expr h .none right)
  | _, _, _, .unary operand range => by
    rw [exprMentions, partedExpr, exprMentions]
    exact becomes_expr h .none operand
  | _, _, ho, .paren inner range => by
    rw [exprMentions, partedExpr, exprMentions]
    exact becomes_expr h ho inner
  | _, _, _, .string .. | _, _, _, .number .. | _, _, _, .literal _ | _, _, _, .vararg _ => by
    rw [exprMentions, partedExpr, exprMentions]
    exact .nil

theorem becomes_exprs {σ σ' : Scope} (h : σ.Becomes σ') : ∀ es : List Expr,
    AllBecome (exprsMentions σ es) (exprsMentions σ' (partedExprs es))
  | [] => .nil
  | e :: es => by
    rw [exprsMentions, partedExprs, exprsMentions]
    exact (becomes_expr h .none e).append (becomes_exprs h es)

theorem becomes_values {σ σ' : Scope} (h : σ.Becomes σ') : ∀ {owners owners' : List (Option Owner)},
    List.Forall₂ (Option.Rel Owner.Becomes) owners owners' → ∀ vs : List Expr,
    List.Forall₂ AllBecome (valuesMentions σ owners vs) (valuesMentions σ' owners' (partedExprs vs))
  | _, _, _, [] => by
    rw [valuesMentions, partedExprs, valuesMentions]
    exact .nil
  | _, _, .nil, v :: vs => by
    rw [valuesMentions, partedExprs, valuesMentions]
    exact .cons (becomes_expr h .none v) (becomes_values h .nil vs)
  | _, _, .cons ho hos, v :: vs => by
    rw [valuesMentions, partedExprs, valuesMentions]
    exact .cons (becomes_expr h ho v) (becomes_values h hos vs)

theorem becomes_entries {σ σ' : Scope} (h : σ.Becomes σ') {owner? owner'? : Option Owner}
    (ho : Option.Rel Owner.Becomes owner? owner'?) : ∀ es : List TableEntry,
    AllBecome (entriesMentions σ owner? es) (entriesMentions σ' owner'? (partedEntries es))
  | [] => .nil
  | e :: es => by
    rw [entriesMentions, partedEntries, entriesMentions]
    exact (becomes_entry h ho e).append (becomes_entries h ho es)

theorem becomes_entry {σ σ' : Scope} (h : σ.Becomes σ') : ∀ {owner? owner'? : Option Owner},
    Option.Rel Owner.Becomes owner? owner'? → ∀ e : TableEntry,
    AllBecome (entryMentions σ owner? e) (entryMentions σ' owner'? (partedEntry e))
  | _, _, .none, .named key value => by
    rw [entryMentions, partedEntry, entryMentions]
    exact becomes_expr h .none value
  | _, _, .some ho, .named key value => by
    rw [entryMentions, partedEntry, entryMentions]
    exact (AllBecome.one (.key key.range ho)).append (becomes_expr h (.some ho) value)
  | _, _, .none, .indexed key value => by
    rw [partedEntry]
    unfold entryMentions
    exact (becomes_expr h .none key).append (becomes_expr h .none value)
  | _, _, .some ho, .indexed key value => by
    rw [partedEntry]
    unfold entryMentions
    rw [keySuffix?_partedExpr, range_partedExpr]
    cases key.keySuffix? with
    | some suffix => exact (AllBecome.one (.key key.range ho)).append (becomes_expr h (.some ho) value)
    | none => exact (becomes_expr h .none key).append (becomes_expr h .none value)
  | _, _, _, .positional value => by
    rw [entryMentions, partedEntry, entryMentions]
    exact becomes_expr h .none value

theorem becomes_function {σ σ' : Scope} (h : σ.Becomes σ') (implicit : List Ident) : ∀ f : FuncBody,
    AllBecome (functionMentions σ implicit f) (functionMentions σ' implicit (partedFunction f))
  | .mk params isVararg body range => by
    rw [functionMentions, partedFunction, functionMentions]
    exact (AllBecome.introduced params).append (becomes_block (h.bind _) body)

theorem becomes_block {σ σ' : Scope} (h : σ.Becomes σ') : ∀ b : Block,
    AllBecome (blockMentions σ b) (blockMentions σ' (partedBlock b))
  | .mk stmts range => by
    rw [blockMentions, partedBlock, blockMentions]
    exact becomes_stmts h stmts

theorem becomes_stmts {σ σ' : Scope} (h : σ.Becomes σ') : ∀ ss : List Stmt,
    AllBecome (stmtsMentions σ ss) (stmtsMentions σ' (partedStmts ss))
  | [] => .nil
  | s :: ss => by
    rw [stmtsMentions, partedStmts, stmtsMentions, binders_partedStmt]
    exact (becomes_stmt h s).append (becomes_stmts (h.bind _) ss)

theorem becomes_clauses {σ σ' : Scope} (h : σ.Becomes σ') : ∀ cs : List Clause,
    AllBecome (clausesMentions σ cs) (clausesMentions σ' (partedClauses cs))
  | [] => .nil
  | .mk (some condition) body :: cs => by
    rw [clausesMentions, partedClauses, clausesMentions]
    exact ((becomes_expr h .none condition).append (becomes_block h body)).append (becomes_clauses h cs)
  | .mk none body :: cs => by
    rw [clausesMentions, partedClauses, clausesMentions]
    exact (becomes_block h body).append (becomes_clauses h cs)

theorem becomes_stmt {σ σ' : Scope} (h : σ.Becomes σ') : ∀ s : Stmt,
    AllBecome (stmtMentions σ s) (stmtMentions σ' (partedStmt s))
  | .localVars names values range => by
    rw [stmtMentions, partedStmt, stmtMentions]
    refine (AllBecome.introduced names).append (List.rel_flatten (becomes_values h ?_ values))
    rw [List.forall₂_map_left_iff, List.forall₂_map_right_iff, List.forall₂_same]
    exact fun x _ => .some .introduced
  | .assign targets values range => by
    rw [stmtMentions, partedStmt, stmtMentions]
    refine .alternate (becomes_targets h targets) (becomes_values h ?_ values)
    rw [partedExprs_eq_map, List.map_map, List.forall₂_map_left_iff, List.forall₂_map_right_iff, List.forall₂_same]
    exact fun t _ => targetOwner?_becomes h t
  | .funcDecl isLocal name f range => by
    have hinner := h.bind (Stmt.funcDecl isLocal name f range).binders
    rw [stmtMentions, partedStmt, stmtMentions, ← partedStmt, binders_partedStmt, dottedName?_partedExpr,
      implicitSelf_partedExpr]
    exact ((becomes_expr hinner .none name).append (.ofIf (.function isLocal hinner))).append
      (becomes_function hinner _ f)
  | .call callee args range => by
    rw [stmtMentions, partedStmt, stmtMentions]
    exact ((becomes_expr h .none callee).append (.arguments callee args)).append (becomes_exprs h args)
  | .ret values range => by
    rw [stmtMentions, partedStmt, stmtMentions]
    exact becomes_exprs h values
  | .branch clauses range => by
    rw [stmtMentions, partedStmt, stmtMentions]
    exact becomes_clauses h clauses
  | .whileLoop condition body range => by
    rw [stmtMentions, partedStmt, stmtMentions]
    exact (becomes_expr h .none condition).append (becomes_block h body)
  | .repeatLoop body condition range => by
    rw [stmtMentions, mentions_repeatLoop]
    exact (becomes_block h body).append (becomes_expr (h.condition _) .none condition)
  | .doBlock body range => by
    rw [stmtMentions, partedStmt, stmtMentions]
    exact becomes_block h body
  | .numericFor x start limit (some step) body range => by
    rw [stmtMentions, partedStmt, stmtMentions]
    have hbounds := (becomes_expr h .none start).append (becomes_expr h .none limit)
    exact (hbounds.append (becomes_expr h .none step)).append
      ((AllBecome.introduced [x]).append (becomes_block (h.bind [x]) body))
  | .numericFor x start limit none body range => by
    rw [stmtMentions, partedStmt, stmtMentions]
    have hbounds := (becomes_expr h .none start).append (becomes_expr h .none limit)
    exact hbounds.append ((AllBecome.introduced [x]).append (becomes_block (h.bind [x]) body))
  | .genericFor xs iterators body range => by
    rw [stmtMentions, partedStmt, stmtMentions]
    exact ((becomes_exprs h iterators).append (.introduced xs)).append (becomes_block (h.bind xs) body)

theorem becomes_targets {σ σ' : Scope} (h : σ.Becomes σ') : ∀ ts : List Expr,
    List.Forall₂ AllBecome (targetsMentions σ ts) (targetsMentions σ' (partedExprs ts))
  | [] => by
    rw [targetsMentions, partedExprs, targetsMentions]
    exact .nil
  | t :: ts => by
    rw [targetsMentions, partedExprs, targetsMentions, dottedName?_partedExpr]
    exact .cons ((becomes_expr h .none t).append (.ofIf (.assigned h))) (becomes_targets h ts)

end

theorem Mention.Becomes.isAt {m m' : Mention} (h : m.Becomes m') (p : Position) : m'.isAt p = m.isAt p := by
  have hrange : m'.hitRange? = m.hitRange? := by
    cases h with
    | used => exact congrArg some (nameRange_partedExpr _)
    | _ => rfl
  unfold Mention.isAt
  rw [hrange]

theorem AllBecome.find? {ms ms' : List Mention} (h : AllBecome ms ms') (p : Position) :
    Option.Rel Mention.Becomes (ms.find? (·.isAt p)) (ms'.find? (·.isAt p)) := by
  induction h with
  | nil => exact .none
  | @cons m m' ms ms' hm _ ih =>
    rw [List.find?_cons, List.find?_cons, hm.isAt p]
    cases m.isAt p with
    | true => exact .some hm
    | false => exact ih

/-- A cursor stands on a mention of a file exactly if it stands, in the file with its loops taken apart, on what becomes
of that mention. -/
theorem File.mentionAt?_parted (file : File) (p : Position) :
    Option.Rel Mention.Becomes (file.mentionAt? p) (file.parted.mentionAt? p) :=
  (becomes_block Scope.becomes_outermost file.body).find? p

end LuaAtlas.Syntax
