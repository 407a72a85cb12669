/-
Lexical scope. Every assigned place and every declared function of a file is listed here with the locals that
the language lets it see, read off the syntax tree alone. A walk knows no local that is not in scope: it may
know fewer, as in the condition of a `repeat` loop, which sees the locals of the loop. So it declares as global
whatever starts from a variable that is not a local.
-/
import LuaAtlas.Proofs.Walk.Pieces

namespace LuaAtlas.Syntax

/-! ## Definitions and what they see -/

/-- An assigned place or the name of a declared function, with the locals in scope there. -/
structure Definition where
  target : Expr
  /-- Whether it is the name in a `function` declaration. -/
  isFunction : Bool
  scope : List String

/-- The locals that a statement leaves in scope behind it. -/
def Stmt.locals : Stmt → List String
  | .localVars names _ _ => names.map (·.name)
  | .funcDecl true name _ _ => name.dottedName?.toList
  | _ => []

/-- The locals in scope at the end of a block. -/
def Block.locals (b : Block) : List String := b.stmts.flatMap Stmt.locals

/-- What a method sees beside its parameters. -/
def methodLocals (name : Expr) : List String := if name.isMethodName then ["self"] else []

mutual

def exprDefinitions (scope : List String) : Expr → List Definition
  | .member base _ _ _ => exprDefinitions scope base
  | .index base key _ => exprDefinitions scope base ++ exprDefinitions scope key
  | .call callee args _ => exprDefinitions scope callee ++ exprsDefinitions scope args
  | .func f => functionDefinitions scope f
  | .table entries _ => entriesDefinitions scope entries
  | .binary left right _ => exprDefinitions scope left ++ exprDefinitions scope right
  | .unary operand _ => exprDefinitions scope operand
  | .paren inner _ => exprDefinitions scope inner
  | .ident _ | .string .. | .number .. | .literal _ | .vararg _ => []

def exprsDefinitions (scope : List String) : List Expr → List Definition
  | [] => []
  | e :: es => exprDefinitions scope e ++ exprsDefinitions scope es

def entriesDefinitions (scope : List String) : List TableEntry → List Definition
  | [] => []
  | e :: es => entryDefinitions scope e ++ entriesDefinitions scope es

def entryDefinitions (scope : List String) : TableEntry → List Definition
  | .named _ value | .positional value => exprDefinitions scope value
  | .indexed key value => exprDefinitions scope key ++ exprDefinitions scope value

/-- A function sees its parameters. -/
def functionDefinitions (scope : List String) : FuncBody → List Definition
  | .mk params _ body _ => blockDefinitions (params.map (·.name) ++ scope) body

def blockDefinitions (scope : List String) : Block → List Definition
  | .mk stmts _ => stmtsDefinitions scope stmts

def stmtsDefinitions (scope : List String) : List Stmt → List Definition
  | [] => []
  | s :: ss => stmtDefinitions scope s ++ stmtsDefinitions (s.locals ++ scope) ss

def clausesDefinitions (scope : List String) : List Clause → List Definition
  | [] => []
  | .mk (some condition) body :: cs =>
    exprDefinitions scope condition ++ blockDefinitions scope body ++ clausesDefinitions scope cs
  | .mk none body :: cs => blockDefinitions scope body ++ clausesDefinitions scope cs

/-- The definitions of a statement. A local function sees itself, a method also `self`, a loop its variables, and
the condition of a `repeat` loop the locals of the loop. -/
def stmtDefinitions (scope : List String) : Stmt → List Definition
  | .localVars _ values _ => exprsDefinitions scope values
  | .assign targets values _ =>
    targets.map (⟨·, false, scope⟩) ++ exprsDefinitions scope targets ++ exprsDefinitions scope values
  | .funcDecl isLocal name f range =>
    let visible := (Stmt.funcDecl isLocal name f range).locals ++ scope
    (if isLocal then [] else [⟨name, true, scope⟩]) ++ exprDefinitions visible name ++
      functionDefinitions (methodLocals name ++ visible) f
  | .call callee args _ => exprDefinitions scope callee ++ exprsDefinitions scope args
  | .ret values _ => exprsDefinitions scope values
  | .branch clauses _ => clausesDefinitions scope clauses
  | .whileLoop condition body _ => exprDefinitions scope condition ++ blockDefinitions scope body
  | .repeatLoop body condition _ => blockDefinitions scope body ++ exprDefinitions (body.locals ++ scope) condition
  | .doBlock body _ => blockDefinitions scope body
  | .numericFor x start limit (some step) body _ =>
    exprDefinitions scope start ++ exprDefinitions scope limit ++ exprDefinitions scope step ++
      blockDefinitions (x.name :: scope) body
  | .numericFor x start limit none body _ =>
    exprDefinitions scope start ++ exprDefinitions scope limit ++ blockDefinitions (x.name :: scope) body
  | .genericFor xs iterators body _ =>
    exprsDefinitions scope iterators ++ blockDefinitions (xs.map (·.name) ++ scope) body

end

/-- The definitions of a file. -/
def File.definitions (file : File) : List Definition := blockDefinitions [] file.body

theorem exprDefinitions_of_keySuffix? {key : Expr} {suffix : String} (h : key.keySuffix? = some suffix)
    (scope : List String) : exprDefinitions scope key = [] := by
  cases key with
  | string value range => rw [exprDefinitions]
  | number raw range => rw [exprDefinitions]
  | _ => cases h

theorem exprDefinitions_key {base key : Expr} {range : Range} {name : String}
    (h : (Expr.index base key range).dottedName? = some name) (scope : List String) : exprDefinitions scope key = [] := by
  obtain ⟨suffix, hs⟩ := Expr.keySuffix?_of_dottedName? h
  exact exprDefinitions_of_keySuffix? hs scope

end LuaAtlas.Syntax

namespace LuaAtlas.Walk

open LuaAtlas.Syntax

/-! ## Declarations of definitions -/

/-- How a walk declares the definition `g` called `name`: as a global, unless it starts from a local in scope. -/
structure Makes (g : Definition) (name : String) (d : Declaration) : Prop where
  called : d.name = name
  range : d.range = g.target.range
  onlyNew : d.onlyNew = !g.isFunction
  isGlobal : Name.root name ∉ g.scope → d.isLocal = false

/-- All definitions that have a name are declared among the events. -/
def Covers (gs : List Definition) (es : List Event) : Prop :=
  ∀ g ∈ gs, ∀ name, g.target.dottedName? = some name → ∃ d, Event.declared d ∈ es ∧ Makes g name d

namespace Covers

theorem nil (es : List Event) : Covers [] es := fun g hg => by cases hg

theorem mono {gs : List Definition} {es fs : List Event} (h : Covers gs es) (hsub : es ⊆ fs) : Covers gs fs := by
  intro g hg name hname
  obtain ⟨d, hd, hmakes⟩ := h g hg name hname
  exact ⟨d, hsub hd, hmakes⟩

theorem left {gs : List Definition} {es : List Event} (h : Covers gs es) (fs : List Event) : Covers gs (es ++ fs) :=
  h.mono (List.subset_append_left es fs)

theorem right {gs : List Definition} {es : List Event} (h : Covers gs es) (fs : List Event) : Covers gs (fs ++ es) :=
  h.mono (List.subset_append_right fs es)

theorem both {gs hs : List Definition} {es : List Event} (h : Covers gs es) (h' : Covers hs es) :
    Covers (gs ++ hs) es := by
  intro g hg
  rcases List.mem_append.1 hg with hg | hg
  · exact h g hg
  · exact h' g hg

theorem append {gs hs : List Definition} {es fs : List Event} (h : Covers gs es) (h' : Covers hs fs) :
    Covers (gs ++ hs) (es ++ fs) := (h.left fs).both (h'.right es)

theorem cons {g : Definition} {gs : List Definition} {es : List Event} (h : Covers [g] es) (h' : Covers gs es) :
    Covers (g :: gs) es := both h h'

end Covers

theorem isLocal_eq_false {c : Context} {scope : List String} (hc : c.locals ⊆ scope) {name : String}
    (h : Name.root name ∉ scope) : c.isLocal name = false := by
  unfold Context.isLocal
  rw [List.contains_eq_mem, decide_eq_false_iff_not]
  exact fun hmem => h (hc hmem)

theorem introduced_subset (s : Stmt) : introduced s ⊆ s.locals := by
  unfold introduced
  split
  · exact List.Subset.refl _
  · exact List.Subset.refl _
  · exact List.nil_subset _

theorem withLocals_subset {c : Context} {scope names names' : List String} (hc : c.locals ⊆ scope)
    (hnames : names ⊆ names') : (c.withLocals names).locals ⊆ names' ++ scope :=
  List.append_subset.2 ⟨List.subset_append_of_subset_left scope hnames, List.subset_append_of_subset_right names' hc⟩

/-- A walk knows `self` in methods alone. -/
theorem receiver_subset (name : Expr) (scope : List String) :
    (if (receiver? name).isSome then ["self"] else []) ++ scope ⊆ methodLocals name ++ scope := by
  refine List.append_subset.2 ⟨List.subset_append_of_subset_left scope ?_, List.subset_append_right _ _⟩
  unfold receiver?
  split
  · split
    · exact List.Subset.refl _
    · exact List.nil_subset _
  · exact List.nil_subset _

/-! ## Single definitions -/

theorem makes_target {c : Context} {scope : List String} (hc : c.locals ⊆ scope) (t : Expr) (name : String)
    (value? : Option Expr) : Makes ⟨t, false, scope⟩ name (targetDeclaration c t name value?) := by
  have hglobal : Name.root name ∉ scope → c.isLocal name = false := isLocal_eq_false hc
  unfold targetDeclaration Declaration.withValue
  dsimp only
  split <;> exact ⟨rfl, rfl, rfl, hglobal⟩

theorem makes_function {c : Context} {scope : List String} (hc : c.locals ⊆ scope) (t : Expr) (name : String)
    (f : FuncBody) : Makes ⟨t, true, scope⟩ name (functionDeclaration c false t name f) := by
  refine ⟨rfl, rfl, rfl, fun hroot => ?_⟩
  unfold functionDeclaration
  dsimp only
  rw [Bool.false_or]
  split
  · exact isLocal_eq_false hc hroot
  · exact isLocal_eq_false hc hroot
  · rfl

/-- The targets of an assignment are declared in its context. -/
theorem covers_targets {c : Context} {scope : List String} (hc : c.locals ⊆ scope) (ts vs : List Expr) :
    Covers (ts.map (⟨·, false, scope⟩)) (targetDeclarations c ts vs).flatten := by
  induction ts generalizing vs with
  | nil => exact .nil _
  | cons t ts ih =>
    rw [targetDeclarations, List.flatten_cons]
    refine .cons (Covers.left ?_ _) ((ih vs.tail).right _)
    intro g hg name hname
    cases List.mem_singleton.1 hg
    dsimp only at hname
    rw [hname]
    exact ⟨_, List.mem_singleton_self _, makes_target hc t name vs.head?⟩

/-- What stands in front of a declaration is still there beside it. -/
theorem subset_zipWith_append : ∀ {ess fss : List (List Event)}, ess.length = fss.length →
    ess.flatten ⊆ (List.zipWith (· ++ ·) ess fss).flatten ∧ fss.flatten ⊆ (List.zipWith (· ++ ·) ess fss).flatten
  | [], [], _ => ⟨List.Subset.refl _, List.Subset.refl _⟩
  | [], _ :: _, h => by cases h
  | _ :: _, [], h => by cases h
  | es :: ess, fs :: fss, h => by
    obtain ⟨hfirst, hsecond⟩ := subset_zipWith_append (Nat.succ.inj h)
    rw [List.zipWith_cons_cons, List.flatten_cons, List.flatten_cons, List.flatten_cons]
    constructor
    · exact List.append_subset.2 ⟨List.subset_append_of_subset_left _ (List.subset_append_left es fs),
        List.subset_append_of_subset_right _ hfirst⟩
    · exact List.append_subset.2 ⟨List.subset_append_of_subset_left _ (List.subset_append_right es fs),
        List.subset_append_of_subset_right _ hsecond⟩

theorem length_targetsEvents (c : Context) (ts vs : List Expr) :
    (targetsEvents c ts).length = (targetDeclarations c ts vs).length := by
  induction ts generalizing vs with
  | nil => rw [targetsEvents, targetDeclarations]
  | cons t ts ih => rw [targetsEvents, targetDeclarations, List.length_cons, List.length_cons, ih vs.tail]

/-! ## The walk declares every definition -/

mutual

theorem covers_expr {c : Context} {scope : List String} (hc : c.locals ⊆ scope) : ∀ e : Expr,
    Covers (exprDefinitions scope e) (exprEvents c e)
  | .ident id => by
    rw [exprDefinitions]
    exact .nil _
  | .member base accessor field range => by
    rw [exprDefinitions, exprEvents]
    exact (covers_expr hc base).left _
  | .index base key range => by
    rw [exprDefinitions, exprEvents]
    refine (covers_expr hc base).append ?_
    split
    · rename_i name hname
      rw [exprDefinitions_key hname]
      exact .nil _
    · exact covers_expr hc key
  | .call callee args range => by
    rw [exprDefinitions, exprEvents]
    exact ((covers_expr hc callee).left _).append (covers_exprs hc args)
  | .func f => by
    rw [exprDefinitions, exprEvents]
    exact covers_function hc _ none (List.Subset.refl _) f
  | .table entries range => by
    rw [exprDefinitions, exprEvents]
    exact covers_entries hc none entries
  | .binary left right range => by
    rw [exprDefinitions, exprEvents]
    exact (covers_expr hc left).append (covers_expr hc right)
  | .unary operand range => by
    rw [exprDefinitions, exprEvents]
    exact covers_expr hc operand
  | .paren inner range => by
    rw [exprDefinitions, exprEvents]
    exact covers_expr hc inner
  | .string .. | .number .. | .literal _ | .vararg _ => by
    rw [exprDefinitions]
    exact .nil _

theorem covers_exprs {c : Context} {scope : List String} (hc : c.locals ⊆ scope) : ∀ es : List Expr,
    Covers (exprsDefinitions scope es) (exprsEvents c es)
  | [] => by
    rw [exprsDefinitions]
    exact .nil _
  | e :: es => by
    rw [exprsDefinitions, exprsEvents]
    exact (covers_expr hc e).append (covers_exprs hc es)

theorem covers_value {c : Context} {scope : List String} (hc : c.locals ⊆ scope) (b : Binding) : ∀ e : Expr,
    Covers (exprDefinitions scope e) (valueEvents c b e)
  | .func f => by
    rw [exprDefinitions, valueEvents]
    exact covers_function hc _ none (List.Subset.refl _) f
  | .table entries range => by
    rw [exprDefinitions, valueEvents]
    exact covers_entries hc (some b) entries
  | .call callee args range => by
    rw [exprDefinitions, valueEvents]
    exact ((covers_expr hc callee).left _).append (covers_exprs hc args)
  | .paren inner range => by
    rw [exprDefinitions, valueEvents]
    exact covers_value hc b inner
  | .ident id => by
    rw [exprDefinitions]
    exact .nil _
  | .member base accessor field range => by
    rw [exprDefinitions, valueEvents]
    exact ((covers_expr hc base).left _).left _
  | .index base key range => by
    rw [exprDefinitions, valueEvents]
    refine (covers_expr hc base).append ?_
    split
    · rename_i name hname
      rw [exprDefinitions_key hname]
      exact .nil _
    · exact covers_expr hc key
  | .binary left right range => by
    rw [exprDefinitions, valueEvents]
    exact (covers_expr hc left).append (covers_expr hc right)
  | .unary operand range => by
    rw [exprDefinitions, valueEvents]
    exact covers_expr hc operand
  | .string .. | .number .. | .literal _ | .vararg _ => by
    rw [exprDefinitions]
    exact .nil _

theorem covers_values {c : Context} {scope : List String} (hc : c.locals ⊆ scope) : ∀ (bs : List (Option Binding))
    (vs : List Expr), Covers (exprsDefinitions scope vs) (valuesEvents c bs vs).flatten
  | _, [] => by
    rw [exprsDefinitions]
    exact .nil _
  | some b :: bs, v :: vs => by
    rw [exprsDefinitions, valuesEvents, List.flatten_cons]
    exact (covers_value hc b v).append (covers_values hc bs vs)
  | none :: bs, v :: vs => by
    rw [exprsDefinitions, valuesEvents, List.flatten_cons]
    exact (covers_expr hc v).append (covers_values hc bs vs)
  | [], v :: vs => by
    rw [exprsDefinitions, valuesEvents, List.flatten_cons]
    exact (covers_expr hc v).append (covers_values hc [] vs)

theorem covers_entries {c : Context} {scope : List String} (hc : c.locals ⊆ scope) (base? : Option Binding) :
    ∀ es : List TableEntry, Covers (entriesDefinitions scope es) (entriesEvents c base? es)
  | [] => by
    rw [entriesDefinitions]
    exact .nil _
  | e :: es => by
    rw [entriesDefinitions, entriesEvents]
    exact (covers_entry hc base? e).append (covers_entries hc base? es)

theorem covers_entry {c : Context} {scope : List String} (hc : c.locals ⊆ scope) (base? : Option Binding) :
    ∀ e : TableEntry, Covers (entryDefinitions scope e) (entryEvents c base? e)
  | .named key value => by
    rw [entryDefinitions]
    unfold entryEvents
    split
    · exact (covers_value hc _ value).right [_, _]
    · exact covers_expr hc value
  | .indexed key value => by
    rw [entryDefinitions]
    unfold entryEvents
    split
    · rename_i name base hname
      obtain ⟨suffix, hs, -⟩ := Option.map_eq_some_iff.1 hname
      rw [exprDefinitions_of_keySuffix? hs]
      exact (covers_value hc _ value).right [_, _]
    · exact (covers_expr hc key).append (covers_expr hc value)
  | .positional value => by
    rw [entryDefinitions, entryEvents]
    exact covers_expr hc value

/-- The body of a function, in a scope that may also have `self`. -/
theorem covers_function {c : Context} {scope inner : List String} (hc : c.locals ⊆ scope) (name : String)
    (receiver? : Option (String × Range)) (hself : (if receiver?.isSome then ["self"] else []) ++ scope ⊆ inner) :
    ∀ f : FuncBody, Covers (functionDefinitions inner f) (functionEvents c name receiver? f)
  | .mk params isVararg body range => by
    rw [functionDefinitions]
    unfold functionEvents
    refine Covers.right (covers_block ?_ body) _
    show (params.map (·.name) ++ (if receiver?.isSome then ["self"] else [])) ++ c.locals ⊆ _
    rw [List.append_assoc]
    refine List.append_subset.2 ⟨List.subset_append_left _ _, List.subset_append_of_subset_right _ ?_⟩
    refine List.Subset.trans (List.append_subset.2 ⟨List.subset_append_left _ scope, ?_⟩) hself
    exact List.subset_append_of_subset_right _ hc

theorem covers_block {c : Context} {scope : List String} (hc : c.locals ⊆ scope) : ∀ b : Block,
    Covers (blockDefinitions scope b) (blockEvents c b)
  | .mk stmts range => by
    rw [blockDefinitions, blockEvents]
    exact covers_stmts hc stmts

theorem covers_stmts {c : Context} {scope : List String} (hc : c.locals ⊆ scope) : ∀ ss : List Stmt,
    Covers (stmtsDefinitions scope ss) (stmtsEvents c ss)
  | [] => by
    rw [stmtsDefinitions]
    exact .nil _
  | s :: ss => by
    rw [stmtsDefinitions, stmtsEvents]
    exact (covers_stmt hc s).append (covers_stmts (withLocals_subset hc (introduced_subset s)) ss)

theorem covers_clauses {c : Context} {scope : List String} (hc : c.locals ⊆ scope) : ∀ cs : List Clause,
    Covers (clausesDefinitions scope cs) (clausesEvents c cs)
  | [] => by
    rw [clausesDefinitions]
    exact .nil _
  | .mk (some condition) body :: cs => by
    rw [clausesDefinitions, clausesEvents]
    exact ((covers_expr hc condition).append (covers_block hc body)).append (covers_clauses hc cs)
  | .mk none body :: cs => by
    rw [clausesDefinitions, clausesEvents]
    exact (covers_block hc body).append (covers_clauses hc cs)

theorem covers_stmt {c : Context} {scope : List String} (hc : c.locals ⊆ scope) : ∀ s : Stmt,
    Covers (stmtDefinitions scope s) (stmtEvents c s)
  | .localVars names values range => by
    rw [stmtDefinitions, stmtEvents]
    exact (covers_values hc _ values).right _
  | .assign targets values range => by
    rw [stmtDefinitions, stmtEvents]
    -- each target is met and declared, and then its value is met; for covering the order is of no concern
    obtain ⟨hfirst, hsecond⟩ := subset_zipWith_append (length_targetsEvents c targets values)
    have hplaces := ((covers_targets hc targets values).mono hsecond).both ((covers_targetsEvents hc targets).mono hfirst)
    refine .both (hplaces.mono fun e he => mem_alternate.2 (.inl he)) ?_
    exact (covers_values hc _ values).mono fun e he => mem_alternate.2 (.inr he)
  | .funcDecl isLocal name f range => by
    rw [stmtDefinitions, stmtEvents]
    have hinner := withLocals_subset hc (introduced_subset (.funcDecl isLocal name f range))
    -- the name of a function that is not local is met where the statement stands
    have hname : Covers (if isLocal then [] else [⟨name, true, scope⟩])
        ((name.dottedName?.map fun dotted => .declared (functionDeclaration
          (c.withLocals (introduced (.funcDecl isLocal name f range))) isLocal name dotted f)).toList) := by
      split
      · exact .nil _
      · rename_i hglobal
        intro g hg dotted hdotted
        cases List.mem_singleton.1 hg
        have hlocal : isLocal = false := by simpa using hglobal
        subst hlocal
        dsimp only at hdotted
        rw [hdotted]
        exact ⟨_, List.mem_singleton_self _, makes_function hc name dotted f⟩
    generalize c.withLocals (introduced (.funcDecl isLocal name f range)) = inner at hinner hname
    have hexpr := covers_expr hinner name
    cases hdotted : name.dottedName? with
    | some dotted =>
      rw [hdotted] at hname
      have hbody := covers_function hinner dotted (receiver? name) (receiver_subset name _) f
      refine .both (.both ?_ (hexpr.left _)) ((hbody.right [_]).right _)
      exact (hname.left _).right _
    | none =>
      rw [hdotted] at hname
      refine .both (.both (hname.mono (List.nil_subset _)) (hexpr.left _)) ?_
      exact (covers_function hinner _ none (List.subset_append_right _ _) f).right _
  | .call callee args range => by
    rw [stmtDefinitions, stmtEvents]
    exact ((covers_expr hc callee).left _).append (covers_exprs hc args)
  | .ret values range => by
    rw [stmtDefinitions, stmtEvents]
    exact covers_exprs hc values
  | .branch clauses range => by
    rw [stmtDefinitions, stmtEvents]
    exact covers_clauses hc clauses
  | .whileLoop condition body range => by
    rw [stmtDefinitions, stmtEvents]
    exact (covers_expr hc condition).append (covers_block hc body)
  | .repeatLoop body condition range => by
    rw [stmtDefinitions, stmtEvents]
    exact (covers_block hc body).append (covers_expr (List.subset_append_of_subset_right _ hc) condition)
  | .doBlock body range => by
    rw [stmtDefinitions, stmtEvents]
    exact covers_block hc body
  | .numericFor x start limit (some step) body range => by
    rw [stmtDefinitions, stmtEvents]
    have hbody := covers_block (withLocals_subset hc (List.Subset.refl [x.name])) body
    exact (((covers_expr hc start).append (covers_expr hc limit)).append (covers_expr hc step)).append
      (hbody.right [_, _])
  | .numericFor x start limit none body range => by
    rw [stmtDefinitions, stmtEvents]
    have hbody := covers_block (withLocals_subset hc (List.Subset.refl [x.name])) body
    exact ((covers_expr hc start).append (covers_expr hc limit)).append (hbody.right [_, _])
  | .genericFor xs iterators body range => by
    rw [stmtDefinitions, stmtEvents]
    exact ((covers_exprs hc iterators).left _).append (covers_block (withLocals_subset hc (List.Subset.refl _)) body)

theorem covers_targetsEvents {c : Context} {scope : List String} (hc : c.locals ⊆ scope) : ∀ ts : List Expr,
    Covers (exprsDefinitions scope ts) (targetsEvents c ts).flatten
  | [] => by
    rw [exprsDefinitions]
    exact .nil _
  | t :: ts => by
    rw [exprsDefinitions, targetsEvents, List.flatten_cons]
    exact (covers_expr hc t).append (covers_targetsEvents hc ts)

end

/-- A walk over a file declares all its definitions. -/
theorem covers_file (uri : Uri) (file : File) : Covers file.definitions (events uri file) :=
  Covers.right (covers_block (List.nil_subset _) file.body) [_]

end LuaAtlas.Walk
