/-
The walk over a syntax tree. It follows Lua's block scoping: the names a statement introduces are in
scope for the statements behind it in the same block, a function's parameters in its body, a loop's
variables in its block. A `repeat` condition is met outside the block of its loop.
-/
import LuaAtlas.Name
import LuaAtlas.Syntax.Chain
import LuaAtlas.Walk.Event

namespace LuaAtlas.Walk

open LuaAtlas.Syntax

/-- Where a walk stands: the chunks around and the locals in scope. -/
structure Context where
  stack : List ChunkRef
  locals : List String

namespace Context

/-- Whether the variable that a dotted name starts from is a local in scope. -/
def isLocal (c : Context) (name : String) : Bool := c.locals.contains (Name.root name)

/-- The context in which more names are in scope. -/
def withLocals (c : Context) (names : List String) : Context :=
  { c with locals := names ++ c.locals }

/-- The context inside a chunk. -/
def enter (c : Context) (chunk : ChunkRef) : Context := { c with stack := c.stack ++ [chunk] }

end Context

/-- The name a value is bound to, on the line where that name stands. -/
structure Binding where
  name : String
  isLocal : Bool
  line : Nat

/-! ## What the syntax alone tells -/

mutual

/-- The variable of the last `return` of a plain name among statements, outside of functions in
them. -/
def stmtsReturn? : List Stmt → Option String
  | [] => none
  | s :: ss => (stmtsReturn? ss).or (stmtReturn? s)

/-- The variable of the last `return` of a plain name in a statement. -/
def stmtReturn? : Stmt → Option String
  | .ret [.ident id] _ => some id.name
  | .branch clauses _ => clausesReturn? clauses
  | .whileLoop _ body _ | .repeatLoop body _ _ | .doBlock body _
  | .numericFor _ _ _ _ body _ | .genericFor _ _ body _ => blockReturn? body
  | _ => none

/-- The variable of the last `return` of a plain name in the clauses of an `if`. -/
def clausesReturn? : List Clause → Option String
  | [] => none
  | .mk _ body :: cs => (clausesReturn? cs).or (blockReturn? body)

/-- The variable of the last `return` of a plain name in a block. -/
def blockReturn? : Block → Option String
  | .mk ss _ => stmtsReturn? ss

end

/-- The chunk of a function body called `name`. -/
def functionChunk (name : String) (f : FuncBody) : Chunk := ⟨name, f.range, blockReturn? f.body⟩

/-- The name of the chunk of a function that has none: the line it starts on, counted from one. -/
def anonymousName (f : FuncBody) : String := "function@" ++ toString (f.range.start.line + 1)

/-- The function that a value is, through parentheses. -/
def heldFunction? : Expr → Option FuncBody
  | .func f => some f
  | .paren inner _ => heldFunction? inner
  | _ => none

/-- The function that a value is, written without parentheses. -/
def plainFunction? : Option Expr → Option FuncBody
  | some (.func f) => some f
  | _ => none

/-- A function's name with its parameter list. -/
def signature (name : String) (f : FuncBody) : String :=
  let params := f.params.map (·.name) ++ if f.isVararg then ["..."] else []
  name ++ "(" ++ ", ".intercalate params ++ ")"

/-- A declared function's name as written, with the colon of a method. -/
def writtenName : Expr → String
  | .member base .dot field _ => writtenName base ++ "." ++ field.name
  | .member base .colon field _ => writtenName base ++ ":" ++ field.name
  | e => e.dottedName?.getD ""

/-- The names a statement brings into scope for the statements behind it. -/
def introduced : Stmt → List String
  | .localVars names _ _ => names.map (·.name)
  | .funcDecl true (.ident id) _ _ => [id.name]
  | _ => []

/-! ## Single events -/

/-- A use of the name of `e`, if it has one. -/
def use (c : Context) (e : Expr) : List Event :=
  match e.dottedName? with
  | some name => [.site ⟨name, e.nameRange, e.range, c.isLocal name, c.stack⟩]
  | none => []

/-- A declared name is also a place where the name is written. -/
def siteOf (d : Declaration) : Event := .site ⟨d.name, d.range, d.range, d.isLocal, d.stack⟩

/-- The declaration of the plain local `x` without a known value. -/
def localVar (c : Context) (x : Ident) : Declaration where
  name := x.name
  displayName := "local " ++ x.name
  kind := .var
  range := x.range
  isLocal := true
  stack := c.stack
  params := []
  tag? := none
  ownedChunk? := none
  onlyNew := false

/-- Gives a declaration what its value tells: a function written as the value makes it a function
symbol with parameters; a function in parentheses still owns its chunk. -/
def Declaration.withValue (d : Declaration) (functionName : String) (value? : Option Expr) : Declaration :=
  let d := { d with ownedChunk? := (value?.bind heldFunction?).map (functionChunk d.name) }
  match plainFunction? value? with
  | some f => { d with kind := .func, displayName := signature functionName f,
                       params := f.params.map (·.name) }
  | none => d

/-- The declaration of the `i`-th name of a `local` statement by its value, if it has one. -/
def localDeclaration (c : Context) (x : Ident) (value? : Option Expr) : Declaration :=
  (localVar c x).withValue ("local function " ++ x.name) value?

/-- The declarations of the names of a `local` statement. -/
def localDeclarations (c : Context) : List Ident → List Expr → List Declaration
  | [], _ => []
  | x :: xs, [] => localDeclaration c x none :: localDeclarations c xs []
  | x :: xs, v :: vs => localDeclaration c x (some v) :: localDeclarations c xs vs

/-- The declaration that an assignment to the place `target`, called `name`, makes. -/
def targetDeclaration (c : Context) (target : Expr) (name : String) (value? : Option Expr) : Declaration :=
  Declaration.withValue
    { name, displayName := name, kind := .var, range := target.range, isLocal := c.isLocal name,
      stack := c.stack, params := [], tag? := none, ownedChunk? := none, onlyNew := true }
    ("function " ++ name) value?

/-- The declarations of the targets of an assignment, one list for each target. -/
def targetDeclarations (c : Context) : List Expr → List Expr → List (List Event)
  | [], _ => []
  | t :: ts, vs =>
    (match t.dottedName? with
      | some name => [.declared (targetDeclaration c t name vs.head?)]
      | none => []) :: targetDeclarations c ts vs.tail

/-- The name that a place gives to the value assigned to it. -/
def targetBinding? (c : Context) (target : Expr) : Option Binding :=
  target.dottedName?.map fun name => ⟨name, c.isLocal name, target.range.start.line⟩

/-- The declaration of the function `name`. -/
def functionDeclaration (c : Context) (isLocal : Bool) (name : Expr) (dotted : String) (f : FuncBody) :
    Declaration where
  name := dotted
  displayName := signature ((if isLocal then "local function " else "function ") ++ writtenName name) f
  kind := .func
  range := name.range
  isLocal := isLocal || match name with
    | .member .. | .index .. => c.isLocal dotted
    | _ => false
  stack := c.stack
  params := f.params.map (·.name)
  tag? := none
  ownedChunk? := some (functionChunk dotted f)
  onlyNew := false

/-- The table whose method a declared function is, and where the method's name stands. -/
def receiver? : Expr → Option (String × Range)
  | .member base .colon field _ => base.dottedName?.map (·, field.range)
  | _ => none

/-- The implicit `self` of a method of `owner`. -/
def selfDeclaration (c : Context) (owner : String) (range : Range) : Declaration where
  name := "self"
  displayName := "local self"
  kind := .var
  range := range
  isLocal := true
  stack := c.stack
  params := []
  tag? := some ⟨.equal, owner⟩
  ownedChunk? := none
  onlyNew := false

/-- The dotted name of a table entry, if the table has a name and the key is known. -/
def entryName? (base? : Option Binding) : TableEntry → Option String
  | .named key _ => base?.map fun b => Name.field b.name key.name
  | .indexed key _ => base?.bind fun b => key.keySuffix?.map (b.name ++ ·)
  | .positional _ => none

/-- The declaration of the entry `name` of a table that is bound to `base`. -/
def entryDeclaration (c : Context) (base : Binding) (name : String) (key : Range) (value : Expr) :
    Declaration :=
  Declaration.withValue
    { name, displayName := name, kind := .var, range := key, isLocal := base.isLocal,
      stack := c.stack, params := [], tag? := none, ownedChunk? := none, onlyNew := false }
    ("function " ++ name) (some value)

/-- What a call tells beside the names in it: a required module, a metatable, or whose result a
bound name holds. -/
def callFacts (binding? : Option Binding) (callee : Expr) (args : List Expr) (range : Range) :
    List Event :=
  let required? := requiredModule? callee args
  let edges : List Event := match required?, args with
    | some m, arg :: _ => [.required ⟨m, range⟩ arg.range]
    | _, _ => []
  let object? := (args[0]?.bind Expr.dottedName?).or (binding?.map (·.name))
  let metatable? := args[1]?.bind Expr.dottedName?
  let facts : List Event := match callee.isNamed "setmetatable" && 2 ≤ args.length, object?, metatable? with
    | true, some object, some metatable => [.metatable range.start.line object metatable]
    | _, _, _ =>
      match callee.dottedName?, binding? with
      | some f, some b => [.called b.line b.name f required?]
      | _, _ => []
  edges ++ facts

/-- Alternates two lists of lists: first of the first, first of the second, and so on. -/
def alternate : List (List α) → List (List α) → List α
  | a :: as, b :: bs => a ++ b ++ alternate as bs
  | as, [] => as.flatten
  | [], bs => bs.flatten

@[simp] theorem alternate_nil_left : ∀ bs : List (List α), alternate [] bs = bs.flatten
  | [] => rfl
  | _ :: _ => rfl

@[simp] theorem alternate_nil_right : ∀ as : List (List α), alternate as [] = as.flatten
  | [] => rfl
  | _ :: _ => rfl

/-- Alternating loses nothing and adds nothing. -/
theorem mem_alternate {a : α} : ∀ {as bs : List (List α)}, a ∈ alternate as bs ↔ a ∈ as.flatten ∨ a ∈ bs.flatten
  | [], bs => by simp
  | x :: as, [] => by simp
  | x :: as, y :: bs => by
    rw [alternate, List.flatten_cons, List.flatten_cons, List.mem_append, List.mem_append, mem_alternate,
      List.mem_append, List.mem_append]
    exact or_or_or_comm

/-! ## The walk -/

mutual

/-- The events of an expression whose value is not bound to a name. -/
def exprEvents (c : Context) : Expr → List Event
  | .ident id => use c (.ident id)
  | .member base accessor field range =>
    exprEvents c base ++ use c (.member base accessor field range)
  | .index base key range =>
    exprEvents c base ++
      match (Expr.index base key range).dottedName? with
      | some _ => use c (.index base key range)
      | none => exprEvents c key
  | .call callee args range =>
    exprEvents c callee ++ callFacts none callee args range ++ exprsEvents c args
  | .func f => functionEvents c (anonymousName f) none f
  | .table entries _ => entriesEvents c none entries
  | .binary left right _ => exprEvents c left ++ exprEvents c right
  | .unary operand _ => exprEvents c operand
  | .paren inner _ => exprEvents c inner
  | .string .. | .number .. | .literal _ | .vararg _ => []

/-- The events of expressions in order. -/
def exprsEvents (c : Context) : List Expr → List Event
  | [] => []
  | e :: es => exprEvents c e ++ exprsEvents c es

/-- The events of an expression whose value is bound to a name. -/
def valueEvents (c : Context) (b : Binding) : Expr → List Event
  | .func f => functionEvents c b.name none f
  | .table entries _ => entriesEvents c (some b) entries
  | .call callee args range =>
    exprEvents c callee ++ callFacts (some b) callee args range ++ exprsEvents c args
  | .paren inner _ => valueEvents c b inner
  | .ident id => use c (.ident id) ++ [.equated b.line b.name id.name]
  | .member base accessor field range =>
    exprEvents c base ++ use c (.member base accessor field range) ++
      ((Expr.member base accessor field range).dottedName?.map (.equated b.line b.name)).toList
  | .index base key range =>
    exprEvents c base ++
      match (Expr.index base key range).dottedName? with
      | some name => use c (.index base key range) ++ [.equated b.line b.name name]
      | none => exprEvents c key
  | .binary left right _ => exprEvents c left ++ exprEvents c right
  | .unary operand _ => exprEvents c operand
  | .string .. | .number .. | .literal _ | .vararg _ => []

/-- The events of values, one list for each; a value without a binding is a plain expression. -/
def valuesEvents (c : Context) : List (Option Binding) → List Expr → List (List Event)
  | _, [] => []
  | some b :: bs, v :: vs => valueEvents c b v :: valuesEvents c bs vs
  | none :: bs, v :: vs => exprEvents c v :: valuesEvents c bs vs
  | [], v :: vs => exprEvents c v :: valuesEvents c [] vs

/-- The events of table entries; the entries of a table with a name are declared as its fields. -/
def entriesEvents (c : Context) (base? : Option Binding) : List TableEntry → List Event
  | [] => []
  | e :: es => entryEvents c base? e ++ entriesEvents c base? es

/-- The events of one table entry. -/
def entryEvents (c : Context) (base? : Option Binding) : TableEntry → List Event
  | .named key value =>
    match entryName? base? (.named key value), base? with
    | some name, some base =>
      let d := entryDeclaration c base name key.range value
      siteOf d :: .declared d ::
        valueEvents c ⟨name, base.isLocal, key.range.start.line⟩ value
    | _, _ => exprEvents c value
  | .indexed key value =>
    match entryName? base? (.indexed key value), base? with
    | some name, some base =>
      let d := entryDeclaration c base name key.range value
      siteOf d :: .declared d ::
        valueEvents c ⟨name, base.isLocal, key.range.start.line⟩ value
    | _, _ => exprEvents c key ++ exprEvents c value
  | .positional value => exprEvents c value

/-- The events of a function body called `name`. A method's body knows `self`. -/
def functionEvents (c : Context) (name : String) (receiver? : Option (String × Range)) :
    FuncBody → List Event
  | .mk params isVararg body range =>
    let inner := c.enter ⟨name, range⟩
    let self := match receiver? with
      | some (owner, range) => [.declared (selfDeclaration inner owner range)]
      | none => []
    let selfName := if receiver?.isSome then ["self"] else []
    .opened (functionChunk name (.mk params isVararg body range)) :: self ++
      params.flatMap (fun p => [siteOf (localVar inner p), .declared (localVar inner p)]) ++
      blockEvents (inner.withLocals (params.map (·.name) ++ selfName)) body

/-- The events of a block. -/
def blockEvents (c : Context) : Block → List Event
  | .mk stmts _ => stmtsEvents c stmts

/-- The events of statements in order, each in the scope that those before leave. -/
def stmtsEvents (c : Context) : List Stmt → List Event
  | [] => []
  | s :: ss => stmtEvents c s ++ stmtsEvents (c.withLocals (introduced s)) ss

/-- The events of the clauses of an `if`. -/
def clausesEvents (c : Context) : List Clause → List Event
  | [] => []
  | .mk (some condition) body :: cs =>
    exprEvents c condition ++ blockEvents c body ++ clausesEvents c cs
  | .mk none body :: cs => blockEvents c body ++ clausesEvents c cs

/-- The events of a statement. -/
def stmtEvents (c : Context) : Stmt → List Event
  | .localVars names values _ =>
    (localDeclarations c names values).flatMap (fun d => [siteOf d, .declared d]) ++
      (valuesEvents c (names.map fun x => some ⟨x.name, true, x.range.start.line⟩) values).flatten
  | .assign targets values _ =>
    let places := List.zipWith (· ++ ·) (targetsEvents c targets) (targetDeclarations c targets values)
    alternate places (valuesEvents c (targets.map (targetBinding? c)) values)
  | .funcDecl isLocal name f range =>
    let c := c.withLocals (introduced (.funcDecl isLocal name f range))
    exprEvents c name ++
      match name.dottedName? with
      | some dotted =>
        .declared (functionDeclaration c isLocal name dotted f) ::
          functionEvents c dotted (receiver? name) f
      | none => functionEvents c (anonymousName f) none f
  | .call callee args range =>
    exprEvents c callee ++ callFacts none callee args range ++ exprsEvents c args
  | .ret values _ => exprsEvents c values
  | .branch clauses _ => clausesEvents c clauses
  | .whileLoop condition body _ => exprEvents c condition ++ blockEvents c body
  | .repeatLoop body condition _ => blockEvents c body ++ exprEvents c condition
  | .doBlock body _ => blockEvents c body
  | .numericFor x start limit (some step) body _ =>
    exprEvents c start ++ exprEvents c limit ++ exprEvents c step ++
      siteOf (localVar c x) :: .declared (localVar c x) ::
      blockEvents (c.withLocals [x.name]) body
  | .numericFor x start limit none body _ =>
    exprEvents c start ++ exprEvents c limit ++
      siteOf (localVar c x) :: .declared (localVar c x) ::
      blockEvents (c.withLocals [x.name]) body
  | .genericFor xs iterators body _ =>
    exprsEvents c iterators ++
      xs.flatMap (fun x => [siteOf (localVar c x), .declared (localVar c x)]) ++
      blockEvents (c.withLocals (xs.map (·.name))) body

/-- The events of the targets of an assignment, one list for each. -/
def targetsEvents (c : Context) : List Expr → List (List Event)
  | [] => []
  | t :: ts => exprEvents c t :: targetsEvents c ts

end

/-- The chunk of a whole file. -/
def fileChunk (uri : Uri) (file : File) : Chunk := ⟨uri.fileName, file.range, blockReturn? file.body⟩

/-- The events of a file. -/
def events (uri : Uri) (file : File) : List Event :=
  let chunk := fileChunk uri file
  .opened chunk :: blockEvents ⟨[⟨chunk.name, chunk.range⟩], []⟩ file.body

end LuaAtlas.Walk
