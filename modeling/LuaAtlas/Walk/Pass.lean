/-
The walk as one pass over a syntax tree. A pass does not list what it meets: it goes along with a state that says
which chunks and which scopes are open, and gathers what it is made for, the symbols of the file, what a cursor points
at or where a name is used. A pass for a cursor stops as soon as it knows.

Chunks and symbols under construction are known by their positions, for a symbol can only be told which chunk it owns
when the function's body has been met, and a chunk learns late which variable it returns. A position out of range ends
the pass without a result.
-/
import LuaAtlas.Document

namespace LuaAtlas.Walk

open LuaAtlas.Syntax

/-! ## The state of a pass -/

/-- What a pass is made for. -/
inductive Aim
  | symbols
  /-- What a cursor at `p` points at. -/
  | cursor (p : Position)
  /-- Where `name` is written. -/
  | uses (name : String)
deriving DecidableEq, Repr

/-- A symbol under construction, with the position of the chunk that it owns. -/
structure Draft where
  declaration : Declaration
  owned? : Option Nat
deriving DecidableEq, Repr

/-- The declaration of a symbol under construction, by the chunks so far. -/
def Draft.finish (ks : List Chunk) (d : Draft) : Declaration :=
  { d.declaration with ownedChunk? := d.owned?.bind (ks[·]?) }

/-- How far a pass has come. -/
structure Progress where
  /-- The chunks around, outermost first. -/
  stack : List ChunkRef
  /-- The positions of these chunks. -/
  openChunks : List Nat
  chunks : List Chunk
  drafts : List Draft
  /-- The search names declared so far. -/
  known : List String
  /-- The locals of each open scope, the innermost first. -/
  scopes : List (List String)
  requires : List Edge
  annotations : List Annotation
  /-- What is told about the values of symbols. -/
  notes : List Event
  hit? : Option Document.Hit
  uses : List Range

namespace Progress

/-- Nothing has been met. -/
def start : Progress := ⟨[], [], [], [], [], [], [], [], [], none, []⟩

/-- Whether the pass knows what its cursor points at. -/
def isDone (s : Progress) : Bool := s.hit?.isSome

/-- The chunks around and the locals in scope. -/
def context (s : Progress) : Context := ⟨s.stack, s.scopes.flatten⟩

/-- The declarations so far. -/
def declarations (s : Progress) : List Declaration := s.drafts.map (·.finish s.chunks)

/-- The symbols of the declarations so far, with what has been told about their values. -/
def symbols (shelf : Shelf) (uri : Uri) (s : Progress) : List Symbol :=
  let declared := s.declarations.map (Declare.symbolOf shelf uri)
  s.notes.foldl Declare.applyCall (Declare.tagged s.notes s.annotations declared)

def openChunk (name : String) (range : Range) (s : Progress) : Progress :=
  { s with stack := s.stack ++ [⟨name, range⟩], openChunks := s.openChunks ++ [s.chunks.length],
           chunks := s.chunks ++ [⟨name, range, none⟩] }

def closeChunk (s : Progress) : Progress :=
  { s with stack := s.stack.dropLast, openChunks := s.openChunks.dropLast }

def openScope (s : Progress) : Progress := { s with scopes := [] :: s.scopes }

def closeScope (s : Progress) : Progress := { s with scopes := s.scopes.tail }

/-- Brings names into the innermost scope. -/
def bind (names : List String) (s : Progress) : Progress :=
  match s.scopes with
  | [] => s
  | inner :: outer => { s with scopes := (names ++ inner) :: outer }

/-- The innermost open chunk returns the variable `name`. -/
def setReturn? (name : String) (s : Progress) : Option Progress :=
  match s.openChunks.getLast? with
  | none => some s
  | some i =>
    if i < s.chunks.length then
      some { s with chunks := s.chunks.modify i fun k => { k with returnName? := some name } }
    else none

/-- The `i`-th symbol owns the `k`-th chunk. -/
def own? (i k : Nat) (s : Progress) : Option Progress :=
  if i < s.drafts.length then some { s with drafts := s.drafts.modify i fun d => { d with owned? := some k } }
  else none

/-- Adds a symbol that owns nothing so far. -/
def draft (d : Declaration) (s : Progress) : Progress :=
  { s with drafts := s.drafts ++ [⟨{ d with ownedChunk? := none }, none⟩], known := Name.normalize d.name :: s.known }

/-- Takes from an event what the pass is made for. -/
def tell (aim : Aim) (e : Event) (s : Progress) : Progress :=
  match aim, e with
  | .symbols, .required edge _ => { s with requires := s.requires ++ [edge] }
  | .symbols, .equated .. | .symbols, .metatable .. | .symbols, .called .. => { s with notes := s.notes ++ [e] }
  | .cursor p, e => { s with hit? := s.hit?.or (Document.hitOf? p e) }
  | .uses name, .site site => if site.name = name then { s with uses := s.uses ++ [site.range] } else s
  | _, _ => s

end Progress

/-- A state that a pass is in, with what it declares there. -/
structure Moment where
  progress : Progress
  declared? : Option Declaration

/-- A pass up to some point: its state and all moments of it so far. -/
structure Run where
  now : Progress
  moments : List Moment

/-- A part of a pass. -/
abbrev Visit (α : Type) : Type := StateT Run Option α

namespace Visit

/-! ## Single steps -/

/-- The state of the pass. -/
def now : Visit Progress := fun r => some (r.now, r)

/-- Changes the state, unless there is no state to go on with. -/
def attempt (f : Progress → Option Progress) : Visit Unit := fun r =>
  (f r.now).map fun s => ((), ⟨s, r.moments ++ [⟨s, none⟩]⟩)

/-- Changes the state. -/
def change (f : Progress → Progress) : Visit Unit := attempt fun s => some (f s)

/-- Goes on as long as it is not known what the cursor points at. -/
def unlessDone (m : Visit Unit) : Visit Unit := do
  let s ← now
  if s.isDone then pure () else m

/-- Tells events in order. -/
def tell (aim : Aim) : List Event → Visit Unit
  | [] => pure ()
  | e :: es => do
    change (.tell aim e)
    tell aim es

/-- Tells that `e` is used where the pass stands. -/
def tellUse (aim : Aim) (e : Expr) : Visit Unit := do
  let s ← now
  tell aim (use s.context e)

/-- Tells that a value is the name `e`, if it is one. -/
def tellEquated (aim : Aim) (b : Binding) (e : Expr) : Visit Unit :=
  tell aim (e.dottedName?.map (.equated b.line b.name)).toList

/-- Marks the moment at which a name is declared. -/
def mark (d : Declaration) : Visit Unit := fun r => some ((), ⟨r.now, r.moments ++ [⟨r.now, some d⟩]⟩)

/-- Declares a name. A pass for symbols gives the position of the new one; for any other pass this is a place where the
name is written. -/
def declare (aim : Aim) (d : Declaration) : Visit (Option Nat) := do
  mark d
  match aim with
  | .symbols =>
    let s ← now
    change (.draft d)
    return some s.drafts.length
  | _ =>
    tell aim [siteOf d]
    return none

/-- Declares a name on a condition. -/
def declareIf (condition : Bool) (aim : Aim) (d : Declaration) : Visit (Option Nat) :=
  if condition then declare aim d else pure none

/-- Lets a symbol own a chunk, if there are both. -/
def own : Option Nat → Option Nat → Visit Unit
  | some i, some k => attempt (Progress.own? i k)
  | _, _ => pure ()

/-- Visits a value by `bound` and lets a symbol own the chunk of this value. -/
def ownValue (i? : Option Nat) (bound : Visit (Option Nat)) : Visit Unit := do
  let k? ← bound
  own i? k?

/-- Brings a parameter or a loop variable into scope and declares it. -/
def localVisit (aim : Aim) (x : Ident) : Visit Unit := do
  change (.bind [x.name])
  let s ← now
  let _ ← declare aim (localVar s.context x)

/-- Visits `m` in a scope of its own. -/
def inScope (m : Visit Unit) : Visit Unit := do
  change .openScope
  m
  change .closeScope

/-- Visits `m` in a chunk of its own and gives the position of that chunk. -/
def inChunk (name : String) (range : Range) (m : Visit Unit) : Visit (Option Nat) := do
  let s ← now
  change (.openChunk name range)
  m
  change .closeChunk
  return some s.chunks.length

/-! ## Steps around the visits of parts -/

/-- A value, to be visited with the name that it is bound to or without one. A value that is bound gives the position of
its chunk, if it has one. -/
structure Value where
  value : Expr
  plain : Visit Unit
  bound : Binding → Visit (Option Nat)

/-- Visits a chain `e` whose base is visited by `base`. -/
def memberVisit (aim : Aim) (e : Expr) (base : Visit Unit) : Visit Unit :=
  unlessDone do
    base
    tellUse aim e

/-- Visits an index expression `e` whose base and key are visited by `base` and `key`. -/
def indexVisit (aim : Aim) (e : Expr) (base key : Visit Unit) : Visit Unit :=
  unlessDone do
    base
    match e.dottedName? with
    | some _ => tellUse aim e
    | none => key

/-- Visits a call whose callee and arguments are visited by `calleeVisit` and `argsVisit`. -/
def callVisit (aim : Aim) (binding? : Option Binding) (callee : Expr) (args : List Expr) (range : Range)
    (calleeVisit argsVisit : Visit Unit) : Visit Unit := do
  calleeVisit
  tell aim (callFacts binding? callee args range)
  argsVisit

/-- Declares the entry `name` of a table and visits its value. -/
def entryVisit (aim : Aim) (base : Binding) (name : String) (key : Range) (value : Expr)
    (bound : Visit (Option Nat)) : Visit Unit := do
  let s ← now
  let i? ← declare aim (entryDeclaration s.context base name key value)
  ownValue i? bound

/-- Declares the names of a `local` statement. -/
def declareLocals (aim : Aim) : List Ident → List Expr → Visit (List (Binding × Option Nat))
  | [], _ => pure []
  | x :: xs, vs => do
    let s ← now
    let i? ← declare aim (localDeclaration s.context x vs.head?)
    let bs ← declareLocals aim xs vs.tail
    return (⟨x.name, true, x.range.start.line⟩, i?) :: bs

/-- Visits values, each under its name as long as there are names, and then `rest`. -/
def giveValues : List (Binding × Option Nat) → List Value → Visit Unit → Visit Unit
  | _, [], rest => rest
  | [], v :: vs, rest => unlessDone do
    v.plain
    giveValues [] vs rest
  | (b, i?) :: bs, v :: vs, rest => unlessDone do
    ownValue i? (v.bound b)
    giveValues bs vs rest

/-- Visits a `local` statement. The names are in scope only behind their values. -/
def localsVisit (aim : Aim) (names : List Ident) (values : List Value) : Visit Unit := do
  let bs ← declareLocals aim names (values.map (·.value))
  giveValues bs values (change (.bind (names.map (·.name))))

/-- Visits the value that is given to the place `t`, if there is one. A pass for symbols declares the place, unless its
name is known. -/
def placeVisit (aim : Aim) (t : Expr) (value? : Option Value) : Visit Unit :=
  match t.dottedName? with
  | none =>
    match value? with
    | some v => v.plain
    | none => pure ()
  | some name => do
    let s ← now
    let i? ← declareIf (aim = .symbols && !s.known.contains name) aim
      (targetDeclaration s.context t name (value?.map (·.value)))
    match value? with
    | some v => ownValue i? (v.bound ⟨name, s.context.isLocal name, t.range.start.line⟩)
    | none => pure ()

/-- Visits an assignment, whose targets come with their own visits: each target is followed by its value. -/
def assignVisit (aim : Aim) : List (Expr × Visit Unit) → List Value → Visit Unit
  | [], vs => vs.forM (·.plain)
  | (t, target) :: ts, vs => unlessDone do
    target
    placeVisit aim t vs.head?
    assignVisit aim ts vs.tail

/-- Visits the declaration of a function `name` whose body is visited by `body`. -/
def declarationVisit (aim : Aim) (isLocal : Bool) (name : Expr) (f : FuncBody)
    (body : String → Option (String × Range) → Visit (Option Nat)) : Visit Unit :=
  match name.dottedName? with
  | none => do
    let _ ← body (anonymousName f) none
  | some dotted => do
    let s ← now
    let i? ← declareIf (aim = .symbols) aim (functionDeclaration s.context isLocal name dotted f)
    ownValue i? (body dotted (receiver? name))

/-- The implicit `self` of a method, which only a pass for symbols declares. -/
def selfVisit (aim : Aim) : Option (String × Range) → Visit Unit
  | some (owner, range) => do
    change (.bind ["self"])
    let s ← now
    let _ ← declareIf (aim = .symbols) aim (selfDeclaration s.context owner range)
  | none => pure ()

/-- A variable that is returned becomes that of the innermost chunk. -/
def returnVisit : Option String → Visit Unit
  | some name => attempt (Progress.setReturn? name)
  | none => pure ()

/-- A pass for symbols reads the annotations. -/
def annotationsVisit (aim : Aim) (as : List Annotation) : Visit Unit :=
  if aim = .symbols then change fun s => { s with annotations := as } else pure ()

end Visit

/-! ## The visits of parts -/

open Visit

mutual

/-- Visits an expression whose value is not bound to a name. -/
def exprVisit (aim : Aim) : Expr → Visit Unit
  | .ident id => unlessDone (tellUse aim (.ident id))
  | .member base accessor field range => memberVisit aim (.member base accessor field range) (exprVisit aim base)
  | .index base key range => indexVisit aim (.index base key range) (exprVisit aim base) (exprVisit aim key)
  | .call callee args range =>
    unlessDone (callVisit aim none callee args range (exprVisit aim callee) (exprsVisit aim args))
  | .func f => unlessDone do
    let _ ← functionVisit aim (anonymousName f) none f
  | .table entries _ => unlessDone (entriesVisit aim none entries)
  | .binary left right _ => unlessDone do
    exprVisit aim left
    exprVisit aim right
  | .unary operand _ => unlessDone (exprVisit aim operand)
  | .paren inner _ => unlessDone (exprVisit aim inner)
  | .string .. | .number .. | .literal _ | .vararg _ => pure ()

/-- Visits expressions in order. -/
def exprsVisit (aim : Aim) : List Expr → Visit Unit
  | [] => pure ()
  | e :: es => do
    exprVisit aim e
    exprsVisit aim es

/-- Visits an expression whose value is bound to a name, and gives the position of its chunk if it is a function. -/
def valueVisit (aim : Aim) (b : Binding) : Expr → Visit (Option Nat)
  | .func f => functionVisit aim b.name none f
  | .table entries _ => do
    entriesVisit aim (some b) entries
    return none
  | .call callee args range => do
    callVisit aim (some b) callee args range (exprVisit aim callee) (exprsVisit aim args)
    return none
  | .paren inner _ => valueVisit aim b inner
  | .ident id => do
    unlessDone (tellUse aim (.ident id))
    tellEquated aim b (.ident id)
    return none
  | .member base accessor field range => do
    memberVisit aim (.member base accessor field range) (exprVisit aim base)
    tellEquated aim b (.member base accessor field range)
    return none
  | .index base key range => do
    indexVisit aim (.index base key range) (exprVisit aim base) (exprVisit aim key)
    tellEquated aim b (.index base key range)
    return none
  | .binary left right _ => do
    unlessDone do
      exprVisit aim left
      exprVisit aim right
    return none
  | .unary operand _ => do
    unlessDone (exprVisit aim operand)
    return none
  | .string .. | .number .. | .literal _ | .vararg _ => return none

/-- The visits of values, one for each. -/
def valueVisits (aim : Aim) : List Expr → List Value
  | [] => []
  | v :: vs => ⟨v, exprVisit aim v, fun b => valueVisit aim b v⟩ :: valueVisits aim vs

/-- Visits the entries of a table, which may be bound to a name. -/
def entriesVisit (aim : Aim) (base? : Option Binding) : List TableEntry → Visit Unit
  | [] => pure ()
  | e :: es => unlessDone do
    tableEntryVisit aim base? e
    entriesVisit aim base? es

/-- Visits one table entry. -/
def tableEntryVisit (aim : Aim) (base? : Option Binding) : TableEntry → Visit Unit
  | .named key value =>
    match entryName? base? (.named key value), base? with
    | some name, some base =>
      entryVisit aim base name key.range value
        (valueVisit aim ⟨name, base.isLocal, key.range.start.line⟩ value)
    | _, _ => exprVisit aim value
  | .indexed key value =>
    match entryName? base? (.indexed key value), base? with
    | some name, some base =>
      entryVisit aim base name key.range value
        (valueVisit aim ⟨name, base.isLocal, key.range.start.line⟩ value)
    | _, _ => do
      exprVisit aim key
      exprVisit aim value
  | .positional value => exprVisit aim value

/-- Visits a function body called `name` and gives the position of its chunk. A method's body knows `self`. -/
def functionVisit (aim : Aim) (name : String) (receiver? : Option (String × Range)) : FuncBody → Visit (Option Nat)
  | .mk params _ body range =>
    inChunk name range (inScope do
      selfVisit aim receiver?
      params.forM (localVisit aim)
      blockVisit aim body)

/-- Visits a block in a scope of its own. -/
def blockVisit (aim : Aim) : Block → Visit Unit
  | .mk stmts _ => inScope (stmtsVisit aim stmts)

/-- Visits statements in order. -/
def stmtsVisit (aim : Aim) : List Stmt → Visit Unit
  | [] => pure ()
  | s :: ss => unlessDone do
    stmtVisit aim s
    stmtsVisit aim ss

/-- Visits the clauses of an `if`. -/
def clausesVisit (aim : Aim) : List Clause → Visit Unit
  | [] => pure ()
  | .mk (some condition) body :: cs => do
    exprVisit aim condition
    blockVisit aim body
    clausesVisit aim cs
  | .mk none body :: cs => do
    blockVisit aim body
    clausesVisit aim cs

/-- Visits a statement. -/
def stmtVisit (aim : Aim) : Stmt → Visit Unit
  | .localVars names values _ => localsVisit aim names (valueVisits aim values)
  | .assign targets values _ => assignVisit aim (targetVisits aim targets) (valueVisits aim values)
  | .funcDecl isLocal name f range => do
    change (.bind (introduced (.funcDecl isLocal name f range)))
    exprVisit aim name
    declarationVisit aim isLocal name f fun dotted receiver? => functionVisit aim dotted receiver? f
  | .call callee args range => callVisit aim none callee args range (exprVisit aim callee) (exprsVisit aim args)
  | .ret values range => do
    returnVisit (stmtReturn? (.ret values range))
    exprsVisit aim values
  | .branch clauses _ => clausesVisit aim clauses
  | .whileLoop condition body _ => do
    exprVisit aim condition
    blockVisit aim body
  | .repeatLoop body condition _ => do
    blockVisit aim body
    exprVisit aim condition
  | .doBlock body _ => blockVisit aim body
  | .numericFor x start limit (some step) body _ => do
    exprVisit aim start
    exprVisit aim limit
    exprVisit aim step
    inScope do
      localVisit aim x
      blockVisit aim body
  | .numericFor x start limit none body _ => do
    exprVisit aim start
    exprVisit aim limit
    inScope do
      localVisit aim x
      blockVisit aim body
  | .genericFor xs iterators body _ => do
    exprsVisit aim iterators
    inScope do
      xs.forM (localVisit aim)
      blockVisit aim body

/-- The targets of an assignment with their visits. -/
def targetVisits (aim : Aim) : List Expr → List (Expr × Visit Unit)
  | [] => []
  | t :: ts => (t, exprVisit aim t) :: targetVisits aim ts

end

/-- A pass over a file: its chunk is opened, a pass for symbols reads its annotations, and its block is visited. -/
def pass (uri : Uri) (aim : Aim) (file : File) : Option Run :=
  let visit := inChunk uri.fileName file.range do
    annotationsVisit aim (annotations file.comments)
    blockVisit aim file.body
  (visit ⟨.start, [⟨.start, none⟩]⟩).map (·.2)

end LuaAtlas.Walk
