/-
Lua's static scoping, read off the syntax tree alone. What a file mentions is listed in reading order: the names
that are used, each with what is in scope there, the locals that are introduced, the keys of tables that are given to
something, the modules that are required, and what is assigned to or declared as a function.

A `local` statement binds its names behind it, to the end of its block; a local function is bound at its own name
already; parameters and loop variables are bound in the body that belongs to them, and the body of a method binds
`self` besides. The condition of a `repeat` loop sees what the loop's body binds.
-/
import LuaAtlas.Walk

namespace LuaAtlas.Syntax

open LuaAtlas.Walk (alternate)

/-- What is in scope at a place. -/
structure Scope where
  /-- The names that are bound there, where they are bound, the innermost first. -/
  binders : List Ident
  /-- Whether the place stands in the condition of a `repeat` loop. -/
  inCondition : Bool
deriving DecidableEq, Repr

namespace Scope

/-- The scope of a whole file. -/
def outermost : Scope := ⟨[], false⟩

/-- The scope in which more names are bound, the last of them innermost. -/
def bind (σ : Scope) (xs : List Ident) : Scope := { σ with binders := xs.reverse ++ σ.binders }

/-- The same scope inside the condition of a `repeat` loop. -/
def condition (σ : Scope) : Scope := { σ with inCondition := true }

/-- Where a name is bound. -/
def binder? (σ : Scope) (name : String) : Option Ident := σ.binders.find? (·.name = name)

/-- Whether the variable that a chain starts from is bound. -/
def binds (σ : Scope) (e : Expr) : Bool := e.root?.any fun x => (σ.binder? x.name).isSome

end Scope

/-- What a value is given to. -/
inductive Owner
  /-- A local that is being introduced. -/
  | introduced
  /-- A variable or a chain that is assigned to. -/
  | target (t : Expr) (σ : Scope)

/-- What a file mentions. -/
inductive Mention
  /-- A variable or a chain of known names. -/
  | used (e : Expr) (σ : Scope)
  /-- A local where it is written: in a `local` statement, among parameters or as a loop variable. -/
  | introduced (x : Ident)
  /-- The known key of a table that is given to something. -/
  | key (range : Range) (owner : Owner)
  /-- The argument of a `require` call. -/
  | argument (module : String) (range : Range)
  /-- What was just used is assigned to. -/
  | assigned (target : Expr) (σ : Scope)
  /-- What was just used is declared as a function. -/
  | function (isLocal : Bool) (name : Expr) (σ : Scope)

/-- The stretch of text that a cursor on a mention stands in. -/
def Mention.hitRange? : Mention → Option Range
  | .used e _ => some e.nameRange
  | .introduced x => some x.range
  | .key range _ | .argument _ range => some range
  | .assigned .. | .function .. => none

/-- Whether a cursor at `p` stands on a mention. -/
def Mention.isAt (p : Position) (m : Mention) : Bool := m.hitRange?.any (·.contains p)

/-! ## Binders -/

/-- What a statement binds behind it. -/
def Stmt.binders : Stmt → List Ident
  | .localVars names _ _ => names
  | .funcDecl true (.ident id) _ _ => [id]
  | _ => []

/-- What the statements of a block bind. -/
def Block.binders (b : Block) : List Ident := b.stmts.flatMap Stmt.binders

/-- The implicit first parameter of a method; it is taken to be written where the method's name is. -/
def implicitSelf : Expr → List Ident
  | .member base .colon field _ => if base.dottedName?.isSome then [⟨"self", field.range⟩] else []
  | _ => []

/-! ## Mentions -/

/-- What is assigned to, if it is known by a name. -/
def targetOwner? (σ : Scope) (t : Expr) : Option Owner := t.dottedName?.map fun _ => .target t σ

/-- A chain of known names is mentioned as a whole. -/
def chainMentions (σ : Scope) (e : Expr) : List Mention := if e.dottedName?.isSome then [.used e σ] else []

def argumentMentions (callee : Expr) (args : List Expr) : List Mention :=
  match requiredModule? callee args, args with
  | some m, arg :: _ => [.argument m arg.range]
  | _, _ => []

mutual

/-- What an expression mentions whose value is given to `owner?`, if that is known by a name. -/
def exprMentions (σ : Scope) (owner? : Option Owner) : Expr → List Mention
  | .ident id => [.used (.ident id) σ]
  | .member base accessor field range =>
    exprMentions σ none base ++ chainMentions σ (.member base accessor field range)
  | .index base key range =>
    exprMentions σ none base ++
      if (Expr.index base key range).dottedName?.isSome then [.used (.index base key range) σ]
      else exprMentions σ none key
  | .call callee args _ =>
    exprMentions σ none callee ++ argumentMentions callee args ++ exprsMentions σ args
  | .func f => functionMentions σ [] f
  | .table entries _ => entriesMentions σ owner? entries
  | .binary left right _ => exprMentions σ none left ++ exprMentions σ none right
  | .unary operand _ => exprMentions σ none operand
  | .paren inner _ => exprMentions σ owner? inner
  | .string .. | .number .. | .literal _ | .vararg _ => []

def exprsMentions (σ : Scope) : List Expr → List Mention
  | [] => []
  | e :: es => exprMentions σ none e ++ exprsMentions σ es

/-- What values mention, one list for each. -/
def valuesMentions (σ : Scope) : List (Option Owner) → List Expr → List (List Mention)
  | _, [] => []
  | owners, v :: vs => exprMentions σ owners.head?.join v :: valuesMentions σ owners.tail vs

def entriesMentions (σ : Scope) (owner? : Option Owner) : List TableEntry → List Mention
  | [] => []
  | e :: es => entryMentions σ owner? e ++ entriesMentions σ owner? es

def entryMentions (σ : Scope) (owner? : Option Owner) : TableEntry → List Mention
  | .named key value => (owner?.map (.key key.range)).toList ++ exprMentions σ owner? value
  | .indexed key value =>
    match owner?, key.keySuffix? with
    | some owner, some _ => .key key.range owner :: exprMentions σ (some owner) value
    | _, _ => exprMentions σ none key ++ exprMentions σ none value
  | .positional value => exprMentions σ none value

/-- What a function mentions. Its body sees the parameters, and behind them those of `implicit`. -/
def functionMentions (σ : Scope) (implicit : List Ident) : FuncBody → List Mention
  | .mk params _ body _ => params.map .introduced ++ blockMentions (σ.bind (implicit ++ params)) body

def blockMentions (σ : Scope) : Block → List Mention
  | .mk stmts _ => stmtsMentions σ stmts

def stmtsMentions (σ : Scope) : List Stmt → List Mention
  | [] => []
  | s :: ss => stmtMentions σ s ++ stmtsMentions (σ.bind s.binders) ss

def clausesMentions (σ : Scope) : List Clause → List Mention
  | [] => []
  | .mk (some condition) body :: cs =>
    exprMentions σ none condition ++ blockMentions σ body ++ clausesMentions σ cs
  | .mk none body :: cs => blockMentions σ body ++ clausesMentions σ cs

/-- What a statement mentions. -/
def stmtMentions (σ : Scope) : Stmt → List Mention
  | .localVars names values _ =>
    names.map .introduced ++ (valuesMentions σ (names.map fun _ => some .introduced) values).flatten
  | .assign targets values _ =>
    alternate (targetsMentions σ targets) (valuesMentions σ (targets.map (targetOwner? σ)) values)
  | .funcDecl isLocal name f range =>
    let σ := σ.bind (Stmt.funcDecl isLocal name f range).binders
    exprMentions σ none name ++ (if name.dottedName?.isSome then [.function isLocal name σ] else []) ++
      functionMentions σ (implicitSelf name) f
  | .call callee args _ =>
    exprMentions σ none callee ++ argumentMentions callee args ++ exprsMentions σ args
  | .ret values _ => exprsMentions σ values
  | .branch clauses _ => clausesMentions σ clauses
  | .whileLoop condition body _ => exprMentions σ none condition ++ blockMentions σ body
  | .repeatLoop body condition _ =>
    blockMentions σ body ++ exprMentions (σ.bind body.binders).condition none condition
  | .doBlock body _ => blockMentions σ body
  | .numericFor x start limit (some step) body _ =>
    exprMentions σ none start ++ exprMentions σ none limit ++ exprMentions σ none step ++
      .introduced x :: blockMentions (σ.bind [x]) body
  | .numericFor x start limit none body _ =>
    exprMentions σ none start ++ exprMentions σ none limit ++ .introduced x :: blockMentions (σ.bind [x]) body
  | .genericFor xs iterators body _ =>
    exprsMentions σ iterators ++ xs.map .introduced ++ blockMentions (σ.bind xs) body

/-- What the targets of an assignment mention, one list for each. -/
def targetsMentions (σ : Scope) : List Expr → List (List Mention)
  | [] => []
  | t :: ts =>
    (exprMentions σ none t ++ if t.dottedName?.isSome then [.assigned t σ] else []) :: targetsMentions σ ts

end

/-- What a file mentions, in reading order. -/
def File.mentions (file : File) : List Mention := blockMentions .outermost file.body

/-- What a cursor at `p` stands on: the first mention there. -/
def File.mentionAt? (file : File) (p : Position) : Option Mention := file.mentions.find? (·.isAt p)

theorem File.mem_mentions_of_mentionAt? {file : File} {p : Position} {m : Mention} (h : file.mentionAt? p = some m) :
    m ∈ file.mentions :=
  List.mem_of_find?_eq_some h

/-- The variable that a cursor at `p` stands on and where it is bound, if it is used by itself outside the conditions
of `repeat` loops. -/
def File.boundUse? (file : File) (p : Position) : Option (Ident × Ident) :=
  match file.mentionAt? p with
  | some (.used (.ident x) σ) => if σ.inCondition then none else (σ.binder? x.name).map (x, ·)
  | _ => none

theorem File.boundUse?_eq_some {file : File} {p : Position} {x b : Ident} (h : file.boundUse? p = some (x, b)) :
    ∃ σ, file.mentionAt? p = some (.used (.ident x) σ) ∧ σ.inCondition = false ∧ σ.binder? x.name = some b := by
  unfold boundUse? at h
  split at h
  · rename_i y σ hmention
    split at h
    · cases h
    · rename_i hcondition
      obtain ⟨c, hc, heq⟩ := Option.map_eq_some_iff.1 h
      cases heq
      exact ⟨σ, hmention, Bool.eq_false_iff.2 hcondition, hc⟩
  · cases h

end LuaAtlas.Syntax
