/-
The landmarks of a file, read off the syntax tree alone: its statements, its calls, the bodies of its functions and
the names that it declares. They are listed in reading order, what stands inside a landmark behind it; only an
assignment goes from its first target to its first value and from there to the second target.

A function belongs to the name that it is bound to: as the value of a local or of an assigned place, as an entry of a
table that is bound to a name, or by its own declaration. Parentheses change nothing about that.
-/
import LuaAtlas.Proofs.Syntax.Scoping
import LuaAtlas.Proofs.Walk.Pieces

namespace LuaAtlas.Syntax

open LuaAtlas.Walk (alternate)

/-! ## Returned variables -/

mutual

/-- Statements with those in the blocks inside of them, but not those of functions. -/
def stmtsInside : List Stmt → List Stmt
  | [] => []
  | s :: ss => s :: stmtInside s ++ stmtsInside ss

def stmtInside : Stmt → List Stmt
  | .branch clauses _ => clausesInside clauses
  | .whileLoop _ body _ | .repeatLoop body _ _ | .doBlock body _ | .numericFor _ _ _ _ body _
  | .genericFor _ _ body _ => blockInside body
  | _ => []

def clausesInside : List Clause → List Stmt
  | [] => []
  | .mk _ body :: cs => blockInside body ++ clausesInside cs

def blockInside : Block → List Stmt
  | .mk stmts _ => stmtsInside stmts

end

/-- The variable that a statement returns, if it returns one and nothing else. -/
def Stmt.returned? : Stmt → Option String
  | .ret [.ident x] _ => some x.name
  | _ => none

/-- The variable of the last `return` of a variable in a block, outside of functions in it. -/
def Block.lastReturned? (b : Block) : Option String := ((blockInside b).filterMap Stmt.returned?).getLast?

/-! ## Landmarks -/

/-- The function that an expression is, through parentheses. -/
def Expr.function? (e : Expr) : Option FuncBody :=
  match e.inner with
  | .func f => some f
  | _ => none

/-- A declared name where it is written, with the value that the declaration gives to it. A declared function is the
value of its name. -/
structure Declared where
  name : String
  range : Range
  value? : Option Expr

/-- The function that a declared name is the name of. -/
def Declared.function? (n : Declared) : Option FuncBody := n.value?.bind Expr.function?

/-- What a file is searched for. -/
inductive Landmark
  | stmt (s : Stmt)
  | call (callee : Expr) (args : List Expr) (range : Range)
  /-- The body of a function and the name that this is bound to. -/
  | body (name? : Option String) (f : FuncBody)
  | declared (n : Declared)

namespace Landmark

def stmt? : Landmark → Option Stmt
  | .stmt s => some s
  | _ => none

def call? : Landmark → Option (Expr × List Expr × Range)
  | .call callee args range => some (callee, args, range)
  | _ => none

def body? : Landmark → Option (Option String × FuncBody)
  | .body name? f => some (name?, f)
  | _ => none

def declared? : Landmark → Option Declared
  | .declared n => some n
  | _ => none

end Landmark

/-- A plain variable without a value: a parameter, a loop variable or the implicit `self`. -/
def Ident.declared (x : Ident) : Landmark := .declared ⟨x.name, x.range, none⟩

/-- A name that is declared if it is known. -/
def declaredIf (name? : Option String) (range : Range) (value? : Option Expr) : List Landmark :=
  (name?.map fun name => .declared ⟨name, range, value?⟩).toList

/-- The names of a `local` statement with their values. -/
def localLandmarks : List Ident → List Expr → List Landmark
  | [], _ => []
  | x :: xs, vs => .declared ⟨x.name, x.range, vs.head?⟩ :: localLandmarks xs vs.tail

mutual

/-- The landmarks in an expression whose value is bound to `name?`, if that is known. -/
def exprLandmarks (name? : Option String) : Expr → List Landmark
  | .member base _ _ _ => exprLandmarks none base
  | .index base key _ => exprLandmarks none base ++ exprLandmarks none key
  | .call callee args range => .call callee args range :: exprLandmarks none callee ++ exprsLandmarks args
  | .func f => functionLandmarks name? [] f
  | .table entries _ => entriesLandmarks name? entries
  | .binary left right _ => exprLandmarks none left ++ exprLandmarks none right
  | .unary operand _ => exprLandmarks none operand
  | .paren inner _ => exprLandmarks name? inner
  | .ident _ | .string .. | .number .. | .literal _ | .vararg _ => []

def exprsLandmarks : List Expr → List Landmark
  | [] => []
  | e :: es => exprLandmarks none e ++ exprsLandmarks es

/-- The landmarks in values, one list for each. -/
def valuesLandmarks : List (Option String) → List Expr → List (List Landmark)
  | _, [] => []
  | names, v :: vs => exprLandmarks names.head?.join v :: valuesLandmarks names.tail vs

/-- The landmarks in the entries of a table that is bound to `name?`. -/
def entriesLandmarks (name? : Option String) : List TableEntry → List Landmark
  | [] => []
  | e :: es => entryLandmarks name? e ++ entriesLandmarks name? es

def entryLandmarks (name? : Option String) : TableEntry → List Landmark
  | .named key value =>
    let field? := name?.map (Name.field · key.name)
    declaredIf field? key.range (some value) ++ exprLandmarks field? value
  | .indexed key value =>
    let field? := name?.bind fun name => key.keySuffix?.map (name ++ ·)
    exprLandmarks none key ++ declaredIf field? key.range (some value) ++ exprLandmarks field? value
  | .positional value => exprLandmarks none value

/-- The landmarks of a function that is bound to `name?`; `implicit` are the parameters that are not written. -/
def functionLandmarks (name? : Option String) (implicit : List Ident) : FuncBody → List Landmark
  | .mk params isVararg body range => .body name? (.mk params isVararg body range) ::
      (implicit ++ params).map Ident.declared ++ blockLandmarks body

def blockLandmarks : Block → List Landmark
  | .mk stmts _ => stmtsLandmarks stmts

def stmtsLandmarks : List Stmt → List Landmark
  | [] => []
  | s :: ss => .stmt s :: stmtLandmarks s ++ stmtsLandmarks ss

def clausesLandmarks : List Clause → List Landmark
  | [] => []
  | .mk (some condition) body :: cs => exprLandmarks none condition ++ blockLandmarks body ++ clausesLandmarks cs
  | .mk none body :: cs => blockLandmarks body ++ clausesLandmarks cs

/-- The landmarks inside a statement. -/
def stmtLandmarks : Stmt → List Landmark
  | .localVars names values _ =>
    localLandmarks names values ++ (valuesLandmarks (names.map fun x => some x.name) values).flatten
  | .assign targets values _ =>
    alternate (targetsLandmarks targets values) (valuesLandmarks (targets.map Expr.dottedName?) values)
  | .funcDecl _ name f _ =>
    exprLandmarks none name ++ declaredIf name.dottedName? name.range (some (.func f)) ++
      functionLandmarks name.dottedName? (implicitSelf name) f
  | .call callee args range => .call callee args range :: exprLandmarks none callee ++ exprsLandmarks args
  | .ret values _ => exprsLandmarks values
  | .branch clauses _ => clausesLandmarks clauses
  | .whileLoop condition body _ => exprLandmarks none condition ++ blockLandmarks body
  | .repeatLoop body condition _ => blockLandmarks body ++ exprLandmarks none condition
  | .doBlock body _ => blockLandmarks body
  | .numericFor x start limit (some step) body _ =>
    exprLandmarks none start ++ exprLandmarks none limit ++ exprLandmarks none step ++
      x.declared :: blockLandmarks body
  | .numericFor x start limit none body _ =>
    exprLandmarks none start ++ exprLandmarks none limit ++ x.declared :: blockLandmarks body
  | .genericFor xs iterators body _ =>
    exprsLandmarks iterators ++ xs.map Ident.declared ++ blockLandmarks body

/-- The landmarks in the targets of an assignment, one list for each. -/
def targetsLandmarks : List Expr → List Expr → List (List Landmark)
  | [], _ => []
  | t :: ts, vs =>
    (exprLandmarks none t ++ declaredIf t.dottedName? t.range vs.head?) :: targetsLandmarks ts vs.tail

end

namespace File

/-- The landmarks of a file. -/
def landmarks (file : File) : List Landmark := blockLandmarks file.body

/-- All statements of a file, those of functions in its expressions included. -/
def statements (file : File) : List Stmt := file.landmarks.filterMap Landmark.stmt?

/-- All calls of a file: what is called, with what, and where. -/
def calls (file : File) : List (Expr × List Expr × Range) := file.landmarks.filterMap Landmark.call?

/-- All functions of a file with the names that they are bound to. -/
def functions (file : File) : List (Option String × FuncBody) := file.landmarks.filterMap Landmark.body?

/-- All names that a file may declare; an assigned place is declared only while its name is not known. -/
def declared (file : File) : List Declared := file.landmarks.filterMap Landmark.declared?

end File

end LuaAtlas.Syntax
