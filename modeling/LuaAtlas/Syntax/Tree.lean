/-
The syntax tree of a Lua source file. Every node carries the range of text it was read from; a
block carries its own range beside its statements. Comments are kept apart, in reading order.
-/
import LuaAtlas.Text.Position

namespace LuaAtlas.Syntax

/-- A name where it is written. -/
structure Ident where
  name : String
  range : Range
deriving DecidableEq, Repr, Inhabited

/-- A comment with its delimiters. -/
structure Comment where
  text : String
  range : Range
deriving DecidableEq, Repr, Inhabited

/-- What stands between a table and the name of its field. -/
inductive Accessor
  /-- The plain field of `t.x`. -/
  | dot
  /-- The method of `t:x`. -/
  | colon
deriving DecidableEq, Repr, Inhabited

mutual

/-- An expression. -/
inductive Expr
  | ident (id : Ident)
  | member (base : Expr) (accessor : Accessor) (field : Ident) (range : Range)
  | index (base : Expr) (key : Expr) (range : Range)
  | call (callee : Expr) (args : List Expr) (range : Range)
  | func (f : FuncBody)
  | table (entries : List TableEntry) (range : Range)
  | binary (left : Expr) (right : Expr) (range : Range)
  | unary (operand : Expr) (range : Range)
  | paren (inner : Expr) (range : Range)
  | string (value : String) (range : Range)
  | number (raw : String) (range : Range)
  /-- One of `nil`, `true` and `false`. -/
  | literal (range : Range)
  | vararg (range : Range)

/-- One entry of a table constructor. -/
inductive TableEntry
  /-- The entry `key = value`. -/
  | named (key : Ident) (value : Expr)
  /-- The entry `[key] = value`. -/
  | indexed (key : Expr) (value : Expr)
  /-- A value alone. -/
  | positional (value : Expr)

/-- The parameters and the body of a function; `range` is that of the whole function. -/
inductive FuncBody
  | mk (params : List Ident) (isVararg : Bool) (body : Block) (range : Range)

/-- Statements in order. -/
inductive Block
  | mk (stmts : List Stmt) (range : Range)

/-- One branch of an `if`; a branch without a condition is taken when no earlier one is. -/
inductive Clause
  | mk (condition : Option Expr) (body : Block)

/-- A statement. -/
inductive Stmt
  | localVars (names : List Ident) (values : List Expr) (range : Range)
  | assign (targets : List Expr) (values : List Expr) (range : Range)
  | funcDecl (isLocal : Bool) (name : Expr) (f : FuncBody) (range : Range)
  | call (callee : Expr) (args : List Expr) (range : Range)
  | ret (values : List Expr) (range : Range)
  | branch (clauses : List Clause) (range : Range)
  | whileLoop (condition : Expr) (body : Block) (range : Range)
  | repeatLoop (body : Block) (condition : Expr) (range : Range)
  | doBlock (body : Block) (range : Range)
  | numericFor (var : Ident) (start limit : Expr) (step : Option Expr) (body : Block)
      (range : Range)
  | genericFor (vars : List Ident) (iterators : List Expr) (body : Block) (range : Range)

end

/-- A source file: its statements, its comments and the stretch of text from its first token or
comment to the end. -/
structure File where
  body : Block
  comments : List Comment
  range : Range

namespace FuncBody

def params : FuncBody → List Ident
  | mk ps _ _ _ => ps

def isVararg : FuncBody → Bool
  | mk _ v _ _ => v

def body : FuncBody → Block
  | mk _ _ b _ => b

def range : FuncBody → Range
  | mk _ _ _ r => r

end FuncBody

namespace Block

def stmts : Block → List Stmt
  | mk ss _ => ss

def range : Block → Range
  | mk _ r => r

end Block

/-- The stretch of text an expression was read from. -/
def Expr.range : Expr → Range
  | .ident id => id.range
  | .func f => f.range
  | .member _ _ _ r | .index _ _ r | .call _ _ r | .table _ r | .binary _ _ r | .unary _ r
  | .paren _ r | .string _ r | .number _ r | .literal r | .vararg r => r

/-- The stretch of text a statement was read from. -/
def Stmt.range : Stmt → Range
  | .localVars _ _ r | .assign _ _ r | .funcDecl _ _ _ r | .call _ _ r | .ret _ r | .branch _ r
  | .whileLoop _ _ r | .repeatLoop _ _ r | .doBlock _ r | .numericFor _ _ _ _ _ r
  | .genericFor _ _ _ r => r

end LuaAtlas.Syntax
