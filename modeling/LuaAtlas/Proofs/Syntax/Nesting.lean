/-
How the fragments of a file are nested. A fragment is made of those that stand directly in it, down to the names that
it declares; it stands inside another one if it is reached from that one step by step, and the functions whose bodies
are entered on the way are the functions around it.
-/
import LuaAtlas.Proofs.Syntax.Landmarks
import LuaAtlas.Proofs.Walk.Contents

namespace LuaAtlas.Syntax

/-- A fragment of a syntax tree. An expression, a table entry and a function may be bound to a name. -/
inductive Fragment
  | expr (name? : Option String) (e : Expr)
  | entry (name? : Option String) (e : TableEntry)
  /-- A function with the parameters that are not written. -/
  | function (name? : Option String) (implicit : List Ident) (f : FuncBody)
  | block (b : Block)
  | stmt (s : Stmt)
  /-- A name that is declared. -/
  | declared (n : Declared)

/-- A plain variable without a value. -/
def Ident.fragment (x : Ident) : Fragment := .declared ⟨x.name, x.range, none⟩

/-- A name that is declared if it is known. -/
def declaredNameIf (name? : Option String) (range : Range) (value? : Option Expr) : List Fragment :=
  (name?.map fun name => .declared ⟨name, range, value?⟩).toList

/-- The names of a `local` statement with their values. -/
def localFragments : List Ident → List Expr → List Fragment
  | [], _ => []
  | x :: xs, vs => .declared ⟨x.name, x.range, vs.head?⟩ :: localFragments xs vs.tail

/-- Values with the names that they are bound to. -/
def valueFragments : List (Option String) → List Expr → List Fragment
  | _, [] => []
  | names, v :: vs => .expr names.head?.join v :: valueFragments names.tail vs

/-- The targets of an assignment: each is an expression and then a name that is declared. -/
def targetFragments : List Expr → List Expr → List Fragment
  | [], _ => []
  | t :: ts, vs => .expr none t :: declaredNameIf t.dottedName? t.range vs.head? ++ targetFragments ts vs.tail

def clauseFragments : Clause → List Fragment
  | .mk condition? body => (condition?.map (.expr none)).toList ++ [.block body]

namespace Fragment

/-- The fragments that stand directly in a fragment. -/
def children : Fragment → List Fragment
  | .expr _ (.member base _ _ _) => [.expr none base]
  | .expr _ (.index base key _) => [.expr none base, .expr none key]
  | .expr _ (.call callee args _) => .expr none callee :: args.map (.expr none)
  | .expr name? (.func f) => [.function name? [] f]
  | .expr name? (.table entries _) => entries.map (.entry name?)
  | .expr _ (.binary left right _) => [.expr none left, .expr none right]
  | .expr _ (.unary operand _) => [.expr none operand]
  | .expr name? (.paren inner _) => [.expr name? inner]
  | .expr _ _ => []
  | .entry name? (.named key value) =>
    let field? := name?.map (Name.field · key.name)
    declaredNameIf field? key.range (some value) ++ [.expr field? value]
  | .entry name? (.indexed key value) =>
    let field? := name?.bind fun name => key.keySuffix?.map (name ++ ·)
    .expr none key :: declaredNameIf field? key.range (some value) ++ [.expr field? value]
  | .entry _ (.positional value) => [.expr none value]
  | .function _ implicit f => (implicit ++ f.params).map Ident.fragment ++ [.block f.body]
  | .block b => b.stmts.map .stmt
  | .stmt (.localVars names values _) =>
    localFragments names values ++ valueFragments (names.map fun x => some x.name) values
  | .stmt (.assign targets values _) =>
    targetFragments targets values ++ valueFragments (targets.map Expr.dottedName?) values
  | .stmt (.funcDecl _ name f _) =>
    .expr none name :: declaredNameIf name.dottedName? name.range (some (.func f)) ++
      [.function name.dottedName? (implicitSelf name) f]
  | .stmt (.call callee args _) => .expr none callee :: args.map (.expr none)
  | .stmt (.ret values _) => values.map (.expr none)
  | .stmt (.branch clauses _) => clauses.flatMap clauseFragments
  | .stmt (.whileLoop condition body _) => [.expr none condition, .block body]
  | .stmt (.repeatLoop body condition _) => [.block body, .expr none condition]
  | .stmt (.doBlock body _) => [.block body]
  | .stmt (.numericFor x start limit step? body _) =>
    [.expr none start, .expr none limit] ++ (step?.map (.expr none)).toList ++ [x.fragment, .block body]
  | .stmt (.genericFor xs iterators body _) => iterators.map (.expr none) ++ xs.map Ident.fragment ++ [.block body]
  | .declared _ => []

/-- The function that a fragment is, with the name that it is bound to. -/
def bodies : Fragment → List (Option String × FuncBody)
  | .function name? _ f => [(name?, f)]
  | _ => []

end Fragment

/-- The fragment `q` stands inside `p`, and `fs` are the functions in `p` around it, outermost first. -/
inductive Inside : Fragment → List (Option String × FuncBody) → Fragment → Prop
  | refl (p : Fragment) : Inside p [] p
  | child {p c q : Fragment} {fs : List (Option String × FuncBody)} :
      c ∈ p.children → Inside c fs q → Inside p (p.bodies ++ fs) q

end LuaAtlas.Syntax
