/-
Access chains: the dotted name an expression stands for, the variable it starts from and the part
a cursor has to be on to mean it; and the `require` calls, whose argument names a module.
-/
import LuaAtlas.Syntax.Tree

namespace LuaAtlas.Syntax

namespace Expr

/-- The name of a key inside a dotted name: `.k` for a string, `[n]` for a number. Other keys are
not known before the program runs. -/
def keySuffix? : Expr → Option String
  | .string value _ => some ("." ++ value)
  | .number raw _ => some ("[" ++ raw ++ "]")
  | _ => none

/-- The dotted name of a chain: `a.b:c` is `a.b.c`, `a["k"]` is `a.k` and `a[3]` is `a[3]`. Anything
that is not a chain of known names has none. -/
def dottedName? : Expr → Option String
  | .ident id => some id.name
  | .member base _ field _ => base.dottedName?.map (· ++ "." ++ field.name)
  | .index base key _ => base.dottedName?.bind fun b => key.keySuffix?.map (b ++ ·)
  | .paren inner _ => inner.dottedName?
  | _ => none

/-- The variable a chain starts from. -/
def root? : Expr → Option Ident
  | .ident id => some id
  | .member base _ _ _ | .index base _ _ => base.root?
  | .paren inner _ => inner.root?
  | _ => none

/-- The last part of a name, the field of `a.b` or the key of `a["b"]`, where a cursor has to be to
mean the whole name. -/
def nameRange : Expr → Range
  | .member _ _ field _ => field.range
  | .index _ key _ => key.range
  | e => e.range

/-- Whether the expression ends in a method name, as `a:b` does. -/
def isMethodName : Expr → Bool
  | .member _ .colon _ _ => true
  | _ => false

/-- Whether the expression is the plain name `name`. -/
def isNamed (name : String) : Expr → Bool
  | .ident id => id.name == name
  | _ => false

end Expr

/-- The module that the call `callee(args)` requires: `require` with one string and nothing else. -/
def requiredModule? (callee : Expr) (args : List Expr) : Option String :=
  match args with
  | [.string value _] => if callee.isNamed "require" then some value else none
  | _ => none

/-- The module an expression requires when it is a call. -/
def Expr.requiredModule? : Expr → Option String
  | .call callee args _ => Syntax.requiredModule? callee args
  | _ => none

end LuaAtlas.Syntax
