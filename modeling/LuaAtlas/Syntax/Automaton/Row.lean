/-
Rows of the automaton: what it does in one state. A row says which tokens are looked for, which
rules are complete, and where a token or a part that has been read leads.
-/
import LuaAtlas.Syntax.Lexeme
import LuaAtlas.Syntax.Rule

namespace LuaAtlas.Syntax.Automaton

/-- One state. Comments may stand anywhere and are left out of the rows. -/
structure Row where
  /-- What is looked for; nothing behind a comment, which is complete whatever follows. -/
  mode? : Option Lexeme.Mode
  /-- The complete rules, each with the set of terminals that it looks for. -/
  reductions : List (Nat × Nat)
  /-- Where tokens lead. -/
  shifts : List (Terminal × Nat)
  /-- Where tokens would lead that go on with a list, which is put together first. -/
  repeats : List (Terminal × Nat)
  /-- Where the parts lead that rules make. -/
  gotos : List (Nonterminal × Nat)
deriving Inhabited

end LuaAtlas.Syntax.Automaton
