/-
The automaton that reads Lua: what it does in a state when a terminal comes next, and where it goes
behind a part that has been put together. Comments may stand between any two tokens.
-/
import LuaAtlas.Syntax.Automaton.Table

namespace LuaAtlas.Syntax.Automaton

/-- The state in which text is skipped. -/
def skipping : Nat := 0

/-- The state at the beginning of a file. -/
def beginning : Nat := 1

/-- The state behind a whole file. -/
def accepting : Nat := 217

/-- The state behind the two dashes of a comment. -/
def inRemark : Nat := 213

/-- The state behind the opening bracket of a long comment. -/
def inLongRemark : Nat := 214

/-- The row of a state. -/
def row (s : Nat) : Row := rows[s]?.getD default

/-- The second member of the pair whose first is `a`. -/
def lookup [DecidableEq α] (a : α) : List (α × Nat) → Option Nat
  | [] => none
  | (b, n) :: rest => if a = b then some n else lookup a rest

/-- The rule that is complete in state `s` before the terminal `t`. -/
def reduction? (s : Nat) (t : Terminal) : Option Nat :=
  ((row s).reductions.find? fun (set, _) => (lookaheads[set]?.getD []).contains t).map (·.2)

/-- The rules that are complete in state `s` before some token. -/
def reductions (s : Nat) : List Nat :=
  (row s).reductions.filterMap fun (set, rule) =>
    if (lookaheads[set]?.getD []).any (· ≠ .eof) then some rule else none

/-- The rule that is complete in state `s` whatever follows: only that of a comment is. -/
def finished? (s : Nat) : Option Nat :=
  if (row s).mode?.isNone then (row s).reductions.head?.map (·.2) else none

/-- Where a comment that opens with `t` leads from state `s`. -/
def comment? (s : Nat) (t : Terminal) : Option Nat :=
  if s = skipping || (row s).mode?.isNone then none
  else if t = .dashes then some inRemark
  else if t = .remarkOpen then some inLongRemark
  else none

/-- Where the token `t` leads from state `s`. -/
def shift? (s : Nat) (t : Terminal) : Option Nat :=
  match lookup t (row s).shifts with
  | some n => some n
  | none => comment? s t

/-- Where the token `t` would lead from state `s`, also when a list is put together first. -/
def target? (s : Nat) (t : Terminal) : Option Nat :=
  match shift? s t with
  | some n => some n
  | none => lookup t (row s).repeats

/-- Where a part leads from state `s`; a comment leads nowhere. -/
def goto (s : Nat) (n : Nonterminal) : Nat :=
  if n = .comment then s else (lookup n (row s).gotos).getD skipping

/-- Whether the automaton can go on in state `s` with the terminal `t`. Where text is skipped, any
terminal will do. -/
def takes (s : Nat) (t : Terminal) : Bool :=
  s = skipping || (reduction? s t).isSome || (shift? s t).isSome || (s = accepting && t = .eof)

end LuaAtlas.Syntax.Automaton
