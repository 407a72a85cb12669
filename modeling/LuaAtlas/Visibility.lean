/-
Which local a use sees: one declared in a chunk around the use, on the same line or above. Of those
the one in the innermost chunk is taken, and in that chunk the one on the lowest line.
-/
import LuaAtlas.Symbol

namespace LuaAtlas

namespace Symbol

/-- In how many chunks a symbol stands, if a use inside `stack` stands in all of them too. -/
def sharedDepth? (s : Symbol) (stack : List ChunkRef) : Option Nat :=
  if s.containers.isPrefixOf stack then some s.containers.length else none

/-- Whether a use on `line` inside `stack` can see the symbol. -/
def isVisibleFrom (s : Symbol) (stack : List ChunkRef) (line : Nat) : Bool :=
  s.startLine ≤ line && (s.sharedDepth? stack).isSome

end Symbol

/-- The first element with the least key. -/
def firstLeast? (key : α → Nat) : List α → Option α
  | [] => none
  | a :: as =>
    match firstLeast? key as with
    | some b => if key a ≤ key b then some a else some b
    | none => some a

/-- The local that a use on `line` inside `stack` sees. -/
def pickLocal? (candidates : List Symbol) (stack : List ChunkRef) (line : Nat) : Option Symbol :=
  let visible := candidates.filter fun s => s.isLocal && s.isVisibleFrom stack line
  let deepest := (visible.map (·.containers.length)).foldl max 0
  firstLeast? (line - ·.startLine) (visible.filter (·.containers.length = deepest))

end LuaAtlas
