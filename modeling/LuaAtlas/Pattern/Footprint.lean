/-
The memory of matchers. An expression is matched by an automaton on bytes that reads forward and by
one that reads backward, and a pattern is admissible only if neither takes more memory than the
limit. The states of an automaton are numbered in the order they are made. Their number depends on
which states a set of characters can share: those made before are kept in a table with a fixed number
of slots, where a later one takes the slot of an earlier one.
-/
import LuaAtlas.Pattern.Encoding
import LuaAtlas.Pattern.Expression

namespace LuaAtlas.Pattern

open LuaAtlas.Text

/-- The way an automaton reads a text. -/
inductive Direction
  | forward
  | backward
deriving DecidableEq, Repr

/-- What an automaton takes: its states, and the bytes that its states take beyond the same size. -/
structure Usage where
  states : Nat
  extra : Nat
deriving DecidableEq, Repr, Inhabited

namespace Usage

/-- The bytes of one state. -/
def stateSize : Nat := 32

/-- The bytes of one of several ranges that leave a state. -/
def rangeSize : Nat := 8

/-- The bytes of one of several states that a state goes on to without reading. -/
def branchSize : Nat := 4

/-- All bytes. -/
def bytes (u : Usage) : Nat := stateSize * u.states + u.extra

/-- The most memory that an automaton may take: ten mebibytes. -/
def limit : Nat := 0xA00000

/-- Whether the limit is exceeded. -/
def isOver (u : Usage) : Bool := limit < u.bytes

/-- What two automata take together. -/
def add (u v : Usage) : Usage := ⟨u.states + v.states, u.extra + v.extra⟩

/-- A number of states of the least size. -/
def plain (n : Nat) : Usage := ⟨n, 0⟩

/-- A state that goes on to any of `n` states. -/
def fork (n : Nat) : Usage := ⟨1, n * branchSize⟩

/-- A state with `n` ranges of bytes that leave it. -/
def sparse (n : Nat) : Usage := ⟨1, n * rangeSize⟩

end Usage

/-! ## Words -/

/-- The words between empty ones. -/
def chunks : List (List Nat) → List (List (List Nat))
  | [] => [[]]
  | [] :: ws => [] :: chunks ws
  | w :: ws =>
    match chunks ws with
    | chunk :: rest => (w :: chunk) :: rest
    | [] => [[w]]

/-- Non-empty words by their first bytes, without them. -/
def byFirst (ws : List (List Nat)) : List (List (List Nat)) :=
  (ws.filterMap List.head?).eraseDups.map fun b =>
    ws.filterMap fun w => if w.head? = some b then some w.tail else none

/-- What a tree of words takes that have at most `n` bytes. A word that ends inside the tree divides
the words before it from those behind it. -/
def wordsUsage : Nat → List (List Nat) → Usage
  | 0, _ => ⟨0, 0⟩
  | n + 1, ws =>
    let later := ws.dropWhile (· = [])
    if later = [] then ⟨0, 0⟩
    else
      let ended := (if later.length < ws.length then 1 else 0) + later.countP (· = [])
      let groups := ((chunks later).filter (· ≠ [])).map byFirst
      let nodes := groups.map fun g => if g.length = 1 then Usage.plain 1 else .sparse g.length
      let below := groups.flatMap fun g => g.map (wordsUsage n)
      (nodes ++ below).foldl .add (.fork (groups.length + ended))

/-! ## Plans -/

/-- What an automaton is made of, in the order its states are made. -/
inductive Plan
  | fixed (u : Usage)
  /-- A set of characters that is read forward. -/
  | tree (t : ByteTree)
  /-- A set of characters that is read backward. -/
  | chains (blocks : List Block)
  | seq (parts : List Plan)
  | times (n : Nat) (inner : Plan)
deriving Repr, Inhabited

namespace Plan

/-- One state of the least size. -/
def state : Plan := .fixed (.plain 1)

/-- A state that goes on to one of two. -/
def fork : Plan := .fixed (.fork 2)

/-- A set of characters. -/
def ofSet (d : Direction) (s : CharSet) : Plan :=
  if s.spans.all (·.2 < 0x80) then .fixed (.add (.plain 1) (.sparse s.spans.length))
  else
    match d with
    | .forward => .tree (.ofBlocks (Block.ofSet s))
    | .backward => .chains (Block.ofSet s)

/-- A choice among words. -/
def ofWords (d : Direction) (words : List (List Char)) : Plan :=
  let encoded := words.map fun w => w.flatMap fun c => encoding c.toNat
  let encoded := match d with
    | .forward => encoded
    | .backward => encoded.map List.reverse
  .fixed (.add (.plain 1) (wordsUsage ((encoded.map List.length).foldl max 0) encoded))

/-- A number of copies, or one state for none. -/
def copies (n : Nat) (p : Plan) : Plan := if n = 0 then state else .times n p

/-- A repetition; `consumes` tells that what is repeated cannot match the empty text. -/
def ofRepetition (consumes : Bool) (p : Plan) (min : Nat) : Option Nat → Plan
  | none =>
    if min = 0 then
      if consumes then .seq [fork, p] else .seq [p, fork, fork, state]
    else .seq [.times min p, fork]
  | some max =>
    if min = max then copies min p
    else if min = 0 && max = 1 then .seq [fork, p, state]
    else .seq [copies min p, state, .times (max - min) (.seq [fork, p])]

/-- A choice: the state that chooses comes behind the first two branches. -/
def ofBranches : List Plan → Plan
  | p :: q :: rest => .seq (p :: q :: .fixed (.add (.fork (rest.length + 2)) (.plain 1)) :: rest)
  | ps => .seq ps

end Plan

/-- The words of literals. -/
def literal? : Regex → Option (List Char)
  | .literal cs => some cs
  | _ => none

mutual

/-- What the automaton of an expression is made of. Groups are marked only on the way forward. -/
def Regex.plan (d : Direction) : Regex → Plan
  | .empty | .look _ => .state
  | .literal cs => .fixed (.plain (encodedSize cs))
  | .set s => .ofSet d s
  | .seq parts =>
    .seq (match d with
      | .forward => plans d parts
      | .backward => (plans d parts).reverse)
  | .alt branches =>
    match branches.mapM literal? with
    | some words => .ofWords d words
    | none => .ofBranches (plans d branches)
  | .rep inner min max? _ =>
    .ofRepetition (inner.isPossible && !inner.isNullable) (inner.plan d) min max?
  | .capture inner =>
    match d with
    | .forward => .seq [.state, inner.plan d, .state]
    | .backward => inner.plan d

/-- The plans of several expressions. -/
def plans (d : Direction) : List Regex → List Plan
  | [] => []
  | r :: rs => r.plan d :: plans d rs

end

/-! ## Shared states -/

/-- A range of bytes that leaves a state, and the state it leads to. -/
structure Step where
  first : Nat
  last : Nat
  next : Nat
deriving DecidableEq, Repr, Inhabited

/-- What numbers are mixed into. -/
def seed : UInt64 := 14695981039346656037

/-- Mixes one more number in. -/
def mix (h : UInt64) (n : Nat) : UInt64 := (h ^^^ n.toUInt64) * 1099511628211

/-- An automaton in the making, with the states that may be shared by the slot they take. -/
structure Workshop (κ : Type) where
  usage : Usage
  slots : Array (Option (κ × Nat))

namespace Workshop

/-- An automaton in the making without states to share. -/
def start (slots : Nat) (usage : Usage) : Workshop κ := ⟨usage, Array.replicate slots none⟩

/-- The state for a key: a shared one if the slot of the key still holds it, or else a new one that
takes the slot. -/
def stateFor [DecidableEq κ] (w : Workshop κ) (hash : UInt64) (key : κ) (cost : Usage) :
    Nat × Workshop κ :=
  let ⟨usage, slots⟩ := w
  let slot := hash.toNat % slots.size
  match slots[slot]? with
  | some (some (key', id)) =>
    if key' = key then (id, ⟨usage, slots⟩)
    else (usage.states, ⟨usage.add cost, slots.setIfInBounds slot (some (key, usage.states))⟩)
  | _ => (usage.states, ⟨usage.add cost, slots.setIfInBounds slot (some (key, usage.states))⟩)

end Workshop

/-- The slots for states that are read forward. -/
def forwardSlots : Nat := 10000

/-- The slots for states that are read backward. -/
def backwardSlots : Nat := 1000

/-- The state that the given steps leave. -/
def stateOf (steps : List Step) (w : Workshop (List Step)) : Nat × Workshop (List Step) :=
  let hash := steps.foldl (fun h s => mix (mix (mix h s.first) s.last) s.next) seed
  w.stateFor hash steps (.sparse steps.length)

/-- The steps that leave the root of a tree; behind the last byte they lead to `target`. -/
def stepsOf (target : Nat) : ByteTree → Workshop (List Step) → List Step × Workshop (List Step)
  | .none, w => ([], w)
  | .range first last below next, w =>
    let (id, w) := match below with
      | .none => (target, w)
      | _ =>
        let (steps, w) := stepsOf target below w
        stateOf steps w
    let (steps, w) := stepsOf target next w
    (⟨first, last, id⟩ :: steps, w)

/-- Makes the states of a set that is read forward. -/
def addTree (t : ByteTree) (u : Usage) : Usage :=
  let (steps, w) := stepsOf u.states t (.start forwardSlots (u.add (.plain 1)))
  (stateOf steps w).2.usage

/-- Makes the states of a block that is read backward, from the state `id` on. -/
def addChain (id : Nat) : Block → Workshop Step → Workshop Step
  | [], w => w
  | (lo, hi) :: rest, w =>
    let (id, w) := w.stateFor (mix (mix (mix seed id) lo) hi) ⟨lo, hi, id⟩ (.plain 1)
    addChain id rest w

/-- Makes the states of a set that is read backward: one that chooses a block, one where all blocks
end, and those of the blocks. -/
def addChains (blocks : List Block) (u : Usage) : Usage :=
  let w : Workshop Step := .start backwardSlots (u.add (.add (.fork blocks.length) (.plain 1)))
  (blocks.foldl (fun w b => addChain (u.states + 1) b w) w).usage

/-! ## Footprints -/

/-- Does something a number of times unless the limit is exceeded. -/
def timesWithin (f : Usage → Usage) : Nat → Usage → Usage
  | 0, u => u
  | n + 1, u => if u.isOver then u else timesWithin f n (f u)

mutual

/-- Makes the states of a plan unless the limit is exceeded. -/
def Plan.build : Plan → Usage → Usage
  | .fixed v, u => u.add v
  | .tree t, u => if u.isOver then u else addTree t u
  | .chains blocks, u => if u.isOver then u else addChains blocks u
  | .seq parts, u => buildAll parts u
  | .times n inner, u => timesWithin (fun u => inner.build u) n u

/-- Makes the states of plans one after the other. -/
def buildAll : List Plan → Usage → Usage
  | [], u => u
  | p :: ps, u => buildAll ps (p.build u)

end

mutual

/-- Whether every match begins at the start of the text, as far as the first conditions tell. -/
def Regex.isAtStart : Regex → Bool
  | .look l => l = .textStart
  | .seq parts => firstAtStart parts
  | .alt branches => allAtStart branches
  | .rep inner min _ _ => min ≠ 0 && inner.isAtStart
  | .capture inner => inner.isAtStart
  | _ => false

/-- Whether one of the parts that come before the first character is at the start of the text. -/
def firstAtStart : List Regex → Bool
  | [] => false
  | r :: rs => r.isAtStart || (r.isZeroWidth && firstAtStart rs)

/-- Whether all of the expressions are at the start of the text. -/
def allAtStart : List Regex → Bool
  | [] => true
  | r :: rs => r.isAtStart && allAtStart rs

end

mutual

/-- Whether every match ends at the end of the text, as far as the last conditions tell. -/
def Regex.isAtEnd : Regex → Bool
  | .look l => l = .textEnd
  | .seq parts => lastAtEnd parts
  | .alt branches => allAtEnd branches
  | .rep inner min _ _ => min ≠ 0 && inner.isAtEnd
  | .capture inner => inner.isAtEnd
  | _ => false

/-- Whether one of the parts that come behind the last character is at the end of the text. -/
def lastAtEnd : List Regex → Bool
  | [] => false
  | r :: rs => lastAtEnd rs || (Regex.areZeroWidth rs && r.isAtEnd)

/-- Whether all of the expressions are at the end of the text. -/
def allAtEnd : List Regex → Bool
  | [] => true
  | r :: rs => r.isAtEnd && allAtEnd rs

end

/-- Whether an automaton finds every match at the place where it begins to read. -/
def Regex.isAnchored (r : Regex) : Direction → Bool
  | .forward => r.isAtStart
  | .backward => r.isAtEnd

/-- What the automaton of an expression takes: a loop that skips bytes unless all matches are at one
place, the expression as a group, and a state for success. -/
def Regex.usage (r : Regex) (d : Direction) : Usage :=
  let lead : Usage := if r.isAnchored d then .plain 1
    else (Usage.fork 2).add ((Usage.plain 1).add (.sparse 1))
  (Plan.seq [.fixed lead, (Regex.capture r).plan d, .state]).build ⟨0, 0⟩

/-- Whether the expression is a choice among so many words that no automaton is made for it. -/
def Regex.isWordList : Regex → Bool
  | .alt branches => 3000 ≤ branches.length && (branches.mapM literal?).isSome
  | _ => false

/-- Whether the automata of an expression stay within the limit. -/
def Regex.isAdmissible (r : Regex) : Bool :=
  r.isWordList || (!(r.usage .forward).isOver && !(r.usage .backward).isOver)

end LuaAtlas.Pattern
