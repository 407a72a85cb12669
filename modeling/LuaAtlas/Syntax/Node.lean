/-
Nodes: the tree of a text as the automaton puts it together, tokens and all. Text that fits nowhere
is kept in error nodes. A node carries its stretch of the text and a penalty, which is zero exactly
for text without faults; of two readings of a faulty text the one with the smaller penalty is taken.
-/
import LuaAtlas.Syntax.Automaton

namespace LuaAtlas.Syntax

/-- A token where it stands. -/
structure Token where
  /-- What it is; characters that begin no token are none of the terminals. -/
  terminal? : Option Terminal
  /-- Where the white space before it begins. -/
  before : Place
  start : Place
  stop : Place
  /-- A token that is not in the text and was supplied to repair it. -/
  isSupplied : Bool := false
  /-- The level of the long bracket that is open behind it, if it belongs to a long text. -/
  level? : Option Nat := none
  /-- Whether that level differs from the one before. -/
  changesLevel : Bool := false
deriving Inhabited

/-- What a node with parts is. -/
inductive Head
  /-- The part that the rule with this number makes. -/
  | rule (n : Nat)
  /-- Parts between which something is missing or too much. -/
  | error
  /-- Tokens that are being skipped. -/
  | skipped
deriving DecidableEq, Repr, Inhabited

/-- What is counted of a node when it is put together. -/
structure Digest where
  before : Place
  start : Place
  stop : Place
  penalty : Nat
  /-- The number of visible parts. -/
  parts : Nat
  /-- The number of visible nodes inside it. -/
  inside : Nat
deriving Inhabited

/-- A node of the tree. -/
inductive Node
  /-- A token; an extra one stands outside the rules, as the end of the text does. -/
  | leaf (token : Token) (isExtra : Bool)
  | tree (head : Head) (children : List Node) (isExtra : Bool) (digest : Digest)

instance : Inhabited Node := ⟨.leaf default false⟩

/-! ## Penalties -/

namespace Penalty

/-- For every place where the text is at fault. -/
def fault : Nat := 500

/-- For a token that is supplied. -/
def supply : Nat := 110

/-- For every node that is skipped. -/
def node : Nat := 100

/-- For every byte that is skipped. -/
def byte : Nat := 1

/-- For every line that is skipped. -/
def line : Nat := 30

end Penalty

namespace Node

def children : Node → List Node
  | leaf .. => []
  | tree _ cs _ _ => cs

def isExtra : Node → Bool
  | leaf _ e => e
  | tree _ _ e _ => e

/-- Where the white space before the node begins. -/
def before : Node → Place
  | leaf t _ => t.before
  | tree _ _ _ d => d.before

def start : Node → Place
  | leaf t _ => t.start
  | tree _ _ _ d => d.start

def stop : Node → Place
  | leaf t _ => t.stop
  | tree _ _ _ d => d.stop

/-- The text of the node. -/
def text (n : Node) : String := n.start.textTo n.stop

/-- The stretch of text of the node. -/
def range (n : Node) : Range := n.start.rangeTo n.stop

/-- Whether the node stands for text that fits nowhere. -/
def isError : Node → Bool
  | leaf t _ => t.terminal?.isNone
  | tree h _ _ _ => h = .error

/-- Whether the node is being skipped. -/
def isSkipped : Node → Bool
  | leaf .. => false
  | tree h _ _ _ => h = .skipped

def isSupplied : Node → Bool
  | leaf t _ => t.isSupplied
  | tree .. => false

/-- Whether the node counts by itself. -/
def isVisible : Node → Bool
  | leaf t _ => t.terminal?.all (·.isVisible)
  | tree (.rule n) _ _ _ => (Rule.get n).makes.isVisible
  | tree .error _ _ _ => true
  | tree .skipped _ _ _ => false

def penalty : Node → Nat
  | leaf t _ => if t.isSupplied then Penalty.fault + Penalty.supply else 0
  | tree _ _ _ d => d.penalty

/-- The number of visible parts. -/
def parts : Node → Nat
  | leaf .. => 0
  | tree _ _ _ d => d.parts

/-- The number of visible nodes inside it. -/
def inside : Node → Nat
  | leaf .. => 0
  | tree _ _ _ d => d.inside

/-- The number of nodes, the skipped among them. -/
def weight (n : Node) : Nat := n.inside + (if n.isVisible || n.isSkipped then 1 else 0)

/-- The level of the long bracket that is open behind a token. -/
def level? : Node → Option Nat
  | leaf t _ => t.level?
  | tree .. => none

/-- Whether the node is the end of the text. -/
def isEof : Node → Bool
  | leaf t _ => t.terminal? = some .eof
  | tree .. => false

/-! ## Putting nodes together -/

/-- The number of visible nodes that a child adds to its parent: the child, when it is visible or
shown for the sake of its role, or else its visible parts. -/
def shown (role : Option Role) (n : Node) : Nat :=
  if !n.isExtra && !n.isEof && role = some .text then 1
  else if n.isVisible then 1
  else n.parts

/-- The penalty for a child of an error node. -/
def skipPenalty (n : Node) : Nat :=
  if n.isExtra || (n.isError && n.children.isEmpty) then 0
  else if n.isVisible then Penalty.node
  else Penalty.node * n.parts

/-- What children add up to: the penalty, the visible parts and the visible nodes inside it. Extra
children play no role. -/
def sums (isFault : Bool) : List (Option Role) → List Node → Nat × Nat × Nat
  | _, [] => (0, 0, 0)
  | roles, n :: ns =>
    let (penalty, parts, inside) := sums isFault (if n.isExtra then roles else roles.tail) ns
    let role := roles.head?.join
    let own := shown role n
    let self := if n.isVisible || (!n.isExtra && !n.isEof && role = some .text) then 1 else 0
    (penalty + (if n.isSkipped then 0 else n.penalty) + (if isFault then n.skipPenalty else 0),
      parts + own, inside + n.inside + self)

/-- Puts a node together from its parts. Without any it is empty and stands at `place`. -/
def build (head : Head) (children : List Node) (place : Place) : Node :=
  let start := (children.head?.map (·.start)).getD place
  let stop := (children.getLast?.map (·.stop)).getD place
  let isFault := head = .error || head = .skipped
  let roles := match head with
    | .rule n => (Rule.get n).roles
    | _ => []
  let (penalty, parts, inside) := sums isFault roles children
  let fault := if isFault then
      Penalty.fault + Penalty.byte * (stop.byte - start.byte)
        + Penalty.line * (stop.position.line - start.position.line)
    else 0
  .tree head children false
    ⟨(children.head?.map (·.before)).getD place, start, stop, penalty + fault, parts, inside⟩

/-- The same node, taken as extra or not. -/
def setExtra (isExtra : Bool) : Node → Node
  | leaf t _ => leaf t isExtra
  | tree h cs _ d => tree h cs isExtra d

/-! ## Comparing nodes -/

/-- The number of the node's symbol in the order of symbols: tokens, then the parts that rules make,
then faults. -/
def code : Node → Nat
  | leaf t _ => t.terminal?.elim 0xffff fun t => if t = .eof then 0 else t.ctorIdx + 1
  | tree (.rule n) _ _ _ => 0x100 + (Rule.get n).makes.ctorIdx
  | tree .error _ _ _ => 0xffff
  | tree .skipped _ _ _ => 0xfffe

mutual

/-- The symbols of a tree with the numbers of their children, from the root down and left to right,
before those in `rest`. -/
def outline (rest : List (Nat × Nat)) : Node → List (Nat × Nat)
  | leaf t e => ((leaf t e).code, 0) :: rest
  | tree h cs e d => ((tree h cs e d).code, cs.length) :: outlines rest cs

/-- The outlines of several trees, one after the other. -/
def outlines (rest : List (Nat × Nat)) : List Node → List (Nat × Nat)
  | [] => rest
  | n :: ns => outline (outlines rest ns) n

end

/-- Whether the first outline comes behind the second. -/
def isBehind : List (Nat × Nat) → List (Nat × Nat) → Bool
  | (a, m) :: as, (b, n) :: bs => if a = b then if m = n then isBehind as bs else n < m else b < a
  | _, _ => false

/-- Whether the second reading of a stretch of text is to be preferred to the first: it has the
smaller penalty, or an equal one that is not zero, or it comes first in the order of outlines. -/
def prefersSecond (a b : Node) : Bool :=
  if a.penalty ≠ b.penalty then b.penalty < a.penalty
  else a.penalty ≠ 0 || isBehind (a.outline []) (b.outline [])

/-- Whether two readings of a stretch of text need not be kept apart. -/
def isEquivalent (a b : Node) : Bool :=
  a.code = b.code &&
    ((a.penalty ≠ 0 && b.penalty ≠ 0) ||
      (a.start.byte - a.before.byte = b.start.byte - b.before.byte &&
        a.stop.byte - a.start.byte = b.stop.byte - b.start.byte &&
        a.children.length = b.children.length && a.isExtra = b.isExtra && a.level? = b.level?))

/-- The nodes without the extra ones at the end, and those. -/
def splitExtras (ns : List Node) : List Node × List Node :=
  let extras := (ns.reverse.takeWhile (·.isExtra)).reverse
  (ns.take (ns.length - extras.length), extras)

end Node

end LuaAtlas.Syntax
