/-
The stack of a reader that follows several readings of a text at once. Readings share what they have
in common: the stack is a graph whose vertices are states at places in the text and whose links carry
the nodes that have been read between them. Each branch is the top of one reading.
-/
import LuaAtlas.Syntax.Node

namespace LuaAtlas.Syntax

/-- A step down the stack: the vertex it leads to and the node that stands between. Where reading
broke off there is none. -/
structure Link where
  target : Nat
  node? : Option Node
deriving Inhabited

/-- A state at a place, with the penalty and the number of nodes of the readings that lead there. -/
structure Vertex where
  state : Nat
  place : Place
  links : List Link
  penalty : Nat
  weight : Nat
deriving Inhabited

/-- What a branch is doing. -/
inductive Status
  | active
  /-- It cannot go on with this token. -/
  | paused (lookahead : Token)
  | halted
deriving Inhabited

/-- A state further down that reading could go back to. -/
structure Fallback where
  state : Nat
  place : Place
  /-- How many nodes stand above it. -/
  depth : Nat
deriving Inhabited

/-- The top of one reading. -/
structure Branch where
  vertex : Nat
  status : Status := .active
  /-- The number of nodes when the text was last at fault. -/
  base : Nat := 0
  /-- The level of the long bracket that was last read. -/
  level? : Option Nat := none
  /-- The states to go back to, once the text has been at fault. -/
  fallbacks? : Option (List Fallback) := none
deriving Inhabited

namespace Branch

def isActive (b : Branch) : Bool := match b.status with
  | .active => true
  | _ => false

def isHalted (b : Branch) : Bool := match b.status with
  | .halted => true
  | _ => false

def isPaused (b : Branch) : Bool := match b.status with
  | .paused _ => true
  | _ => false

end Branch

/-- A stack with its branches. -/
structure Stack where
  vertices : Array Vertex
  branches : List Branch
deriving Inhabited

namespace Stack

/-- The stack before anything has been read. -/
def ofPlace (p : Place) : Stack := ⟨#[⟨Automaton.beginning, p, [], 0, 0⟩], [⟨0, .active, 0, none, none⟩]⟩

def vertex (s : Stack) (i : Nat) : Vertex := s.vertices[i]?.getD default

def branch (s : Stack) (v : Nat) : Branch := s.branches[v]?.getD default

/-- The number of branches. -/
def size (s : Stack) : Nat := s.branches.length

/-- The vertex at the top of a branch. -/
def top (s : Stack) (v : Nat) : Vertex := s.vertex (s.branch v).vertex

/-- The state of a branch. -/
def state (s : Stack) (v : Nat) : Nat := (s.top v).state

/-- The place a branch has come to. -/
def place (s : Stack) (v : Nat) : Place := (s.top v).place

def setBranch (s : Stack) (v : Nat) (b : Branch) : Stack := { s with branches := s.branches.set v b }

/-- Ends a branch; it is removed later. -/
def halt (s : Stack) (v : Nat) : Stack := s.setBranch v { s.branch v with status := .halted }

def remove (s : Stack) (v : Nat) : Stack := { s with branches := s.branches.eraseIdx v }

/-- Adds a branch. -/
def add (s : Stack) (b : Branch) : Stack := { s with branches := s.branches ++ [b] }

/-- Lets the later branch `w` take the place of the branch `v`, which hands on its states to go back
to. -/
def replace (s : Stack) (v w : Nat) : Stack :=
  if v = w then s
  else
    let b := s.branch w
    let b := { b with fallbacks? := b.fallbacks? <|> (s.branch v).fallbacks? }
    (s.setBranch v b).remove w

/-- Puts a node on a branch and goes to `state`; without a node, reading breaks off there. -/
def push (s : Stack) (v : Nat) (node? : Option Node) (state : Nat) : Stack :=
  let b := s.branch v
  let under := s.vertex b.vertex
  let place := (node?.map (·.stop)).getD under.place
  let penalty := under.penalty + (node?.map (·.penalty)).getD 0
  let weight := under.weight + (node?.map (·.weight)).getD 0
  let base := if node?.isNone then weight else b.base
  let ⟨vertices, branches⟩ := s
  let top := vertices.size
  ⟨vertices.push ⟨state, place, [⟨b.vertex, node?⟩], penalty, weight⟩,
    branches.set v { b with vertex := top, base := base }⟩

/-- Puts several nodes on a branch that stays in `state`. -/
def pushAll (s : Stack) (v : Nat) (nodes : List Node) (state : Nat) : Stack :=
  nodes.foldl (fun s n => s.push v (some n) state) s

/-! ## Going down -/

/-- A way down from the top of a branch: where it has come to and the nodes on it, lowest first. -/
structure Trail where
  vertex : Nat
  nodes : List Node
  /-- The number of nodes that are not extra, breaks among them. -/
  depth : Nat

/-- The way one link further down. -/
def Trail.follow (t : Trail) (e : Link) : Trail :=
  match e.node? with
  | some n => ⟨e.target, n :: t.nodes, if n.isExtra then t.depth else t.depth + 1⟩
  | none => ⟨e.target, t.nodes, t.depth + 1⟩

/-- How many ways down are followed at once. -/
def maxTrails : Nat := 64

/-- Takes every way one link further; a way that forks is followed along all links as far as there is
room. `visit` collects what is found and says which ways end. -/
def stride (s : Stack) (visit : σ → Trail → σ × Bool) (acc : σ) (kept forked : List Trail) :
    List Trail → σ × List Trail
  | [] => (acc, kept.reverse ++ forked.reverse)
  | t :: ts =>
    let (acc, isOver) := visit acc t
    match (if isOver then [] else (s.vertex t.vertex).links) with
    | [] => stride s visit acc kept forked ts
    | e :: es =>
      let room := maxTrails - (kept.length + 1 + ts.length + forked.length)
      stride s visit acc (t.follow e :: kept) (((es.take room).map t.follow).reverse ++ forked) ts

/-- Follows ways down until all have ended; the first argument bounds their length. -/
def descend (s : Stack) (visit : σ → Trail → σ × Bool) : Nat → σ → List Trail → σ
  | 0, acc, _ => acc
  | _, acc, [] => acc
  | n + 1, acc, ts =>
    let (acc, ts) := s.stride visit acc [] [] ts
    descend s visit n acc ts

/-- What `visit` collects on all ways down from the top of a branch. -/
def explore (s : Stack) (v : Nat) (visit : σ → Trail → σ × Bool) (acc : σ) : σ :=
  s.descend visit (s.vertices.size + 1) acc [⟨(s.branch v).vertex, [], 0⟩]

/-- Adds a way to those that end at the same vertex. -/
def gather (t : Trail) : List (Nat × List (List Node)) → List (Nat × List (List Node))
  | [] => [(t.vertex, [t.nodes])]
  | (i, alternatives) :: rest =>
    if i = t.vertex then (i, alternatives ++ [t.nodes]) :: rest else (i, alternatives) :: gather t rest

/-- The vertices `depth` nodes below the top of a branch, each with the nodes on the ways there. -/
def under (s : Stack) (v depth : Nat) : List (Nat × List (List Node)) :=
  s.explore v (fun acc t => if t.depth = depth then (gather t acc, true) else (acc, false)) []

/-- The nodes on the ways down to the bottom. -/
def readings (s : Stack) (v : Nat) : List (List Node) :=
  s.explore v (fun acc t => if (s.vertex t.vertex).links.isEmpty then (acc ++ [t.nodes], true)
    else (acc, false)) []

/-- How far down a reading looks for states to go back to. -/
def maxDepth : Nat := 16

/-- Remembers the states below a branch, each once for every depth. -/
def remember (s : Stack) (v : Nat) : Stack :=
  let found := s.explore v (fun acc t =>
    let state := (s.vertex t.vertex).state
    if maxDepth < t.depth then (acc, true)
    else if (acc.takeWhile fun (f : Fallback) => t.depth ≤ f.depth).any fun f =>
        f.depth = t.depth && f.state = state then (acc, false)
    else (⟨state, (s.vertex t.vertex).place, t.depth⟩ :: acc, false)) []
  s.setBranch v { s.branch v with fallbacks? := some found.reverse }

/-! ## Joining branches -/

/-- How many links a vertex can have. -/
def maxLinks : Nat := 8

/-- Whether two links carry readings that need not be kept apart. -/
def areEquivalent : Option Node → Option Node → Bool
  | none, none => true
  | some a, some b => a.isEquivalent b
  | _, _ => false

/-- Whether two vertices stand for the same situation. -/
def sameSituation (a b : Vertex) : Bool :=
  a.state = b.state && a.place.byte = b.place.byte && a.penalty = b.penalty

/-- Adds a link to a vertex. An equivalent link to the same vertex makes it superfluous; an
equivalent link to a vertex in the same situation leads to joining the two vertices. The first
argument bounds how far down this goes. -/
def addLink : Nat → Stack → Nat → Link → Stack
  | 0, s, _, _ => s
  | n + 1, s, i, e =>
    let v := s.vertex i
    if e.target = i then s
    else
      match v.links.find? fun o => areEquivalent o.node? e.node? &&
          (o.target = e.target || sameSituation (s.vertex o.target) (s.vertex e.target)) with
      | some o =>
        if o.target = e.target then s
        else (s.vertex e.target).links.foldl (fun s e => addLink n s o.target e) s
      | none =>
        if v.links.length = maxLinks then s
        else
          let weight := (s.vertex e.target).weight + (e.node?.map (·.weight)).getD 0
          let v := { v with links := v.links ++ [e], weight := max v.weight weight }
          let ⟨vertices, branches⟩ := s
          ⟨vertices.setIfInBounds i v, branches⟩

/-- Whether two branches can be joined. -/
def canJoin (s : Stack) (v w : Nat) : Bool :=
  let a := s.branch v
  let b := s.branch w
  a.isActive && b.isActive && sameSituation (s.top v) (s.top w) && a.level? = b.level?

/-- Joins the branch `w` to the branch `v`. -/
def join (s : Stack) (v w : Nat) : Stack :=
  let i := (s.branch v).vertex
  let s := (s.top w).links.foldl (fun s e => addLink s.vertices.size s i e) s
  let b := s.branch v
  let base := if (s.vertex i).state = Automaton.skipping then (s.vertex i).weight else b.base
  (s.setBranch v { b with base := base }).remove w

/-- The first of the given branches that the branch `w` can be joined to. -/
def partner? (s : Stack) (w : Nat) (vs : List Nat) : Option Nat := vs.find? (s.canJoin · w)

/-! ## Penalties -/

/-- The penalty of a branch, with that for the fault it is at. -/
def penalty (s : Stack) (v : Nat) : Nat :=
  let t := s.top v
  let isAtFault := (s.branch v).isPaused ||
    (t.state = Automaton.skipping && (t.links.head?.bind (·.node?)).isNone)
  t.penalty + (if isAtFault then Penalty.fault else 0)

/-- Lets the count of nodes since the last fault begin anew when it would fall below zero. -/
def settle (s : Stack) (v : Nat) : Stack :=
  let b := s.branch v
  s.setBranch v { b with base := min b.base (s.top v).weight }

/-- The number of nodes since the last fault. -/
def progress (s : Stack) (v : Nat) : Nat := (s.top v).weight - (s.branch v).base

/-- Whether anything has been read since the last fault: the first argument bounds how many empty
nodes are passed. -/
def hasAdvancedFrom (s : Stack) (base : Nat) : Nat → Nat → Bool
  | 0, _ => false
  | n + 1, i =>
    let v := s.vertex i
    match v.links.head?.bind fun e => e.node?.map (e.target, ·) with
    | none => false
    | some (target, node) =>
      node.before.byte < node.stop.byte ||
        (base < v.weight && node.penalty = 0 && hasAdvancedFrom s base n target)

/-- Whether a branch has read anything since the last fault. -/
def hasAdvanced (s : Stack) (v : Nat) : Bool :=
  (s.top v).penalty = 0 ||
    s.hasAdvancedFrom (s.branch v).base s.vertices.size (s.branch v).vertex

end Stack

end LuaAtlas.Syntax
