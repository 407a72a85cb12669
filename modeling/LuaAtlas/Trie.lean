/-
A prefix tree over the characters of names. Values are listed by the code points of their names, a
name before the names it begins, and values of one name in the order in which they were added.
-/

namespace LuaAtlas

/-- A tree of names: the values of the name that leads here, and the branches by next character in
increasing order. -/
inductive TrieNode (α : Type)
  | node (here : List α) (branches : List (Char × TrieNode α))

namespace TrieNode

/-- The tree without values. -/
def empty : TrieNode α := .node [] []

/-- Changes the branch of `c`, which is grown if it is missing. -/
def changeBranch (c : Char) (f : TrieNode α → TrieNode α) : List (Char × TrieNode α) → List (Char × TrieNode α)
  | [] => [(c, f empty)]
  | (d, t) :: rest =>
    if c = d then (d, f t) :: rest
    else if c < d then (c, f empty) :: (d, t) :: rest
    else (d, t) :: changeBranch c f rest

/-- Adds a value behind those already there under the name. -/
def insert (a : α) : List Char → TrieNode α → TrieNode α
  | [], .node here branches => .node (here ++ [a]) branches
  | c :: cs, .node here branches => .node here (changeBranch c (insert a cs) branches)

/-- The tree of the names that begin with the given characters, those characters cut off. -/
def descend? : List Char → TrieNode α → Option (TrieNode α)
  | [], t => some t
  | c :: cs, .node _ branches =>
    (branches.find? (·.1 = c)).bind fun (_, t) => descend? cs t

mutual

/-- The values in order. -/
def toList : TrieNode α → List α
  | .node here branches => here ++ branchesToList branches

/-- The values of branches in order. -/
def branchesToList : List (Char × TrieNode α) → List α
  | [] => []
  | (_, t) :: rest => t.toList ++ branchesToList rest

end

end TrieNode

/-- A tree of names that counts the values added to it. -/
structure Trie (α : Type) where
  root : TrieNode α := .empty
  /-- The number of values. -/
  size : Nat := 0

namespace Trie

/-- The tree without values. -/
def empty : Trie α := {}

/-- Adds a value behind those already there under the name. -/
def insert (t : Trie α) (name : String) (a : α) : Trie α := ⟨t.root.insert a name.toList, t.size + 1⟩

/-- The values of the names that begin with `start`. -/
def startingWith (t : Trie α) (start : String) : List α :=
  match t.root.descend? start.toList with
  | some node => node.toList
  | none => []

/-- The tree of the given values by their names. -/
def ofList (name : α → String) (as : List α) : Trie α := as.foldl (fun t a => t.insert (name a) a) empty

end Trie

end LuaAtlas
