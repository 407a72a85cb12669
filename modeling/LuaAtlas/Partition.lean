/-
A set of symbols that can be searched three ways: by whole name, by the beginning of a name and by a
pattern.
-/
import LuaAtlas.Pattern
import LuaAtlas.Search
import LuaAtlas.Symbol
import LuaAtlas.Trie

namespace LuaAtlas

/-- The symbols of each name. -/
abbrev Dictionary := List (String × List Symbol)

namespace Dictionary

/-- Adds a symbol behind those already there under its name. -/
def insert (s : Symbol) : Dictionary → Dictionary
  | [] => [(s.searchName, [s])]
  | (name, ss) :: rest =>
    if name = s.searchName then (name, ss ++ [s]) :: rest else (name, ss) :: insert s rest

/-- The dictionary of the given symbols. -/
def ofList (symbols : List Symbol) : Dictionary := symbols.foldl (fun d s => d.insert s) []

/-- The symbols under a name. -/
def symbols (d : Dictionary) (name : String) : List Symbol := (d.lookup name).getD []

end Dictionary

/-- Symbols in the order of their declaration, with a dictionary and a prefix tree of their names. -/
structure Partition where
  symbols : List Symbol
  byName : Dictionary
  trie : Trie Symbol
  byName_eq : byName = .ofList symbols
  trie_eq : trie = .ofList (·.searchName) symbols

namespace Partition

/-- The partition of the given symbols. -/
def ofList (symbols : List Symbol) : Partition :=
  ⟨symbols, .ofList symbols, .ofList (·.searchName) symbols, rfl, rfl⟩

/-- The partition without symbols. -/
def empty : Partition := ofList []

/-- Whether some symbol has exactly this name. -/
def contains (p : Partition) (name : String) : Bool := (p.byName.lookup name).isSome

/-- The symbols that a query finds. Whole names and patterns keep the order of declaration, beginnings
of names go by name. -/
def search (p : Partition) (query : String) : SearchMode → List Symbol
  | .exactlyEqual => p.byName.symbols query
  | .prefixMatch => p.trie.startingWith query
  | .fuzzyMatching =>
    match Pattern.ofQuery? query with
    | some pattern => p.symbols.filter fun s => pattern.matches s.searchName
    | none => []

end Partition

end LuaAtlas
