/-
What a walk over a source file meets, in the order in which it meets it. All that is ever asked of a
file is read off this one list: where a name is written, what a cursor points at, which symbols the
file declares and what it requires.
-/
import LuaAtlas.Symbol

namespace LuaAtlas.Walk

/-- A place where a name is written. -/
structure Site where
  /-- The dotted name as written, colons of string keys included. -/
  name : String
  /-- Where a cursor has to be to mean the name. -/
  hitRange : Range
  /-- The whole name. -/
  range : Range
  /-- Whether the variable that the name starts from is a local there. -/
  isLocal : Bool
  /-- The chunks around the place, outermost first. -/
  stack : List ChunkRef
deriving DecidableEq, Repr

/-- A symbol to declare. -/
structure Declaration where
  /-- The dotted name as written. -/
  name : String
  displayName : String
  kind : SymbolKind
  range : Range
  isLocal : Bool
  stack : List ChunkRef
  params : List String
  tag? : Option Tag
  ownedChunk? : Option Chunk
  /-- Whether the declaration only counts while its name has not been declared: an assignment to a
  known name declares nothing. -/
  onlyNew : Bool
deriving DecidableEq, Repr

/-- A `require` call. -/
structure Edge where
  targetModule : String
  location : Range
deriving DecidableEq, Repr, Inhabited

/-- A step of a walk. -/
inductive Event
  /-- A name is written. -/
  | site (s : Site)
  /-- A module is required by the string at `argument`. -/
  | required (edge : Edge) (argument : Range)
  /-- The file or a function body begins. -/
  | opened (chunk : Chunk)
  /-- A symbol may be declared. -/
  | declared (d : Declaration)
  /-- The symbol `name` declared on `line` is given the value of `source`. -/
  | equated (line : Nat) (name source : String)
  /-- On `line` the table `object` gets a metatable. -/
  | metatable (line : Nat) (object metatable : String)
  /-- The symbol `name` declared on `line` is given the result of calling `callee`. -/
  | called (line : Nat) (name callee : String) (required? : Option String)
deriving DecidableEq, Repr

end LuaAtlas.Walk
