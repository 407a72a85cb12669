/-
Symbols: what a file declares. Each knows its names, where it stands, the chunks around it and what
is known about its value.
-/
import LuaAtlas.Text.Position
import LuaAtlas.Uri

namespace LuaAtlas

/-- A chunk as it encloses a place: the file itself or the body of a function. -/
structure ChunkRef where
  name : String
  range : Range
deriving DecidableEq, Repr, Inhabited

/-- A chunk with the variable that its last `return` of a plain name gives. -/
structure Chunk where
  name : String
  range : Range
  returnName? : Option String
deriving DecidableEq, Repr, Inhabited

/-- The part of an index that a document belongs to. -/
inductive Shelf
  /-- The files of the workspace. -/
  | workspace
  /-- Stubs of the standard library, for completion only. -/
  | stdlib
  /-- Stubs of the user's native functions, for completion only. -/
  | user
deriving DecidableEq, Repr, Inhabited

/-- What kind of thing a symbol names. -/
inductive SymbolKind
  | var
  | func
deriving DecidableEq, Repr, Inhabited

/-- Why a symbol is taken to have the members of another name. -/
inductive TagReason
  /-- A `---@type` comment says so. -/
  | userTag
  /-- It was assigned that name. -/
  | equal
  /-- It was given a metatable of that name. -/
  | metaTable
  /-- It holds what a required module returns. -/
  | requireReturn
  /-- It holds what a call returns. -/
  | callReturn
deriving DecidableEq, Repr, Inhabited

/-- A link from a symbol to the name whose members it has. -/
structure Tag where
  reason : TagReason
  typeName : String
deriving DecidableEq, Repr, Inhabited

/-- Something a file declares. -/
structure Symbol where
  /-- The declaration as shown to a reader. -/
  displayName : String
  /-- The normalized dotted name that searches compare with. -/
  searchName : String
  /-- The last part of the search name. -/
  memberName : String
  kind : SymbolKind
  /-- The part of the index that the declaring document belongs to. -/
  shelf : Shelf
  uri : Uri
  range : Range
  isLocal : Bool
  /-- The name of the innermost chunk around the declaration. -/
  containerName : String
  /-- The chunks around the declaration, outermost first. -/
  containers : List ChunkRef
  params : List String
  tag? : Option Tag
  requiredModule? : Option String
  /-- The function whose result the symbol holds. -/
  callReturnOf? : Option String
  /-- The body of the function that the symbol holds. -/
  ownedChunk? : Option Chunk
deriving DecidableEq, Repr, Inhabited

namespace Symbol

/-- The line the declaration starts on. -/
def startLine (s : Symbol) : Nat := s.range.start.line

/-- The strongest reason to look for members elsewhere. -/
def tagReason? (s : Symbol) : Option TagReason :=
  match s.tag? with
  | some t => some t.reason
  | none =>
    if s.requiredModule?.isSome then some .requireReturn
    else if s.callReturnOf?.isSome then some .callReturn
    else none

/-- The variable that the symbol's function returns. -/
def returnName? (s : Symbol) : Option String := s.ownedChunk?.bind (·.returnName?)

end Symbol

end LuaAtlas
