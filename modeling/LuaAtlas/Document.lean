/-
Documents: what is known about one file. A document is built as a whole from its source; only the
list of documents that require it is kept from one build to the next.
-/
import LuaAtlas.Declare
import LuaAtlas.Partition
import LuaAtlas.Syntax.Parse

namespace LuaAtlas

open LuaAtlas.Syntax LuaAtlas.Walk

/-- How complete a document is. -/
inductive DocumentState
  /-- Its source has no syntax errors. -/
  | complete
  /-- Its source has syntax errors; the document holds what could be recovered. -/
  | degraded
  /-- Some document requires it and it cannot be read. -/
  | placeholder
deriving DecidableEq, Repr, Inhabited

/-- A file with its symbols, chunks and `require` calls, and the documents that require it. -/
structure Document where
  uri : Uri
  state : DocumentState
  source : File
  all : Partition
  globals : Partition
  locals : Partition
  chunks : List Chunk
  requires : List Edge
  referencedBy : List Uri

namespace Document

/-! ## Building -/

/-- The document of a syntax tree. -/
def ofFile (shelf : Shelf) (uri : Uri) (state : DocumentState) (file : File) : Document :=
  let es := events uri file
  let symbols := Declare.symbols shelf uri es (annotations file.comments)
  { uri, state, source := file
    all := .ofList symbols
    globals := .ofList (symbols.filter (!·.isLocal))
    locals := .ofList (symbols.filter (·.isLocal))
    chunks := Declare.chunks es
    requires := Declare.requires es
    referencedBy := [] }

/-- The document of a source text that has been read. -/
def build (shelf : Shelf) (uri : Uri) : Outcome → Document
  | .complete file => ofFile shelf uri .complete file
  | .degraded file => ofFile shelf uri .degraded file

/-- The document of a file that is required but cannot be read. -/
def placeholder (uri : Uri) : Document where
  uri := uri
  state := .placeholder
  source := ⟨.mk [] .origin, [], .origin⟩
  all := .empty
  globals := .empty
  locals := .empty
  chunks := []
  requires := []
  referencedBy := []

/-- Notes that `uri` requires the document. -/
def addReference (d : Document) (uri : Uri) : Document :=
  if d.referencedBy.contains uri then d else { d with referencedBy := d.referencedBy ++ [uri] }

/-- Notes that `uri` does not require the document any more. -/
def dropReference (d : Document) (uri : Uri) : Document :=
  { d with referencedBy := d.referencedBy.filter (· ≠ uri) }

/-! ## Symbols and chunks -/

/-- The symbols in the order of their declaration. -/
def symbols (d : Document) : List Symbol := d.all.symbols

/-- The symbols of a scope. -/
def partition (d : Document) : SearchScope → Partition
  | .all => d.all
  | .globals => d.globals
  | .locals => d.locals

/-- The symbols of a scope that a query finds. -/
def search (d : Document) (query : String) (mode : SearchMode) (scope : SearchScope) : List Symbol :=
  (d.partition scope).search (Name.normalize query) mode

/-- The chunk of this name; the last one opened if there are several. -/
def chunk? (d : Document) (name : String) : Option Chunk := d.chunks.reverse.find? (·.name = name)

/-- The chunk under the name of the file. -/
def fileChunk? (d : Document) : Option Chunk := d.chunk? d.uri.fileName

/-- The variable that the file returns. -/
def returnName? (d : Document) : Option String := d.fileChunk?.bind (·.returnName?)

/-- Whether some local has exactly this name. -/
def isLocalName (d : Document) (name : String) : Bool := d.locals.contains name

/-- The first function declared on a line. -/
def functionAt? (d : Document) (line : Nat) : Option Symbol :=
  d.symbols.find? fun s => s.kind = .func && s.startLine = line

/-! ## Cursor and occurrences -/

/-- What a cursor points at. -/
inductive Hit
  | name (searchName : String) (range : Range) (isLocal : Bool) (stack : List ChunkRef)
  /-- The argument of a `require` call. -/
  | required (module : String) (range : Range)
deriving DecidableEq, Repr

/-- What a cursor at `p` points at, if it points at what the event is about. -/
def hitOf? (p : Position) : Event → Option Hit
  | .site s =>
    if s.hitRange.contains p then some (.name (Name.normalize s.name) s.range s.isLocal s.stack) else none
  | .required e argument =>
    if argument.contains p then some (.required e.targetModule argument) else none
  | _ => none

/-- What a cursor at `p` points at: the first thing that the walk meets there. -/
def hitAt? (d : Document) (p : Position) : Option Hit := (events d.uri d.source).findSome? (hitOf? p)

/-- Everywhere that `name` is written, taken literally. -/
def occurrences (d : Document) (name : String) : List Range :=
  (events d.uri d.source).filterMap fun
    | .site s => if s.name = name then some s.range else none
    | _ => none

end Document

end LuaAtlas
