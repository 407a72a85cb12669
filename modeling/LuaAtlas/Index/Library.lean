/-
Documents by URI, in the order of their URIs.
-/
import LuaAtlas.Document

namespace LuaAtlas

/-- Documents with distinct URIs, in increasing order of URI. -/
structure Library where
  documents : List Document

namespace Library

/-- The library without documents. -/
def empty : Library := ⟨[]⟩

/-- The document of a URI. -/
def find? (l : Library) (uri : Uri) : Option Document := l.documents.find? (·.uri = uri)

/-- Whether there is a document of that URI. -/
def contains (l : Library) (uri : Uri) : Bool := (l.find? uri).isSome

/-- Puts a document in its place, in front of those with greater URIs, over one of the same URI. -/
def place (d : Document) : List Document → List Document
  | [] => [d]
  | e :: es =>
    if d.uri = e.uri then d :: es
    else if d.uri.text < e.uri.text then d :: e :: es
    else e :: place d es

/-- Adds a document, over one of the same URI. -/
def insert (l : Library) (d : Document) : Library := ⟨place d l.documents⟩

/-- Changes the document of a URI, which must keep its URI. -/
def change (l : Library) (uri : Uri) (f : Document → Document) : Library :=
  ⟨l.documents.map fun d => if d.uri = uri then f d else d⟩

/-- The number of documents. -/
def size (l : Library) : Nat := l.documents.length

/-- The number of symbols of all documents. -/
def symbolCount (l : Library) : Nat := l.documents.foldr (fun d n => d.symbols.length + n) 0

/-- What a query finds in each document, by URI. -/
def search (l : Library) (query : String) (mode : SearchMode) (scope : SearchScope) : List Symbol :=
  l.documents.flatMap (·.search query mode scope)

end Library

end LuaAtlas
