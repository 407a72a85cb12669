/-
Completion: what could follow a name that is being typed, and what could be written into the comment
above a declaration.
-/
import LuaAtlas.Inference

namespace LuaAtlas.Query

open LuaAtlas.Inference

/-- What an offered item is. -/
inductive ItemKind
  | func
  | var
  | snippet
deriving DecidableEq, Repr, Inhabited

/-- Something offered to the typist; a snippet has places to fill in. -/
structure Item where
  label : String
  kind : ItemKind
  insertText : String
  detail : String
  isSnippet : Bool
deriving DecidableEq, Repr, Inhabited

/-- Whether two items would be the same to the typist. -/
def Item.isSame (a b : Item) : Bool :=
  a.label = b.label && a.kind = b.kind && a.insertText = b.insertText && a.isSnippet = b.isSnippet

/-- A place to fill in, with its number and its hint. -/
def placeholder (number : Nat) (hint : String) : String :=
  "$\x7b" ++ toString number ++ ":" ++ hint ++ "\x7d"

/-- Places to fill in for parameters, counted from `number`. -/
def paramPlaceholders (number : Nat) : List String → List String
  | [] => []
  | p :: ps => placeholder number p :: paramPlaceholders (number + 1) ps

/-- The item of a symbol. Behind a dot only the last part of a name is offered. -/
def itemOf (dotted : Bool) (s : Symbol) : Item :=
  let label := if dotted then Name.lastPart s.searchName else s.searchName
  match s.kind with
  | .func =>
    { label, kind := .func, detail := s.displayName, isSnippet := true
      insertText := label ++ "(" ++ ", ".intercalate (paramPlaceholders 1 s.params) ++ ")" }
  | .var => { label, kind := .var, detail := s.displayName, isSnippet := false, insertText := label }

/-- The items without those that are the same as one of `earlier` or one before. -/
def distinctItems (earlier : List Item) : List Item → List Item
  | [] => []
  | i :: is =>
    if earlier.any (·.isSame i) then distinctItems earlier is
    else i :: distinctItems (i :: earlier) is

/-- The symbols that an input stands for: all whose names begin with it. Behind a dot those with as many
dots count, and those that tags lead to. -/
def completionSymbols (x : Index) (uri : Uri) (input : String) : List Symbol :=
  let found := x.searchCompletion uri input .prefixMatch
  if Name.isDotted input then
    found.filter (fun s => Name.dots s.searchName = Name.dots input) ++ resolve x .completion input uri
  else found

/-- What could follow an input in a document. -/
def complete (x : Index) (uri : Uri) (input : String) : List Item :=
  let input := Name.normalize input
  distinctItems [] ((completionSymbols x uri input).map (itemOf (Name.isDotted input)))

/-! ## Comments -/

/-- A text filled up with blanks to a width in characters. -/
def padded (width : Nat) (s : String) : String :=
  s ++ String.ofList (List.replicate (width - s.length) ' ')

/-- The lines of a documentation comment for parameters, with places counted from `number`. -/
def paramLines (width number : Nat) : List String → List String
  | [] => []
  | p :: ps =>
    ("\n---@param " ++ padded width p ++ " " ++ placeholder number "Type" ++ " " ++
      placeholder (number + 1) "Description") :: paramLines width (number + 2) ps

/-- The documentation comment of a function. Parameters are filled up to the greatest length among them,
counted in bytes. -/
def docComment (name : String) (params : List String) : String :=
  let width := (params.map (·.utf8ByteSize)).foldl max 0
  let last := 2 * params.length + 2
  name ++ " " ++ placeholder 1 "Description of the function" ++
    String.join (paramLines width 2 params) ++
    "\n" ++ placeholder last "---@return " ++ " " ++ placeholder (last + 1) "Type" ++ " " ++
    placeholder (last + 2) "Description"

/-- The line after a line. Line numbers have 32 bits, and the first line follows the last one. -/
def nextLine (line : Nat) : Nat := (line + 1) % 0x100000000

/-- What could be written into a comment on a line: documentation if a function is declared on the next,
a type annotation otherwise. -/
def completeComment (x : Index) (uri : Uri) (line : Nat) : List Item :=
  match (x.document? uri).bind (·.functionAt? (nextLine line)) with
  | some f => [
      { label := f.searchName ++ " comment", kind := .snippet, isSnippet := true
        insertText := docComment f.searchName f.params
        detail := "Write comments or mark return type for this function." },
      { label := "mark return", kind := .snippet, isSnippet := true
        insertText := "@return ", detail := "Mark return type for this function" }]
  | none => [
      { label := "@type", kind := .snippet, isSnippet := true
        insertText := "@type " ++ placeholder 1 "Type" ++ " " ++ placeholder 2 "Description"
        detail := "comment var type" }]

end LuaAtlas.Query
