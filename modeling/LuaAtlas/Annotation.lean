/-
Type annotations: a comment `---@type Name` says that what is declared on the line below it has the
members of `Name`.
-/
import LuaAtlas.Name
import LuaAtlas.Syntax.Tree
import LuaAtlas.Text.Blank
import LuaAtlas.Text.Letter

namespace LuaAtlas

open LuaAtlas.Text

/-- Whether `c` can open the name of a type. -/
def isTypeStart (c : Char) : Bool := isAlphabetic c || c = '_'

/-- Whether `c` can stand in the name of a type. -/
def isTypePart (c : Char) : Bool := isWordPart c || c = '.' || c = ':'

/-- The type that a comment names: dashes, `@type` and a name that is followed by a blank or by
nothing. -/
def annotatedType? (comment : String) : Option String :=
  let cs := (comment.toList.dropWhile (· = '-')).dropWhile isBlank
  if "@type".toList.isPrefixOf cs then
    match cs.drop 5 with
    | b :: rest =>
      if isBlank b then
        match rest.dropWhile isBlank with
        | c :: cs =>
          let name := c :: cs.takeWhile isTypePart
          let ended := (cs.dropWhile isTypePart).head?.all isBlank
          if isTypeStart c && ended then some (Name.normalize (String.ofList name)) else none
        | [] => none
      else none
    | [] => none
  else none

/-- A type annotation: the type it names and the last line of its comment. -/
structure Annotation where
  line : Nat
  typeName : String
deriving DecidableEq, Repr

/-- The annotations among comments. -/
def annotations (comments : List Syntax.Comment) : List Annotation :=
  comments.filterMap fun c => (annotatedType? c.text).map fun t => ⟨c.range.stop.line, t⟩

end LuaAtlas
