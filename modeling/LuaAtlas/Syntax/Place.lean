/-
Places in a source text: how far into the text they lie, in characters, in bytes and by line and
column, and the text that follows. The text between two places is a stretch of the source.
-/
import LuaAtlas.Text.Position

namespace LuaAtlas.Syntax

/-- A place in a source text. -/
structure Place where
  /-- The number of characters before it. -/
  index : Nat
  /-- The number of bytes before it. -/
  byte : Nat
  position : Position
  /-- The text that follows. -/
  rest : List Char
deriving Inhabited

namespace Place

/-- The beginning of a text. -/
def ofText (source : String) : Place := ⟨0, 0, .origin, source.toList⟩

/-- The place behind the next character; the end of the text has none behind it. -/
def next (p : Place) : Place :=
  match p.rest with
  | [] => p
  | c :: cs => ⟨p.index + 1, p.byte + c.utf8Size, p.position.next c, cs⟩

/-- The place behind the next `n` characters. -/
def skip : Nat → Place → Place
  | 0, p => p
  | n + 1, p => skip n p.next

/-- The text between two places. -/
def textTo (p q : Place) : String := String.ofList (p.rest.take (q.index - p.index))

/-- The stretch from `p` to `q`. -/
def rangeTo (p q : Place) : Range := ⟨p.position, q.position⟩

end Place

end LuaAtlas.Syntax
