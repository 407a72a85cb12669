/-
White space and control characters, by their Unicode properties.
-/
import LuaAtlas.Text.CharSet

namespace LuaAtlas.Text

/-- The characters with the property White_Space. -/
def whiteSpace : CharSet :=
  .ofTable [
    "9 4 12 0 64 0 1a 0 15df 0 97f a 1d 1 5 0 2f 0 fa0 0"]

/-- Whether `c` is white space. -/
def isBlank (c : Char) : Bool := whiteSpace.contains c

/-- Whether `c` is a control character. -/
def isControl (c : Char) : Bool := c.toNat < 0x20 || (0x7f ≤ c.toNat && c.toNat < 0xa0)

end LuaAtlas.Text
