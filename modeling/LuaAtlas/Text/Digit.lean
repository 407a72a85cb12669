/-
Decimal digits of all scripts, and the digits of ASCII numerals.
-/
import LuaAtlas.Text.Category

namespace LuaAtlas.Text

/-- The decimal digits of all scripts. -/
def decimalDigits : CharSet := ofCategories ["nd"]

/-- Whether `c` is one of the ASCII digits. -/
def isAsciiDigit (c : Char) : Bool := '0' ≤ c && c ≤ '9'

/-- Whether `c` is an ASCII hexadecimal digit. -/
def isHexDigit (c : Char) : Bool :=
  isAsciiDigit c || ('a' ≤ c && c ≤ 'f') || ('A' ≤ c && c ≤ 'F')

end LuaAtlas.Text
