/-
Texts in double quotes for messages: quotes, backslashes, line ends and characters that cannot be
seen are written as escapes.
-/
import LuaAtlas.Text.Latest

namespace LuaAtlas.Text

/-- The lower-case hexadecimal digits of a number. -/
def hexText (n : Nat) : String := String.ofList (Nat.toDigits 16 n)

/-- How a character is written between double quotes. -/
def quotedChar (c : Char) : String :=
  match c with
  | '\x00' => "\\0"
  | '\t' => "\\t"
  | '\r' => "\\r"
  | '\n' => "\\n"
  | '"' => "\\\""
  | '\\' => "\\\\"
  | c => if Latest.isUnseen c then "\\u\x7b" ++ hexText c.toNat ++ "\x7d" else String.singleton c

/-- A text in double quotes. -/
def quotedText (s : String) : String := "\"" ++ String.join (s.toList.map quotedChar) ++ "\""

end LuaAtlas.Text
