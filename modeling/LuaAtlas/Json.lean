/-
JSON values and their text, with one field or item a line.
-/
import LuaAtlas.Text.Quoted

namespace LuaAtlas

/-- A JSON value. Numbers are counts. -/
inductive Json
  | null
  | bool (b : Bool)
  | number (n : Nat)
  | text (s : String)
  | array (items : List Json)
  | object (fields : List (String × Json))
deriving Repr, Inhabited

namespace Json

/-- The value of something that may be absent. -/
def option (encode : α → Json) : Option α → Json
  | some a => encode a
  | none => .null

/-- The array of encoded elements. -/
def list (encode : α → Json) (as : List α) : Json := .array (as.map encode)

/-! ## Text -/

/-- How a character is written between quotes. -/
def escapedChar (c : Char) : String :=
  match c with
  | '"' => "\\\""
  | '\\' => "\\\\"
  | '\n' => "\\n"
  | '\r' => "\\r"
  | '\t' => "\\t"
  | '\x08' => "\\b"
  | '\x0c' => "\\f"
  | c =>
    if c.toNat < 0x10 then "\\u000" ++ Text.hexText c.toNat
    else if c.toNat < 0x20 then "\\u00" ++ Text.hexText c.toNat
    else String.singleton c

/-- A text between quotes. -/
def quoted (s : String) : String := "\"" ++ String.join (s.toList.map escapedChar) ++ "\""

/-- The beginning of a line that is indented so many times. -/
def newLine (depth : Nat) : String := "\n" ++ String.ofList (List.replicate (2 * depth) ' ')

/-- Lines between brackets. -/
def bracketed (opening closing : String) (depth : Nat) : List String → String
  | [] => opening ++ closing
  | items =>
    opening ++ newLine (depth + 1) ++ ("," ++ newLine (depth + 1)).intercalate items ++ newLine depth ++ closing

mutual

/-- The text of a value whose first line is indented `depth` times. -/
def render (depth : Nat) : Json → String
  | .null => "null"
  | .bool b => if b then "true" else "false"
  | .number n => toString n
  | .text s => quoted s
  | .array items => bracketed "[" "]" depth (renderItems (depth + 1) items)
  | .object fields => bracketed "\x7b" "\x7d" depth (renderFields (depth + 1) fields)

/-- The texts of items. -/
def renderItems (depth : Nat) : List Json → List String
  | [] => []
  | j :: js => render depth j :: renderItems depth js

/-- The texts of fields. -/
def renderFields (depth : Nat) : List (String × Json) → List String
  | [] => []
  | (key, j) :: rest => (quoted key ++ ": " ++ render depth j) :: renderFields depth rest

end

/-- The text of a value. -/
def pretty (j : Json) : String := j.render 0

end Json

end LuaAtlas
