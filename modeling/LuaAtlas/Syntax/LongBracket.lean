/-
Long brackets: two square brackets with equals signs between them, whose number is the level of the
bracket. They enclose comments and strings that run over several lines, and such a text ends at the
first closing bracket of its own level. Levels are counted modulo 256, and a text with a null
character in it never ends.
-/
import LuaAtlas.Syntax.Lexeme

namespace LuaAtlas.Syntax.LongBracket

/-- The level that a run of equals signs stands for. -/
def levelOf (equals : Nat) : Nat := equals % 256

/-- Reads a square bracket `c`, equals signs and the same bracket again. Gives the level when the
bracket is complete, and how far the text was read. -/
def bracket (c : Char) (p : Place) : Option Nat × Place :=
  if p.rest.head? = some c then
    let equals := Lexeme.run (· = '=') p.next.rest
    let q := p.next.skip equals
    if q.rest.head? = some c then (some (levelOf equals), q.next) else (none, q)
  else (none, p)

/-- Reads a closing bracket of the given level; the second bracket is left when the level differs. -/
def close (level : Nat) (p : Place) : Bool × Place :=
  if p.rest.head? = some ']' then
    let equals := Lexeme.run (· = '=') p.next.rest
    let q := p.next.skip equals
    if levelOf equals = level && q.rest.head? = some ']' then (true, q.next) else (false, q)
  else (false, p)

/-- Where the first closing bracket of the given level begins, in a text of which `n` characters
have been read. Of a closing bracket that has been entered, `entered` tells where it begins and how
many equals signs it has so far. -/
def bodyEnd (level n : Nat) (entered : Option (Nat × Nat)) : List Char → Option Nat
  | [] => none
  | c :: cs =>
    if c = '\x00' then none
    else
      match entered with
      | some (start, equals) =>
        if c = '=' then bodyEnd level (n + 1) (some (start, equals + 1)) cs
        else if c = ']' then
          if levelOf equals = level then some start else bodyEnd level (n + 1) (some (n, 0)) cs
        else bodyEnd level (n + 1) none cs
      | none => bodyEnd level (n + 1) (if c = ']' then some (n, 0) else none) cs

/-- The body of a long comment or string, from `start` to the closing bracket of the given level
behind `p`. -/
def body (t : Terminal) (level : Nat) (start p : Place) : Option Lexeme.Found :=
  (bodyEnd level 0 none p.rest).map fun n => ⟨t, start, p.skip n⟩

/-- An opening bracket at `p` as a token that begins at `start`, with its level. White space before
a comment's dashes has been passed; a bracket that was begun and not completed before them belongs
to the comment. -/
def opening (isWanted : Terminal → Bool) (start p : Place) : Option (Lexeme.Found × Nat) :=
  match if isWanted .longOpen then bracket '[' p else (none, p) with
  | (some level, q) => some (⟨.longOpen, start, q⟩, level)
  | (none, q) =>
    if isWanted .remarkOpen && ['-', '-'].isPrefixOf q.rest then
      match bracket '[' (q.skip 2) with
      | (some level, r) => some (⟨.remarkOpen, start, r⟩, level)
      | (none, _) => none
    else none

/-- The token of a long comment or string at `p`, among those that are wanted, and the level that is
open behind it. What was read of a closing bracket of another level belongs to the next token. -/
def scan (isWanted : Terminal → Bool) (level : Nat) (p : Place) : Option (Lexeme.Found × Nat) :=
  match if isWanted .longClose then close level p else (false, p) with
  | (true, q) => some (⟨.longClose, p, q⟩, 0)
  | (false, q) =>
    if isWanted .longBody then (body .longBody level p q).map (·, level)
    else
      match if isWanted .remarkClose then close level q else (false, q) with
      | (true, r) => some (⟨.remarkClose, p, r⟩, 0)
      | (false, r) =>
        if isWanted .remarkBody then (body .remarkBody level p r).map (·, level)
        else
          let spaces := Lexeme.run Lexeme.isSpace r.rest
          opening isWanted (if spaces = 0 then p else r.skip spaces) (r.skip spaces)

end LuaAtlas.Syntax.LongBracket
