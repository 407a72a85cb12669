/-
Matching works on sets of positions: a part of an expression maps the positions where it may start
to the positions where it may end.
-/
import LuaAtlas.Pattern.Class
import LuaAtlas.Pattern.Expression

namespace LuaAtlas.Pattern

open LuaAtlas.Text

/-- A set of positions in a text, in increasing order. -/
abbrev Positions := List Nat

/-- The positions of either set. -/
def Positions.union : Positions → Positions → Positions
  | [], qs => qs
  | ps, [] => ps
  | p :: ps, q :: qs =>
    if p < q then p :: Positions.union ps (q :: qs)
    else if q < p then q :: Positions.union (p :: ps) qs
    else p :: Positions.union ps qs

/-- Whether the character at position `p` of the text belongs to words. -/
def isWordAt (text : Array Char) (kind : WordKind) (p : Nat) : Bool :=
  text[p]?.any fun c => match kind with
    | .unicode => isWordPart c
    | .ascii => (asciiClass "word").contains c

/-- Whether a condition holds at a position of the text. -/
def Look.holds (text : Array Char) (p : Nat) : Look → Bool
  | .textStart => p = 0
  | .textEnd => p = text.size
  | .lineStart crlf =>
    let before := if p = 0 then none else text[p - 1]?
    before = none || before = some '\n' ||
      (crlf && before = some '\r' && text[p]? ≠ some '\n')
  | .lineEnd crlf =>
    let after := text[p]?
    let before := if p = 0 then none else text[p - 1]?
    after = none || (crlf && after = some '\r') ||
      (after = some '\n' && !(crlf && before = some '\r'))
  | .word a kind =>
    let before := p ≠ 0 && isWordAt text kind (p - 1)
    let after := isWordAt text kind p
    match a with
    | .wordBoundary => before != after
    | .notWordBoundary => before == after
    | .wordStart => !before && after
    | .wordEnd => before && !after
    | .wordStartHalf => !before
    | .wordEndHalf => !after
    | _ => false

/-- Whether the characters stand at position `p` of the text. -/
def standsAt (text : Array Char) : List Char → Nat → Bool
  | [], _ => true
  | c :: cs, p => text[p]? = some c && standsAt text cs (p + 1)

/-- Applies a step a given number of times; a set that is empty or no longer changes ends it. -/
def repeated (step : Positions → Positions) : Nat → Positions → Positions
  | 0, ps => ps
  | n + 1, ps =>
    let qs := step ps
    if qs = [] || qs = ps then qs else repeated step n qs

/-- The positions that at most `n` steps lead to; `found` are those known, `fresh` those whose step
has not been taken. -/
def reached (step : Positions → Positions) : Nat → Positions → Positions → Positions
  | 0, found, _ => found
  | n + 1, found, fresh =>
    let new := (step fresh).filter (!found.contains ·)
    if new = [] then found else reached step n (found.union new) new

mutual

/-- The positions where a match that starts at one of the given positions may end. -/
def Regex.ends (text : Array Char) : Regex → Positions → Positions
  | .empty, ps => ps
  | .literal cs, ps => ps.filterMap fun p =>
    if standsAt text cs p then some (p + cs.length) else none
  | .set s, ps => ps.filterMap fun p => if text[p]?.any s.contains then some (p + 1) else none
  | .look l, ps => ps.filter (Look.holds text · l)
  | .seq parts, ps => seqEnds text parts ps
  | .alt branches, ps => altEnds text branches ps
  | .rep inner min max? _, ps =>
    let qs := repeated (inner.ends text) min ps
    let more := match max? with
      | some n => Nat.min (n - min) (text.size + 1)
      | none => text.size + 1
    reached (inner.ends text) more qs qs
  | .capture inner, ps => inner.ends text ps

/-- The positions where matches of all parts, one after the other, may end. -/
def seqEnds (text : Array Char) : List Regex → Positions → Positions
  | [], ps => ps
  | r :: rs, ps => seqEnds text rs (r.ends text ps)

/-- The positions where a match of one of the branches may end. -/
def altEnds (text : Array Char) : List Regex → Positions → Positions
  | [], _ => []
  | r :: rs, ps => (r.ends text ps).union (altEnds text rs ps)

end

/-- Whether the expression matches somewhere in a text. -/
def Regex.matches (r : Regex) (text : String) : Bool :=
  let cs := text.toList.toArray
  r.ends cs (List.range (cs.size + 1)) ≠ []

end LuaAtlas.Pattern
