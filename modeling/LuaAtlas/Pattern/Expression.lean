/-
Regular expressions in reduced form. The functions that build them keep the form: neighbouring
literals are one literal, a sequence holds no sequence and a choice no choice, a set has no member or
at least two, a choice between characters is a set, what all branches of a choice begin with stands
before the choice, and a repetition that changes nothing is left out.
-/
import LuaAtlas.Pattern.Syntax
import LuaAtlas.Text.CharSet

namespace LuaAtlas.Pattern

open LuaAtlas.Text

/-- Which characters a word boundary takes for parts of words. -/
inductive WordKind
  | unicode
  | ascii
deriving DecidableEq, Repr

/-- A condition on a position, with the flags resolved. -/
inductive Look
  | textStart
  | textEnd
  | lineStart (crlf : Bool)
  | lineEnd (crlf : Bool)
  | word (a : Assertion) (kind : WordKind)
deriving DecidableEq, Repr

/-- A regular expression ready to match. -/
inductive Regex
  | empty
  | literal (cs : List Char)
  | set (s : CharSet)
  | look (l : Look)
  | seq (parts : List Regex)
  | alt (branches : List Regex)
  | rep (inner : Regex) (min : Nat) (max? : Option Nat) (greedy : Bool)
  | capture (inner : Regex)
deriving Repr, Inhabited

namespace Regex

/-! ## Width -/

mutual

/-- Whether the expression matches nothing but the empty text. -/
def isZeroWidth : Regex → Bool
  | .empty | .look _ => true
  | .literal _ | .set _ => false
  | .seq parts => areZeroWidth parts
  | .alt branches => areZeroWidth branches
  | .rep inner _ _ _ => inner.isZeroWidth
  | .capture inner => inner.isZeroWidth

/-- Whether all of the expressions match nothing but the empty text. -/
def areZeroWidth : List Regex → Bool
  | [] => true
  | r :: rs => r.isZeroWidth && areZeroWidth rs

end

mutual

/-- Whether the expression can match, as far as its shape tells: no part of it is a set without
members. -/
def isPossible : Regex → Bool
  | .empty | .look _ | .literal _ => true
  | .set s => s.spans ≠ []
  | .seq parts => arePossible parts
  | .alt branches => arePossible branches
  | .rep inner _ _ _ => inner.isPossible
  | .capture inner => inner.isPossible

/-- Whether all of the expressions can match. -/
def arePossible : List Regex → Bool
  | [] => true
  | r :: rs => r.isPossible && arePossible rs

end

mutual

/-- Whether the expression may match the empty text. -/
def isNullable : Regex → Bool
  | .empty | .look _ => true
  | .literal _ | .set _ => false
  | .seq parts => areNullable parts
  | .alt branches => anyNullable branches
  | .rep inner min _ _ => min = 0 || inner.isNullable
  | .capture inner => inner.isNullable

/-- Whether all of the expressions may match the empty text. -/
def areNullable : List Regex → Bool
  | [] => true
  | r :: rs => r.isNullable && areNullable rs

/-- Whether one of the expressions may match the empty text. -/
def anyNullable : List Regex → Bool
  | [] => false
  | r :: rs => r.isNullable || anyNullable rs

end

/-! ## Equality -/

mutual

/-- Whether two expressions are the same. Each group is a group of its own, so no two groups are. -/
def same : Regex → Regex → Bool
  | .empty, .empty => true
  | .literal a, .literal b => a = b
  | .set a, .set b => a = b
  | .look a, .look b => a = b
  | .seq as, .seq bs => allSame as bs
  | .alt as, .alt bs => allSame as bs
  | .rep a min max? greedy, .rep b min' max?' greedy' =>
    min = min' && max? = max?' && greedy = greedy' && a.same b
  | _, _ => false

/-- Whether two lists hold the same expressions. -/
def allSame : List Regex → List Regex → Bool
  | [], [] => true
  | a :: as, b :: bs => a.same b && allSame as bs
  | _, _ => false

end

/-! ## Building -/

/-- The code points that are no characters. -/
def surrogates : CharSet := ⟨[(0xd800, 0xdfff)]⟩

/-- One character out of a set. -/
def ofSet (s : CharSet) : Regex :=
  let s := s.diff surrogates
  match s.spans with
  | [(lo, hi)] => if lo = hi then .literal [Char.ofNat lo] else .set s
  | _ => .set s

/-- A repetition of an expression: nothing is repeated more than once where only the empty text can
match. -/
def repeating (inner : Regex) (min : Nat) (max? : Option Nat) (greedy : Bool) : Regex :=
  let (min, max?) := if inner.isZeroWidth then (Nat.min min 1, some (Nat.min (max?.getD 1) 1))
    else (min, max?)
  if max? = some 0 then .empty
  else if min = 1 && max? = some 1 then inner
  else .rep inner min max? greedy

/-- What an expression contributes to a sequence. -/
def parts : Regex → List Regex
  | .seq ps => ps
  | .empty => []
  | r => [r]

/-- Makes one literal out of neighbouring ones. -/
def joinLiterals (rs : List Regex) : List Regex :=
  rs.foldr (fun r rest => match r, rest with
    | .literal a, .literal b :: more => .literal (a ++ b) :: more
    | r, rest => r :: rest) []

/-- Expressions one after the other. -/
def concat (rs : List Regex) : Regex :=
  match joinLiterals (rs.flatMap parts) with
  | [] => .empty
  | [r] => r
  | rs => .seq rs

/-- What an expression contributes to a choice. -/
def branches : Regex → List Regex
  | .alt bs => bs
  | r => [r]

/-- The character of a literal that is one character. -/
def char? : Regex → Option Char
  | .literal [c] => some c
  | _ => none

/-- The set of an expression that is a set. -/
def set? : Regex → Option CharSet
  | .set s => some s
  | _ => none

/-- A choice among expressions; one among characters or among sets is a set. -/
def oneOf : List Regex → Regex
  | [] => .set .empty
  | [r] => r
  | rs =>
    match rs.mapM char?, rs.mapM set? with
    | some cs, _ => ofSet (.tidy ⟨cs.map fun c => (c.toNat, c.toNat)⟩)
    | none, some sets => ofSet (.tidy ⟨sets.flatMap (·.spans)⟩)
    | none, none => .alt rs

/-- The expressions that two lists have in common at their beginning. -/
def commonStart : List Regex → List Regex → List Regex
  | a :: as, b :: bs => if a.same b then a :: commonStart as bs else []
  | _, _ => []

/-- The parts of a sequence of at least two. -/
def seqParts? : Regex → Option (List Regex)
  | .seq ps => some ps
  | _ => none

/-- What all branches begin with, if all of them are sequences. -/
def sharedStart (rs : List Regex) : List Regex :=
  match rs.mapM seqParts? with
  | some (ps :: pss) => pss.foldl commonStart ps
  | _ => []

/-- A choice among expressions, behind what all of them begin with. -/
def choice (rs : List Regex) : Regex :=
  match oneOf (rs.flatMap branches) with
  | .alt bs =>
    match sharedStart bs with
    | [] => .alt bs
    | shared =>
      let rests := bs.map fun b => concat (b.parts.drop shared.length)
      concat (shared ++ [oneOf (rests.flatMap branches)])
  | r => r

end Regex

end LuaAtlas.Pattern
