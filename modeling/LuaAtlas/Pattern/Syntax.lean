/-
The syntax of search patterns: regular expressions without look-around and back-references.
-/

namespace LuaAtlas.Pattern

/-- What a flag in a pattern switches. -/
inductive Flag
  /-- The flag `i`. -/
  | ignoreCase
  /-- The flag `m`: `^` and `$` hold at line ends too. -/
  | multiLine
  /-- The flag `s`: the dot takes line feeds too. -/
  | dotAll
  /-- The flag `U`: what is greedy and what is lazy changes places. -/
  | swapGreed
  /-- The flag `u`: classes go by Unicode. -/
  | unicode
  /-- The flag `R`: a carriage return ends lines too. -/
  | crlf
  /-- The flag `x`: blanks and comments in the pattern do not count. -/
  | spaced
deriving DecidableEq, Repr, Inhabited

/-- Flags with the way they are switched. -/
abbrev FlagChange := List (Flag × Bool)

/-- A condition on a position. -/
inductive Assertion
  | startLine
  | endLine
  | startText
  | endText
  | wordBoundary
  | notWordBoundary
  | wordStart
  | wordEnd
  | wordStartHalf
  | wordEndHalf
deriving DecidableEq, Repr, Inhabited

/-- The classes with one-letter names. -/
inductive Shorthand
  | digit
  | space
  | word
deriving DecidableEq, Repr, Inhabited

/-- How a property class names its property. -/
inductive PropertyQuery
  | name (s : String)
  | value (property value : String)
deriving DecidableEq, Repr, Inhabited

/-- How two bracketed classes are combined. -/
inductive ClassOp
  | inter
  | diff
  | symmDiff
deriving DecidableEq, Repr, Inhabited

/-- What stands inside brackets. -/
inductive ClassSet
  | union (items : List ClassSet)
  | literal (c : Char)
  | range (first last : Char)
  /-- A named ASCII class such as `[:alpha:]`. -/
  | ascii (name : String) (negated : Bool)
  | property (query : PropertyQuery) (negated : Bool)
  | shorthand (s : Shorthand) (negated : Bool)
  | bracketed (negated : Bool) (set : ClassSet)
  | op (kind : ClassOp) (left right : ClassSet)
deriving Repr, Inhabited

/-- A pattern as written. -/
inductive Ast
  | empty
  /-- A flag group such as `(?i)`, which holds to the end of the group around it. -/
  | flags (change : FlagChange)
  | literal (c : Char)
  /-- A character given by two hexadecimal digits. -/
  | byte (c : Char)
  | dot
  | assertion (a : Assertion)
  | property (query : PropertyQuery) (negated : Bool)
  | shorthand (s : Shorthand) (negated : Bool)
  | bracketed (negated : Bool) (set : ClassSet)
  | repetition (inner : Ast) (min : Nat) (max? : Option Nat) (greedy : Bool)
  | group (change : FlagChange) (captures : Bool) (inner : Ast)
  | alternation (branches : List Ast)
  | concat (parts : List Ast)
deriving Repr, Inhabited

namespace Ast

/-- Parts one after the other. -/
def ofParts : List Ast → Ast
  | [] => .empty
  | [a] => a
  | as => .concat as

/-- Branches to choose from. -/
def ofBranches : List Ast → Ast
  | [] => .empty
  | [a] => a
  | as => .alternation as

/-- Whether a repetition can apply: there must be something to repeat. -/
def isRepeatable : Ast → Bool
  | .empty | .flags _ => false
  | _ => true

end Ast

/-! ## Nesting -/

mutual

/-- How deeply the parts of a class nest. -/
def ClassSet.depth : ClassSet → Nat
  | .union [] => 0
  | .union items => itemsDepth items + 1
  | .bracketed _ set => set.depth + 1
  | .op _ left right => max left.depth right.depth + 1
  | _ => 0

/-- The greatest depth among parts. -/
def itemsDepth : List ClassSet → Nat
  | [] => 0
  | c :: cs => max c.depth (itemsDepth cs)

end

mutual

/-- How deeply the parts of a pattern nest. -/
def Ast.depth : Ast → Nat
  | .bracketed _ set => set.depth + 1
  | .repetition inner _ _ _ => inner.depth + 1
  | .group _ _ inner => inner.depth + 1
  | .alternation branches => partsDepth branches + 1
  | .concat parts => partsDepth parts + 1
  | _ => 0

/-- The greatest depth among parts. -/
def partsDepth : List Ast → Nat
  | [] => 0
  | a :: as => max a.depth (partsDepth as)

end

end LuaAtlas.Pattern
