/-
Character classes of search patterns and the sets of characters they stand for.
-/
import LuaAtlas.Pattern.Syntax
import LuaAtlas.Text.Age
import LuaAtlas.Text.Breaking
import LuaAtlas.Text.Digit
import LuaAtlas.Text.Extension
import LuaAtlas.Text.Folding

namespace LuaAtlas.Pattern

open LuaAtlas.Text

/-- The flags in force at a place of a pattern. -/
structure Flags where
  ignoreCase : Bool
  multiLine : Bool
  dotAll : Bool
  swapGreed : Bool
  unicode : Bool
  crlf : Bool
deriving DecidableEq, Repr

namespace Flags

/-- Switches one flag. -/
def switch (f : Flags) : Flag × Bool → Flags
  | (.ignoreCase, on) => { f with ignoreCase := on }
  | (.multiLine, on) => { f with multiLine := on }
  | (.dotAll, on) => { f with dotAll := on }
  | (.unicode, on) => { f with unicode := on }
  | (.crlf, on) => { f with crlf := on }
  | (.swapGreed, on) => { f with swapGreed := on }
  | (.spaced, _) => f

/-- Switches several flags. -/
def apply (f : Flags) (change : FlagChange) : Flags := change.foldl switch f

end Flags

/-! ## Sets -/

/-- The characters of ASCII. -/
def asciiChars : CharSet := ⟨[(0, 0x7f)]⟩

/-- The values of a byte. -/
def byteValues : CharSet := ⟨[(0, 0xff)]⟩

/-- The characters of an ASCII class. -/
def asciiClass : String → CharSet
  | "alnum" => ⟨[(0x30, 0x39), (0x41, 0x5a), (0x61, 0x7a)]⟩
  | "alpha" => ⟨[(0x41, 0x5a), (0x61, 0x7a)]⟩
  | "ascii" => asciiChars
  | "blank" => ⟨[(0x09, 0x09), (0x20, 0x20)]⟩
  | "cntrl" => ⟨[(0x00, 0x1f), (0x7f, 0x7f)]⟩
  | "digit" => ⟨[(0x30, 0x39)]⟩
  | "graph" => ⟨[(0x21, 0x7e)]⟩
  | "lower" => ⟨[(0x61, 0x7a)]⟩
  | "print" => ⟨[(0x20, 0x7e)]⟩
  | "punct" => ⟨[(0x21, 0x2f), (0x3a, 0x40), (0x5b, 0x60), (0x7b, 0x7e)]⟩
  | "space" => ⟨[(0x09, 0x0d), (0x20, 0x20)]⟩
  | "upper" => ⟨[(0x41, 0x5a)]⟩
  | "word" => ⟨[(0x30, 0x39), (0x41, 0x5a), (0x5f, 0x5f), (0x61, 0x7a)]⟩
  | "xdigit" => ⟨[(0x30, 0x39), (0x41, 0x46), (0x61, 0x66)]⟩
  | _ => .empty

/-- Adds the other case of ASCII letters. -/
def closeAsciiFold (s : CharSet) : CharSet :=
  let letters := s.inter (asciiClass "alpha")
  let other := letters.spans.map fun (lo, hi) =>
    if lo < 0x61 then (lo + 0x20, hi + 0x20) else (lo - 0x20, hi - 0x20)
  s.union ⟨other⟩

/-- Closes a class under case if case does not count. -/
def Flags.fold (f : Flags) (s : CharSet) : CharSet :=
  if f.ignoreCase then (if f.unicode then s.closeFold else closeAsciiFold s) else s

/-- A character, with its other cases if case does not count. -/
def Flags.foldChar (f : Flags) (c : Char) : CharSet :=
  if f.ignoreCase then (if f.unicode then .caseVariants c else closeAsciiFold (.single c)) else .single c

/-- The rest of the characters: all of Unicode, or the values of a byte. -/
def Flags.negate (f : Flags) (negated : Bool) (s : CharSet) : CharSet :=
  if negated then (if f.unicode then s.compl else byteValues.diff s) else s

/-- The characters of a shorthand class. -/
def shorthandSet (f : Flags) : Shorthand → CharSet
  | .digit => if f.unicode then decimalDigits else asciiClass "digit"
  | .space => if f.unicode then whiteSpace else asciiClass "space"
  | .word => if f.unicode then wordChars else asciiClass "word"

/-! ## Properties -/

/-- The form of a property name that look-ups use: lower case, without blanks, hyphens, underscores
and a leading `is`. -/
def looseName (s : String) : String :=
  let lower := s.toList.map Char.toLower
  let isPrefixed := ['i', 's'].isPrefixOf lower
  let kept := (if isPrefixed then lower.drop 2 else lower).filter fun c =>
    c ≠ ' ' && c ≠ '_' && c ≠ '-' && c.toNat < 128
  if isPrefixed && kept = ['c'] then "isc" else String.ofList kept

/-- The characters that have a property or belong to a category or script of that name. -/
def namedSet? (name : String) : Option CharSet :=
  let key := looseName name
  let property := if key = "cf" || key = "sc" || key = "lc" then none else property? key
  property.or <| match key with
    | "any" => some ⟨[(0, CharSet.maxCode)]⟩
    | "assigned" => (category? "cn").map CharSet.compl
    | "ascii" => some asciiChars
    | _ => (category? key).or (script? key)

/-- The class called `name` among classes with names. -/
def classIn? (classes : List (List String × CharSet)) (name : String) : Option CharSet :=
  (classes.find? (·.1.contains name)).map (·.2)

/-- The characters that a property class asks for. -/
def queriedSet? : PropertyQuery → Option CharSet
  | .name s => namedSet? s
  | .value property value =>
    match looseName property with
    | "gc" | "generalcategory" =>
      match looseName value with
      | "any" | "assigned" | "ascii" => namedSet? value
      | key => category? key
    | "sc" | "script" => script? (looseName value)
    | "scx" | "scriptextensions" => scriptExtension? (looseName value)
    | "age" => age? (looseName value)
    | "gcb" | "graphemeclusterbreak" => classIn? Breaking.graphemeBreaks (looseName value)
    | "wb" | "wordbreak" => classIn? Breaking.wordBreaks (looseName value)
    | "sb" | "sentencebreak" => classIn? Breaking.sentenceBreaks (looseName value)
    | _ => none

/-! ## Bracketed classes -/

/-- How two sets are combined. -/
def ClassOp.apply : ClassOp → CharSet → CharSet → CharSet
  | .inter => CharSet.inter
  | .diff => CharSet.diff
  | .symmDiff => CharSet.symmDiff

mutual

/-- The characters of what stands inside brackets. Without Unicode there are no properties and no
characters beyond ASCII. -/
def ClassSet.set? (f : Flags) : ClassSet → Option CharSet
  | .union items => itemsSet? f items
  | .literal c => if f.unicode || c.toNat < 128 then some (.single c) else none
  | .range a b => if f.unicode || b.toNat < 128 then some (.between a b) else none
  | .ascii name negated => some (f.negate negated (f.fold (asciiClass name)))
  | .property query negated =>
    if f.unicode then (queriedSet? query).map fun s => f.negate negated (f.fold s) else none
  | .shorthand s negated => some (f.negate negated (shorthandSet f s))
  | .bracketed negated set => (set.set? f).map fun s => f.negate negated (f.fold s)
  | .op kind left right =>
    (left.set? f).bind fun l => (right.set? f).map fun r => kind.apply (f.fold l) (f.fold r)

/-- The characters of any of the members. -/
def itemsSet? (f : Flags) : List ClassSet → Option CharSet
  | [] => some .empty
  | c :: cs => (c.set? f).bind fun s => (itemsSet? f cs).map s.union

end

end LuaAtlas.Pattern
