/-
Search patterns: a query is a regular expression that may match anywhere in a name, and a query that
is not a well-formed expression, or one that grows too large, stands for itself. Case counts only if
the query has an uppercase letter.
-/
import LuaAtlas.Pattern.Footprint
import LuaAtlas.Pattern.Matching
import LuaAtlas.Pattern.Reader

namespace LuaAtlas.Pattern

open LuaAtlas.Text

/-! ## From syntax to expressions -/

/-- The condition that an assertion makes under the flags. -/
def lookOf (f : Flags) : Assertion → Look
  | .startLine => if f.multiLine then .lineStart f.crlf else .textStart
  | .endLine => if f.multiLine then .lineEnd f.crlf else .textEnd
  | .startText => .textStart
  | .endText => .textEnd
  | a => .word a (if f.unicode then .unicode else .ascii)

/-- The set of a class; without Unicode it must stay within ASCII. -/
def setOf? (f : Flags) (s : CharSet) : Option Regex :=
  if f.unicode || (s.diff asciiChars).spans = [] then some (.ofSet s) else none

/-- A character, with its other cases if case does not count. -/
def charOf (f : Flags) (c : Char) : Regex :=
  if f.ignoreCase then .ofSet (f.foldChar c) else .literal [c]

mutual

/-- The expression of a pattern that is read under the given flags, and the flags behind it. -/
def regexOf? (f : Flags) : Ast → Option (Regex × Flags)
  | .empty => some (.empty, f)
  | .flags change => some (.empty, f.apply change)
  | .literal c => some (charOf f c, f)
  | .byte c => if f.unicode || c.toNat < 128 then some (charOf f c, f) else none
  | .dot =>
    let ends : CharSet := if f.dotAll then .empty
      else if f.crlf then ⟨[(0x0a, 0x0a), (0x0d, 0x0d)]⟩ else ⟨[(0x0a, 0x0a)]⟩
    if f.unicode then some (.ofSet ends.compl, f) else none
  | .assertion a => some (.look (lookOf f a), f)
  | .property query negated =>
    if f.unicode then (queriedSet? query).map fun s => (.ofSet (f.negate negated (f.fold s)), f)
    else none
  | .shorthand s negated => (setOf? f (f.negate negated (shorthandSet f s))).map (·, f)
  | .bracketed negated set =>
    (set.set? f).bind fun s => (setOf? f (f.negate negated (f.fold s))).map (·, f)
  | .repetition inner min max? greedy =>
    (regexOf? f inner).map fun (r, f) => (.repeating r min max? (greedy != f.swapGreed), f)
  | .group change captures inner =>
    (regexOf? (f.apply change) inner).map fun (r, _) => (if captures then .capture r else r, f)
  | .alternation branches => (regexesOf? f branches).map fun (rs, f) => (.choice rs, f)
  | .concat parts => (regexesOf? f parts).map fun (rs, f) => (.concat rs, f)

/-- The expressions of patterns that are read one after the other. -/
def regexesOf? (f : Flags) : List Ast → Option (List Regex × Flags)
  | [] => some ([], f)
  | a :: as =>
    (regexOf? f a).bind fun (r, f) => (regexesOf? f as).map fun (rs, f) => (r :: rs, f)

end

/-! ## Queries -/

/-- The flags that a pattern starts with. -/
def startFlags (ignoreCase : Bool) : Flags where
  ignoreCase := ignoreCase
  multiLine := false
  dotAll := false
  swapGreed := false
  unicode := true
  crlf := false

/-- The expression of a well-formed pattern of admissible size. -/
def compile? (ignoreCase : Bool) (pattern : String) : Option Regex := do
  let ast ← read? pattern
  let (r, _) ← regexOf? (startFlags ignoreCase) ast
  if r.isAdmissible then some r else none

/-- The expression that matches a text itself, if its size is admissible. -/
def literalRegex? (ignoreCase : Bool) (text : String) : Option Regex :=
  let r := Regex.concat (text.toList.map (charOf (startFlags ignoreCase)))
  if r.isAdmissible then some r else none

/-- The expression of a query; none for a text that is too large even when it stands for itself. -/
def ofQuery? (query : String) : Option Regex :=
  let ignoreCase := !query.toList.any Latest.isUppercase
  (compile? ignoreCase query).or (literalRegex? ignoreCase query)

end LuaAtlas.Pattern
