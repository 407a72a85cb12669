/-
The reader of search patterns. It accepts exactly the patterns that are well formed; a repetition
without anything to repeat, an unknown escape, an open bracket, a range that runs backwards and the
like are refused.
-/
import LuaAtlas.Pattern.Syntax
import LuaAtlas.Text.Blank
import LuaAtlas.Text.Digit
import LuaAtlas.Text.Latest

namespace LuaAtlas.Pattern

open LuaAtlas.Text

/-- What is left of a pattern, whether blanks in it count, and the group names used so far. -/
structure Input where
  rest : List Char
  spaced : Bool
  names : List String

/-- A reader of patterns, which may refuse. -/
abbrev Read (α : Type) := StateT Input Option α

namespace Read

/-! ## Characters -/

/-- Refuses the pattern. -/
def refuse : Read α := fun _ => none

/-- The next character, left in place. -/
def peek? : Read (Option Char) := return (← get).rest.head?

/-- The next character; the pattern is refused at its end. -/
def here : Read Char := do
  match (← get).rest with
  | c :: _ => return c
  | [] => refuse

/-- Drops the next character. -/
def bump : Read Unit := modify fun i => { i with rest := i.rest.tail }

/-- Drops blanks and comments that run to the end of their line; at most `n` characters. -/
def dropSpace : Nat → List Char → List Char
  | 0, cs => cs
  | _, [] => []
  | n + 1, c :: cs =>
    if isBlank c then dropSpace n cs
    else if c = '#' then dropSpace n ((cs.dropWhile (· ≠ '\n')).drop 1)
    else c :: cs

/-- Drops blanks and comments where they do not count. -/
def bumpSpace : Read Unit := modify fun i =>
  if i.spaced then { i with rest := dropSpace i.rest.length i.rest } else i

/-- Drops the next character and what does not count behind it. -/
def bumpOn : Read Unit := do bump; bumpSpace

/-- Drops `s` if it comes next, and tells so. -/
def takes (s : String) : Read Bool := do
  let i ← get
  if s.toList.isPrefixOf i.rest then
    set { i with rest := i.rest.drop s.length }
    return true
  return false

/-- The first character that is no blank; the first number sign is left out too. -/
def firstSolid? (isMarked : Bool) : List Char → Option Char
  | [] => none
  | c :: cs =>
    if isBlank c then firstSolid? isMarked cs
    else if !isMarked && c = '#' then firstSolid? true cs
    else some c

/-- The character behind the next one. Blanks and the mark of a comment are left out where they do not
count, but the text of the comment is not. -/
def peekOn? : Read (Option Char) := do
  let i ← get
  let rest := i.rest.tail
  return if i.spaced then (firstSolid? false rest).or rest.head? else rest.head?

/-! ## Numbers and escapes -/

/-- The value of hexadecimal digits, if they name a character. -/
def hexChar? (digits : List Char) : Option Char :=
  let n := digits.foldl (fun n c => 16 * n + CharSet.hexDigit c) 0
  if n.isValidChar then some (Char.ofNat n) else none

/-- A given number of hexadecimal digits. -/
def hexDigits : Nat → Read (List Char)
  | 0 => return []
  | n + 1 => do
    let c ← here
    unless isHexDigit c do refuse
    bumpOn
    return c :: (← hexDigits n)

/-- The characters up to a closing brace, which is dropped; at most `n` characters. -/
def braced : Nat → Read (List Char)
  | 0 => refuse
  | n + 1 => do
    bumpSpace
    let c ← here
    if c = '\x7d' then bump; return []
    bump
    return c :: (← braced n)

/-- The character of a hexadecimal escape behind its letter, and whether it stands in braces; `width` is
the number of digits without braces. -/
def hexEscape (width : Nat) : Read (Char × Bool) := do
  bumpOn
  let isBraced := (← here) = '\x7b'
  let digits ← if isBraced then do
      bump
      let ds ← braced (← get).rest.length
      bumpSpace
      unless ds ≠ [] && ds.all isHexDigit do refuse
      pure ds
    else hexDigits width
  match hexChar? digits with
  | some c => return (c, isBraced)
  | none => refuse

/-- Splits a text at the first place where `mark` stands. -/
def splitAt? (mark : List Char) : List Char → Option (List Char × List Char)
  | [] => none
  | c :: cs =>
    if mark.isPrefixOf (c :: cs) then some ([], (c :: cs).drop mark.length)
    else (splitAt? mark cs).map fun (a, b) => (c :: a, b)

/-- The property that a class names in braces, and whether the sign between name and value negates
it. -/
def queryOf (text : List Char) : PropertyQuery × Bool :=
  let value (p : List Char × List Char) : PropertyQuery := .value (String.ofList p.1) (String.ofList p.2)
  match splitAt? ['!', '='] text, splitAt? [':'] text, splitAt? ['='] text with
  | some p, _, _ => (value p, true)
  | none, some p, _ => (value p, false)
  | none, none, some p => (value p, false)
  | none, none, none => (.name (String.ofList text), false)

/-- A property class behind its backslash. -/
def propertyClass : Read (PropertyQuery × Bool) := do
  let negated := (← here) = 'P'
  bumpOn
  let c ← here
  if c = '\x7b' then
    bump
    let (query, swapped) := queryOf (← braced (← get).rest.length)
    return (query, negated != swapped)
  if c = '\\' then refuse
  bumpOn
  return (.name (String.singleton c), negated)

/-- The characters with a meaning of their own. -/
def isMeta (c : Char) : Bool := "\\.+*?()|[]\x7b\x7d^$#&-~".toList.contains c

/-- Whether a backslash before `c` stands for `c` itself. -/
def isPlainEscape (c : Char) : Bool :=
  isMeta c || (c.toNat < 128 && !c.isAlphanum && c ≠ '<' && c ≠ '>')

/-- Whether `c` can stand in the name of a special word boundary. -/
def isBoundaryChar (c : Char) : Bool := c.isAlpha || c = '-'

/-- The letters of a special word boundary; at most `n`. -/
def boundaryName : Nat → Read (List Char)
  | 0 => return []
  | n + 1 => do
    match ← peek? with
    | some c =>
      if isBoundaryChar c then
        bumpOn
        return c :: (← boundaryName n)
      return []
    | none => return []

/-- The boundary behind `\b`: a plain one, or one named in braces. -/
def boundary : Read Assertion := do
  let start ← get
  if (← peek?) ≠ some '\x7b' then return .wordBoundary
  bumpOn
  if !isBoundaryChar (← here) then
    set start
    return .wordBoundary
  let name := String.ofList (← boundaryName (← get).rest.length)
  unless (← peek?) = some '\x7d' do refuse
  bump
  match name with
  | "start" => return .wordStart
  | "end" => return .wordEnd
  | "start-half" => return .wordStartHalf
  | "end-half" => return .wordEndHalf
  | _ => refuse

/-- An escape, from its backslash on. -/
def escape : Read Ast := do
  bump
  let c ← here
  if c.isDigit then refuse
  match c with
  | 'x' =>
    let (v, isBraced) ← hexEscape 2
    return if isBraced then .literal v else .byte v
  | 'u' => return .literal (← hexEscape 4).1
  | 'U' => return .literal (← hexEscape 8).1
  | 'p' | 'P' => let (query, negated) ← propertyClass; return .property query negated
  | 'd' => bump; return .shorthand .digit false
  | 'D' => bump; return .shorthand .digit true
  | 's' => bump; return .shorthand .space false
  | 'S' => bump; return .shorthand .space true
  | 'w' => bump; return .shorthand .word false
  | 'W' => bump; return .shorthand .word true
  | _ =>
    bump
    if isPlainEscape c then return .literal c
    match c with
    | 'a' => return .literal '\x07'
    | 'f' => return .literal '\x0c'
    | 't' => return .literal '\t'
    | 'n' => return .literal '\n'
    | 'r' => return .literal '\r'
    | 'v' => return .literal '\x0b'
    | 'A' => return .assertion .startText
    | 'z' => return .assertion .endText
    | 'b' => return .assertion (← boundary)
    | 'B' => return .assertion .notWordBoundary
    | '<' => return .assertion .wordStart
    | '>' => return .assertion .wordEnd
    | _ => refuse

/-- Decimal digits, at most `n`; what does not count may stand between them. -/
def digits : Nat → Read (List Char)
  | 0 => return []
  | n + 1 => do
    match ← peek? with
    | some c =>
      if isAsciiDigit c then
        bumpOn
        return c :: (← digits n)
      return []
    | none => return []

/-- Drops blanks; at most `n`, each with what does not count behind it. -/
def bumpBlanks : Nat → Read Unit
  | 0 => return
  | n + 1 => do
    if (← peek?).any isBlank then
      bumpOn
      bumpBlanks n

/-- A decimal number with blanks around it. -/
def decimal : Read Nat := do
  modify fun i => { i with rest := i.rest.dropWhile isBlank }
  let digits ← digits (← get).rest.length
  bumpBlanks (← get).rest.length
  let n := digits.foldl (fun n c => 10 * n + (c.toNat - '0'.toNat)) 0
  unless digits ≠ [] && n < 0x100000000 do refuse
  return n

/-- The least and the greatest number of repetitions between braces, from the opening one on. -/
def counts : Read (Nat × Option Nat) := do
  bumpOn
  let min ← decimal
  let max? ← if (← here) = ',' then do
      bumpOn
      if (← here) = '\x7d' then pure none else some <$> decimal
    else pure (some min)
  unless (← here) = '\x7d' do refuse
  bumpOn
  if max?.any (· < min) then refuse
  return (min, max?)

/-! ## Classes -/

/-- The names of ASCII classes. -/
def asciiClassNames : List String :=
  ["alnum", "alpha", "ascii", "blank", "cntrl", "digit", "graph", "lower", "print", "punct", "space",
    "upper", "word", "xdigit"]

/-- An ASCII class such as `[:alpha:]`; nothing is taken if there is none. -/
def asciiClass? : Read (Option ClassSet) := do
  let i ← get
  match i.rest with
  | '[' :: ':' :: cs =>
    let (negated, cs) := match cs with
      | '^' :: cs => (true, cs)
      | cs => (false, cs)
    let name := String.ofList (cs.takeWhile (· ≠ ':'))
    match cs.dropWhile (· ≠ ':') with
    | ':' :: ']' :: rest =>
      if asciiClassNames.contains name then
        set { i with rest := rest }
        return some (.ascii name negated)
      return none
    | _ => return none
  | _ => return none

/-- The characters that can only stand for themselves right behind an opening bracket: hyphens, or
one closing bracket. At most `n` hyphens. -/
def leadingHyphens : Nat → Read (List ClassSet)
  | 0 => return []
  | n + 1 => do
    if (← here) = '-' then
      bumpOn
      return .literal '-' :: (← leadingHyphens n)
    return []

/-- A single member of a class, which may turn out to be the start of a range. -/
def classMember : Read ClassSet := do
  let c ← here
  if c = '\\' then
    match ← escape with
    | .literal c | .byte c => return .literal c
    | .property query negated => return .property query negated
    | .shorthand s negated => return .shorthand s negated
    | _ => refuse
  else
    bump
    return .literal c

/-- A member of a class or a range. -/
def classRange : Read ClassSet := do
  let first ← classMember
  bumpSpace
  let c ← here
  let after ← peekOn?
  if c ≠ '-' || after = some ']' || after = some '-' then return first
  bumpOn
  let _ ← here
  let last ← classMember
  match first, last with
  | .literal a, .literal b => if a ≤ b then return .range a b else refuse
  | _, _ => refuse

/-- What members make, before the operator to their left is applied. -/
def unionOf : List ClassSet → ClassSet
  | [c] => c
  | cs => .union cs

/-- Applies the operator that stands to the left of `right`. -/
def applyOp (left? : Option (ClassSet × ClassOp)) (right : ClassSet) : ClassSet :=
  match left? with
  | some (left, kind) => .op kind left right
  | none => right

mutual

/-- A bracketed class, from its opening bracket on. -/
def bracketed : Nat → Read (Bool × ClassSet)
  | 0 => refuse
  | n + 1 => do
    bumpOn
    let negated := (← here) = '^'
    if negated then bumpOn
    let hyphens ← leadingHyphens n
    let items ← if hyphens = [] && (← here) = ']' then do bumpOn; pure [.literal ']'] else pure hyphens
    let _ ← here
    return (negated, ← classItems n none items)

/-- The members of a class up to its closing bracket: `left?` stands to the left of the last operator,
`items` are the members behind it. -/
def classItems : Nat → Option (ClassSet × ClassOp) → List ClassSet → Read ClassSet
  | 0, _, _ => refuse
  | n + 1, left?, items => do
    bumpSpace
    let c ← here
    let after? := (← get).rest.tail.head?
    let operator? : Option ClassOp :=
      if after? = some c then
        if c = '&' then some .inter else if c = '-' then some .diff
        else if c = '~' then some .symmDiff else none
      else none
    if c = '[' then
      match ← asciiClass? with
      | some cls => classItems n left? (items ++ [cls])
      | none =>
        let (negated, set) ← bracketed n
        classItems n left? (items ++ [.bracketed negated set])
    else if c = ']' then
      bump
      return applyOp left? (unionOf items)
    else
      match operator? with
      | some kind =>
        bump
        bump
        classItems n (some (applyOp left? (unionOf items), kind)) []
      | none => classItems n left? (items ++ [← classRange])

end

/-! ## Groups -/

/-- The flag of a letter. -/
def flag? : Char → Option Flag
  | 'i' => some .ignoreCase
  | 'm' => some .multiLine
  | 's' => some .dotAll
  | 'U' => some .swapGreed
  | 'u' => some .unicode
  | 'R' => some .crlf
  | 'x' => some .spaced
  | _ => none

/-- Flags up to a colon or a closing parenthesis; those behind a hyphen are switched off. Each flag
and the hyphen may stand once, and the hyphen not last. -/
def flags : Nat → Bool → FlagChange → Read FlagChange
  | 0, _, _ => refuse
  | n + 1, on, seen => do
    let c ← here
    if c = ':' || c = ')' then return seen
    if c = '-' then
      unless on do refuse
      bump
      let d ← here
      if d = ':' || d = ')' then refuse
      flags n false seen
    else
      match flag? c with
      | some f =>
        if seen.any (·.1 = f) then refuse
        bump
        flags n on (seen ++ [(f, on)])
      | none => refuse

/-- Whether `c` can stand in the name of a group. -/
def isNameChar (first : Bool) (c : Char) : Bool :=
  c = '_' || Latest.isAlphabetic c ||
    (!first && (c = '.' || c = '[' || c = ']' || Latest.isNumeric c))

/-- The name of a group, up to and with its `>`. -/
def groupName : Read Unit := do
  let i ← get
  let name := i.rest.takeWhile (· ≠ '>')
  let valid := match name with
    | [] => false
    | c :: cs => isNameChar true c && cs.all (isNameChar false)
  let name := String.ofList name
  unless valid && (i.rest.dropWhile (· ≠ '>')) ≠ [] && !i.names.contains name do refuse
  set { i with rest := (i.rest.dropWhile (· ≠ '>')).tail, names := name :: i.names }

/-- How a group opens. -/
inductive Opening
  | change (flags : FlagChange)
  | group (flags : FlagChange) (captures : Bool)

/-- The opening of a group, from its parenthesis on. -/
def opening : Read Opening := do
  bumpOn
  if (← takes "?=") || (← takes "?!") || (← takes "?<=") || (← takes "?<!") then refuse
  if (← takes "?P<") || (← takes "?<") then
    groupName
    return .group [] true
  if ← takes "?" then
    let change ← flags (← get).rest.length.succ true []
    let c ← here
    bump
    if c = ')' then
      if change = [] then refuse
      return .change change
    return .group change false
  return .group [] true

/-! ## Patterns -/

/-- Repeats the last of the parts read so far, which are kept in reverse; a question mark makes the
repetition lazy. -/
def repeatLast (min : Nat) (max? : Option Nat) : List Ast → Read (List Ast)
  | a :: as => do
    unless a.isRepeatable do refuse
    let isLazy := (← peek?) = some '?'
    if isLazy then bump
    return .repetition a min max? (!isLazy) :: as
  | [] => refuse

/-- The branches of a pattern up to a closing parenthesis or the end. `parts` holds the parts of the
current branch in reverse. -/
def branches : Nat → List Ast → Read (List Ast)
  | 0, _ => refuse
  | n + 1, parts => do
    bumpSpace
    match ← peek? with
    | none | some ')' => return [.ofParts parts.reverse]
    | some '|' =>
      bump
      return .ofParts parts.reverse :: (← branches n [])
    | some '(' =>
      match ← opening with
      | .change change =>
        for (f, on) in change do
          if f = .spaced then modify fun i => { i with spaced := on }
        branches n (.flags change :: parts)
      | .group change captures =>
        let before := (← get).spaced
        for (f, on) in change do
          if f = .spaced then modify fun i => { i with spaced := on }
        let inner ← branches n []
        unless (← peek?) = some ')' do refuse
        bump
        modify fun i => { i with spaced := before }
        branches n (.group change captures (.ofBranches inner) :: parts)
    | some '[' =>
      let (negated, set) ← bracketed n
      branches n (.bracketed negated set :: parts)
    | some '?' => bump; branches n (← repeatLast 0 (some 1) parts)
    | some '*' => bump; branches n (← repeatLast 0 none parts)
    | some '+' => bump; branches n (← repeatLast 1 none parts)
    | some '\x7b' =>
      let (min, max?) ← counts
      branches n (← repeatLast min max? parts)
    | some '\\' => branches n ((← escape) :: parts)
    | some '.' => bump; branches n (.dot :: parts)
    | some '^' => bump; branches n (.assertion .startLine :: parts)
    | some '$' => bump; branches n (.assertion .endLine :: parts)
    | some c => bump; branches n (.literal c :: parts)

end Read

/-- The greatest depth to which a pattern may nest. -/
def maxDepth : Nat := 250

/-- Reads a pattern; none when it is not well formed. -/
def read? (pattern : String) : Option Ast := do
  let cs := pattern.toList
  let (branches, left) ← (Read.branches (4 * cs.length + 4) []).run ⟨cs, false, []⟩
  let ast := Ast.ofBranches branches
  if left.rest = [] && ast.depth ≤ maxDepth then some ast else none

end LuaAtlas.Pattern
