/-
Glob patterns of ignore files, which match whole paths. They go by the bytes of a path: a question mark
takes one byte that is no slash, a star any number of them, and a double star between slashes any number
of directories.
-/
import LuaAtlas.OsText
import LuaAtlas.Pattern

namespace LuaAtlas.Scan

open LuaAtlas.Text LuaAtlas.Pattern

/-- Bytes, each as the character with its number. -/
def byteChars (bytes : OsText) : List Char := bytes.map fun b => Char.ofNat b.toNat

/-- The bytes of a character, each as the character with its number. -/
def charBytes (c : Char) : List Char := byteChars (String.utf8EncodeChar c)

/-- A part of a glob pattern. -/
inductive Glob
  | literal (c : Char)
  /-- A question mark. -/
  | any
  /-- A star. -/
  | run
  /-- A double star with its slash at the beginning. -/
  | anywhere
  /-- A double star between slashes. -/
  | between
  /-- A slash with a double star at the end. -/
  | inside
  | set (negated : Bool) (ranges : List (Char × Char))
  | choice (branches : List (List Glob))
deriving Repr, Inhabited

namespace Glob

/-! ## Reading -/

/-- Why brackets hold no set. -/
inductive SetFault
  | unclosed
  | backwards
deriving DecidableEq, Repr

/-- Reads a set up to its bracket: the ranges read so far, the last one first, whether a dash has begun
a range, and whether this is the first character. The result has the number of characters read. -/
def readSet (ranges : List (Char × Char)) (inRange isFirst : Bool) :
    List Char → Except SetFault (List (Char × Char) × Nat)
  | [] => .error .unclosed
  | c :: cs =>
    let next (ranges : List (Char × Char)) (inRange : Bool) : Except SetFault (List (Char × Char) × Nat) :=
      (readSet ranges inRange false cs).map fun (rs, n) => (rs, n + 1)
    if c = ']' && !isFirst then .ok ((if inRange then ('-', '-') :: ranges else ranges).reverse, 1)
    else if c = '-' && !isFirst && !inRange then next ranges true
    else match inRange, ranges with
      | true, (a, _) :: rest => if c < a then .error .backwards else next ((a, c) :: rest) false
      | _, _ => next ((c, c) :: ranges) false

/-- Reads a set behind its bracket, and gives it with the number of characters read. -/
def readNegatedSet : List Char → Except SetFault (Glob × Nat)
  | [] => .error .unclosed
  | c :: cs =>
    if c = '^' || c = '!' then (readSet [] false true cs).map fun (rs, n) => (.set true rs, n + 1)
    else (readSet [] false true (c :: cs)).map fun (rs, n) => (.set false rs, n)

/-- A group in braces that is still open: what stands before it and its branches so far, both with the
last part first. -/
structure Group where
  before : List Glob
  branches : List (List Glob)

/-- What a double star means: the parts before it, the character before it, the text behind it, and
whether it stands in a group, where an escaped comma or brace before it counts as a slash. The second
part tells whether the slash behind it is taken. -/
def doubleStar (done : List Glob) (previous : Option Char) (rest : List Char) (inGroup : Bool) :
    List Glob × Bool :=
  let replaceLast (g : Glob) : List Glob :=
    match done with
    | .anywhere :: _ | .inside :: _ => done
    | _ :: before => g :: before
    | [] => [g]
  if done.isEmpty then
    match rest with
    | [] => ([.anywhere], false)
    | c :: _ => if c = '/' then ([.anywhere], true) else ([.run], false)
  else if previous ≠ some '/' && !(inGroup && (previous = some ',' || previous = some '\x7b')) then
    (.run :: done, false)
  else match rest with
    | [] => (replaceLast .inside, false)
    | c :: _ =>
      if c = '/' then (replaceLast .between, true)
      else if inGroup && (c = ',' || c = '\x7d') then (replaceLast .inside, false)
      else (.run :: done, false)

/-- Reads a pattern: `skip` characters have been read already, `done` are the parts of the branch so
far, the last one first. A bracket that is not closed stands for itself, as do all after it. -/
def read? (skip : Nat) (previous : Option Char) (plainBracket : Bool) (done : List Glob) (groups : List Group) :
    List Char → Option (List Glob)
  | [] => if groups.isEmpty then some done.reverse else none
  | c :: cs =>
    let go (skip : Nat) (done : List Glob) : Option (List Glob) :=
      read? skip (some c) plainBracket done groups cs
    if skip ≠ 0 then go (skip - 1) done
    else match c with
      | '?' => go 0 (.any :: done)
      | '*' =>
        match cs with
        | '*' :: rest =>
          let (parts, slash) := doubleStar done previous rest (!groups.isEmpty)
          go (if slash then 2 else 1) parts
        | _ => go 0 (.run :: done)
      | '[' =>
        if plainBracket then go 0 (.literal '[' :: done)
        else match readNegatedSet cs with
          | .ok (g, n) => go n (g :: done)
          | .error .backwards => none
          | .error .unclosed => read? 0 (some c) true (.literal '[' :: done) groups cs
      | '\x7b' => read? 0 (some c) plainBracket [] (⟨done, []⟩ :: groups) cs
      | '\x7d' =>
        match groups with
        | [] => none
        | g :: outer =>
          read? 0 (some c) plainBracket (.choice ((done.reverse :: g.branches).reverse) :: g.before) outer cs
      | ',' =>
        match groups with
        | [] => go 0 (.literal ',' :: done)
        | g :: outer => read? 0 (some c) plainBracket [] (⟨g.before, done.reverse :: g.branches⟩ :: outer) cs
      | '\\' =>
        match cs with
        | [] => none
        | d :: _ => go 1 (.literal d :: done)
      | c => go 0 (.literal c :: done)

/-! ## Meaning -/

/-- Any byte but the slash. -/
def noSlash : Regex := .set (CharSet.single '/').compl

/-- Any number of bytes. -/
def anything : Regex := .rep (.set CharSet.empty.compl) 0 none true

/-- The expression of a slash. -/
def slash : Regex := .literal ['/']

/-- The bytes of a range: of characters with several bytes, the last byte of the first one and the first
byte of the last one make the range. -/
def rangeSet (r : Char × Char) : CharSet :=
  if r.1 = r.2 then ⟨(charBytes r.1).map fun b => (b.toNat, b.toNat)⟩
  else
    let first := (charBytes r.1).map Char.toNat
    let last := (charBytes r.2).map Char.toNat
    ⟨(first.getLast?.getD 0, last.head?.getD 0) :: (first.dropLast ++ last.tail).map fun b => (b, b)⟩

mutual

/-- The expression of a part. -/
def regex : Glob → Regex
  | .literal c => .literal (charBytes c)
  | .any => noSlash
  | .run => .rep noSlash 0 none true
  | .anywhere => .choice [.rep slash 0 (some 1) true, .concat [anything, slash]]
  | .between => .choice [slash, .concat [slash, anything, slash]]
  | .inside => .concat [slash, anything]
  | .set negated ranges =>
    let s : CharSet := ⟨ranges.flatMap fun r => (rangeSet r).spans⟩
    .ofSet (if negated then s.compl else s.tidy)
  | .choice branches =>
    match branchRegexes branches with
    | [] => .empty
    | rs => .choice rs

/-- The expressions of the branches that are not empty. -/
def branchRegexes : List (List Glob) → List Regex
  | [] => []
  | [] :: bs => branchRegexes bs
  | (g :: gs) :: bs => .concat (regex g :: regexes gs) :: branchRegexes bs

/-- The expressions of parts. -/
def regexes : List Glob → List Regex
  | [] => []
  | g :: gs => regex g :: regexes gs

end

/-- The expression of a whole pattern: a double star alone takes every path. -/
def wholeRegex : List Glob → Regex
  | [.anywhere] => .concat [.look .textStart, anything, .look .textEnd]
  | gs => .concat ([.look .textStart] ++ regexes gs ++ [.look .textEnd])

/-- The expression of a pattern, to be matched with the bytes of a path. -/
def ofText? (pattern : String) : Option Regex :=
  (read? 0 none false [] [] pattern.toList).map wholeRegex

end Glob

end LuaAtlas.Scan
