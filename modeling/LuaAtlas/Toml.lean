/-
Reading TOML documents: lines with keys and values, headers of tables, comments. A document is read as
a whole or not at all.
-/
import LuaAtlas.Toml.Scalar

namespace LuaAtlas.Toml

open LuaAtlas.Text

/-! ## Space -/

/-- Drops blanks. -/
def dropSpace (cs : List Char) : List Char := cs.dropWhile isSpace

/-- Drops blanks, line ends and comments; `inComment` tells whether a comment has begun. -/
def dropLines (inComment : Bool) : List Char → Option (List Char)
  | [] => some []
  | c :: cs =>
    if c = '\n' then dropLines false cs
    else if c = '\r' then if cs.head? = some '\n' then dropLines inComment cs else none
    else if inComment then if isPlain c then dropLines true cs else none
    else if isSpace c then dropLines false cs
    else if c = '#' then dropLines true cs
    else some (c :: cs)

/-- The text behind the end of a line, where only blanks and a comment may stand before it. -/
def dropLineRest (cs : List Char) : Option (List Char) :=
  match dropSpace cs with
  | [] => some []
  | '\n' :: cs => some ('\n' :: cs)
  | '\r' :: '\n' :: cs => some ('\n' :: cs)
  | '#' :: cs => some ('#' :: cs)
  | _ => none

/-! ## Keys -/

/-- Whether `c` can be part of a key without quotes. -/
def isKeyChar (c : Char) : Bool := c.isAlphanum || c = '_' || c = '-'

/-- Reads one part of a key. -/
def readKeyPart (cs : List Char) : Option (String × List Char) :=
  match cs with
  | '"' :: cs => (readBasic 0 cs).map fun (s, rest) => (String.ofList s, rest)
  | '\'' :: cs => (readLiteral cs).map fun (s, rest) => (String.ofList s, rest)
  | _ =>
    let word := cs.takeWhile isKeyChar
    if word.isEmpty then none else some (String.ofList word, cs.dropWhile isKeyChar)

/-- Reads a key, its parts divided by dots; the first argument bounds the number of parts. -/
def readKey : Nat → List Char → Option (List String × List Char)
  | 0, _ => none
  | n + 1, cs => do
    let (part, rest) ← readKeyPart (dropSpace cs)
    match dropSpace rest with
    | '.' :: more =>
      let (parts, rest) ← readKey n more
      return (part :: parts, rest)
    | rest => return ([part], rest)

/-! ## Values -/

/-- How deeply brackets and braces may nest. -/
def maxDepth : Nat := 80

mutual

/-- Reads a value; `depth` is how many more brackets may open, and the first argument bounds the number
of values. -/
def readValue : Nat → Nat → List Char → Option (Value × List Char)
  | 0, _, _ => none
  | n + 1, depth, cs =>
    match cs with
    | '[' :: cs =>
      if depth = 0 then none
      else do
        let (items, rest) ← readItems n (depth - 1) (← dropLines false cs)
        return (.array items, rest)
    | '\x7b' :: cs =>
      if depth = 0 then none
      else do
        let (pairs, rest) ← readPairs n (depth - 1) (← dropLines false cs)
        return (← inlineTable pairs, rest)
    | '"' :: _ | '\'' :: _ => (readQuoted cs).map fun (s, rest) => (.text s, rest)
    | _ =>
      let (word, rest) := cutWord cs
      (wordValue? word).map (·, rest)

/-- Reads the items of an array up to its bracket; a comma may follow the last one. -/
def readItems : Nat → Nat → List Char → Option (List Value × List Char)
  | 0, _, _ => none
  | n + 1, depth, cs =>
    match cs with
    | ']' :: rest => some ([], rest)
    | _ => do
      let (item, rest) ← readValue n depth cs
      match ← dropLines false rest with
      | ',' :: rest =>
        let (items, rest) ← readItems n depth (← dropLines false rest)
        return (item :: items, rest)
      | ']' :: rest => return ([item], rest)
      | _ => none

/-- Reads the entries of a table up to its brace; a comma may follow the last one. -/
def readPairs : Nat → Nat → List Char → Option (List (List String × Value) × List Char)
  | 0, _, _ => none
  | n + 1, depth, cs =>
    match cs with
    | '\x7d' :: rest => some ([], rest)
    | _ => do
      let (keys, rest) ← readKey cs.length cs
      let rest ← after? '=' (← dropLines false rest)
      let (v, rest) ← readValue n depth (← dropLines false rest)
      match ← dropLines false rest with
      | ',' :: rest =>
        let (pairs, rest) ← readPairs n depth (← dropLines false rest)
        return ((keys, v) :: pairs, rest)
      | '\x7d' :: rest => return ([(keys, v)], rest)
      | _ => none

end

/-! ## Documents -/

/-- The path and the key of a header's parts. -/
def splitHeader? (keys : List String) : Option (List String × String) :=
  keys.getLast?.map (keys.dropLast, ·)

/-- Reads a line that is neither empty nor a comment. -/
def readLine (cs : List Char) : Option (Line × List Char) :=
  match cs with
  | '[' :: '[' :: cs => do
    let (keys, rest) ← readKey cs.length cs
    let rest ← after? ']' (← after? ']' rest)
    let (path, key) ← splitHeader? keys
    return (.elementHeader path key, rest)
  | '[' :: cs => do
    let (keys, rest) ← readKey cs.length cs
    let (path, key) ← splitHeader? keys
    return (.header path key, ← after? ']' rest)
  | _ => do
    let (keys, rest) ← readKey cs.length cs
    let rest := dropSpace (← after? '=' rest)
    let (v, rest) ← readValue (2 * rest.length + 1) maxDepth rest
    return (.entry keys v, rest)

/-- Reads the lines of a document; the first argument bounds their number. -/
def readLines : Nat → List Char → Option (List Line)
  | 0, _ => none
  | n + 1, cs => do
    match ← dropLines false cs with
    | [] => return []
    | cs =>
      let (line, rest) ← readLine cs
      return line :: (← readLines n (← dropLineRest rest))

/-- Drops a byte order mark at the beginning. -/
def dropMark : List Char → List Char
  | c :: cs => if c = '\ufeff' then cs else c :: cs
  | [] => []

/-- The table of a document, if it is well-formed. -/
def parse? (text : String) : Option Entries := do
  let cs := dropMark text.toList
  tableOf [] [] (← readLines (cs.length + 1) cs)

end LuaAtlas.Toml
