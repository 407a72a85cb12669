/-
The four ways to quote a text in TOML: between double quotes with escapes, between single quotes as it
is, and both over several lines between triple quotes.
-/
import LuaAtlas.Text.CharSet
import LuaAtlas.Text.Digit

namespace LuaAtlas.Toml

open LuaAtlas.Text

/-- Whether a character may stand in comments and quoted texts: no control character but the tab. -/
def isPlain (c : Char) : Bool := c = '\t' || (' ' ≤ c && c ≠ '\x7f')

/-- Whether `c` is a blank within a line. -/
def isSpace (c : Char) : Bool := c = ' ' || c = '\t'

/-! ## Escapes -/

/-- The character that hexadecimal digits stand for; surrogates stand for none. -/
def charOfHex? (digits : List Char) : Option Char :=
  let n := digits.foldl (fun n c => 16 * n + CharSet.hexDigit c) 0
  if digits.all isHexDigit && (n < 0xD800 || (0xDFFF < n && n < 0x110000)) then some (Char.ofNat n) else none

/-- The character of an escape, given by what follows the backslash, and the text behind it. -/
def escaped? : List Char → Option (Char × List Char)
  | 'b' :: cs => some ('\x08', cs)
  | 't' :: cs => some ('\t', cs)
  | 'n' :: cs => some ('\n', cs)
  | 'f' :: cs => some ('\x0c', cs)
  | 'r' :: cs => some ('\r', cs)
  | 'e' :: cs => some ('\x1b', cs)
  | '"' :: cs => some ('"', cs)
  | '\\' :: cs => some ('\\', cs)
  | 'x' :: cs => (charOfHex? (cs.take 2)).bind fun c => if cs.length < 2 then none else some (c, cs.drop 2)
  | 'u' :: cs => (charOfHex? (cs.take 4)).bind fun c => if cs.length < 4 then none else some (c, cs.drop 4)
  | 'U' :: cs => (charOfHex? (cs.take 8)).bind fun c => if cs.length < 8 then none else some (c, cs.drop 8)
  | _ => none

/-- How many characters of an escape follow the backslash. -/
def escapeLength : List Char → Nat
  | 'x' :: _ => 3
  | 'u' :: _ => 5
  | 'U' :: _ => 9
  | _ => 1

/-! ## One line -/

/-- Puts a character in front of a text that has been read. -/
def consRead (c : Char) (read : List Char × List Char) : List Char × List Char := (c :: read.1, read.2)

/-- Reads to the closing double quote; `skip` characters belong to an escape that has been read. The
second part is the text behind the quote. -/
def readBasic : Nat → List Char → Option (List Char × List Char)
  | _, [] => none
  | skip + 1, _ :: cs => readBasic skip cs
  | 0, '"' :: cs => some ([], cs)
  | 0, '\\' :: cs => do
    let (c, _) ← escaped? cs
    return consRead c (← readBasic (escapeLength cs) cs)
  | 0, c :: cs => if isPlain c then (readBasic 0 cs).map (consRead c) else none

/-- Reads to the closing single quote. -/
def readLiteral : List Char → Option (List Char × List Char)
  | [] => none
  | '\'' :: cs => some ([], cs)
  | c :: cs => if isPlain c then (readLiteral cs).map (consRead c) else none

/-! ## Several lines -/

/-- Drops a line end right behind the opening quotes. -/
def dropLineEnd : List Char → List Char
  | '\n' :: cs => cs
  | '\r' :: '\n' :: cs => cs
  | cs => cs

/-- Whether a backslash ends its line: only blanks stand between it and the line end. -/
def endsLine (cs : List Char) : Bool :=
  match cs.dropWhile isSpace with
  | '\n' :: _ | '\r' :: '\n' :: _ => true
  | _ => false

/-- Up to two quotes that stand before the closing three belong to the text. -/
def closing? (quote : Char) : List Char → Option (List Char × List Char)
  | a :: b :: c :: cs =>
    if a = quote && b = quote && c = quote then
      match cs with
      | d :: e :: rest =>
        if d = quote && e = quote then some ([quote, quote], rest)
        else if d = quote then some ([quote], e :: rest)
        else some ([], cs)
      | [d] => if d = quote then some ([quote], []) else some ([], [d])
      | [] => some ([], [])
    else none
  | _ => none

/-- What is to be done with the next characters of a text over several lines. -/
inductive Pending
  /-- Take them. -/
  | take
  /-- Drop so many, which belong to an escape. -/
  | skip (n : Nat)
  /-- Drop blanks and line ends behind a backslash at the end of a line. -/
  | trim
deriving DecidableEq, Repr

/-- Reads to the closing triple double quotes. -/
def readLong : Pending → List Char → Option (List Char × List Char)
  | _, [] => none
  | .skip (n + 1), _ :: cs => readLong (if n = 0 then .take else .skip n) cs
  | pending, c :: cs =>
    if pending = .trim && (isSpace c || c = '\n' || (c = '\r' && cs.head? = some '\n')) then readLong .trim cs
    else
      match closing? '"' (c :: cs) with
      | some done => some done
      | none =>
        if c = '\\' then
          if endsLine cs then readLong .trim cs
          else do
            let (e, _) ← escaped? cs
            return consRead e (← readLong (.skip (escapeLength cs)) cs)
        else if isPlain c || c = '\n' || (c = '\r' && cs.head? = some '\n') then
          (readLong .take cs).map (consRead c)
        else none

/-- Reads to the closing triple single quotes. -/
def readLongLiteral : List Char → Option (List Char × List Char)
  | [] => none
  | c :: cs =>
    match closing? '\'' (c :: cs) with
    | some done => some done
    | none =>
      if isPlain c || c = '\n' || (c = '\r' && cs.head? = some '\n') then
        (readLongLiteral cs).map (consRead c)
      else none

/-- Reads a quoted text, and gives it with what follows it. -/
def readQuoted : List Char → Option (String × List Char)
  | '"' :: '"' :: '"' :: cs => (readLong .take (dropLineEnd cs)).map fun (s, rest) => (String.ofList s, rest)
  | '\'' :: '\'' :: '\'' :: cs => (readLongLiteral (dropLineEnd cs)).map fun (s, rest) => (String.ofList s, rest)
  | '"' :: cs => (readBasic 0 cs).map fun (s, rest) => (String.ofList s, rest)
  | '\'' :: cs => (readLiteral cs).map fun (s, rest) => (String.ofList s, rest)
  | _ => none

end LuaAtlas.Toml
