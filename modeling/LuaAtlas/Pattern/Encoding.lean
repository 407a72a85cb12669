/-
The bytes of characters. A matcher reads bytes, so a set of characters becomes a list of blocks: a
block gives a range of values for each byte of an encoding, and the encodings of the set are those
that lie in one of the blocks.
-/
import LuaAtlas.Text.CharSet

namespace LuaAtlas.Pattern

open LuaAtlas.Text

/-- The bytes that encode a code point. -/
def encoding (n : Nat) : List Nat :=
  if n < 0x80 then [n]
  else if n < 0x800 then [0xc0 + n / 0x40, 0x80 + n % 0x40]
  else if n < 0x10000 then [0xe0 + n / 0x1000, 0x80 + n / 0x40 % 0x40, 0x80 + n % 0x40]
  else [0xf0 + n / 0x40000, 0x80 + n / 0x1000 % 0x40, 0x80 + n / 0x40 % 0x40, 0x80 + n % 0x40]

/-- The number of bytes that encode characters. -/
def encodedSize (cs : List Char) : Nat := cs.foldl (fun n c => n + c.utf8Size) 0

/-- A range of values for each byte of an encoding. -/
abbrev Block := List (Nat × Nat)

namespace Block

/-- The least value of a byte that does not open an encoding. -/
def least : Nat := 0x80

/-- The greatest value of a byte that does not open an encoding. -/
def greatest : Nat := 0xbf

/-- All values of the given number of bytes that do not open an encoding. -/
def full (n : Nat) : Block := List.replicate n (least, greatest)

/-- The blocks of all encodings from the given bytes on. -/
def startingAt : List Nat → List Block
  | [] => [[]]
  | b :: bs =>
    if bs.all (· = least) then [(b, greatest) :: full bs.length]
    else (startingAt bs).map ((b, b) :: ·) ++
      (if b < greatest then [(b + 1, greatest) :: full bs.length] else [])

/-- The blocks of all encodings up to the given bytes. -/
def endingAt : List Nat → List Block
  | [] => [[]]
  | b :: bs =>
    if bs.all (· = greatest) then [(least, b) :: full bs.length]
    else (if least < b then [(least, b - 1) :: full bs.length] else []) ++
      (endingAt bs).map ((b, b) :: ·)

/-- The blocks of all encodings between two of the same length. -/
def between : List Nat → List Nat → List Block
  | a :: as, b :: bs =>
    if a = b then (between as bs).map ((a, b) :: ·)
    else
      let opens := as.all (· = least)
      let closes := bs.all (· = greatest)
      let lo := if opens then a else a + 1
      let hi := if closes then b else b - 1
      (if opens then [] else (startingAt as).map ((a, a) :: ·)) ++
        (if lo ≤ hi then [(lo, hi) :: full as.length] else []) ++
        (if closes then [] else (endingAt bs).map ((b, b) :: ·))
  | _, _ => [[]]

/-- The code points whose encodings have one length, without those that are no characters. -/
def bands : List (Nat × Nat) :=
  [(0, 0x7f), (0x80, 0x7ff), (0x800, 0xd7ff), (0xe000, 0xffff), (0x10000, 0x10ffff)]

/-- The blocks of a set of characters, in the order of the characters. -/
def ofSet (s : CharSet) : List Block :=
  s.spans.flatMap fun (lo, hi) => bands.flatMap fun (first, last) =>
    if max lo first ≤ min hi last then between (encoding (max lo first)) (encoding (min hi last))
    else []

end Block

/-- Blocks by their beginnings: a range of values of the next byte, with what may follow it and with
the other ranges of that byte. -/
inductive ByteTree
  | none
  | range (first last : Nat) (below next : ByteTree)
deriving Repr, Inhabited

namespace ByteTree

/-- The tree with a block before all others; it shares ranges with the first of them. -/
def push : Block → ByteTree → ByteTree
  | [], t => t
  | (lo, hi) :: rest, .range first last below next =>
    if lo = first && hi = last then .range first last (push rest below) next
    else .range lo hi (push rest .none) (.range first last below next)
  | (lo, hi) :: rest, .none => .range lo hi (push rest .none) .none

/-- The tree of blocks in order. -/
def ofBlocks (blocks : List Block) : ByteTree := blocks.foldr push .none

end ByteTree

end LuaAtlas.Pattern
