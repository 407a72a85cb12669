/-
Sets of characters as closed ranges of code points: membership, the set operations that character
classes use, and the reader for the compact tables of the character properties.
-/

namespace LuaAtlas.Text

/-- A set of code points, given by the closed ranges `(first, last)` that make it up. -/
structure CharSet where
  spans : List (Nat × Nat)
deriving DecidableEq, Repr, Inhabited

namespace CharSet

/-- The set without members. -/
def empty : CharSet := ⟨[]⟩

/-- The set of one character. -/
def single (c : Char) : CharSet := ⟨[(c.toNat, c.toNat)]⟩

/-- The characters from `a` to `b`. -/
def between (a b : Char) : CharSet := ⟨[(a.toNat, b.toNat)]⟩

/-- Whether the code point `n` is a member. -/
def hasCode (s : CharSet) (n : Nat) : Bool := s.spans.any fun (lo, hi) => lo ≤ n && n ≤ hi

/-- Whether `c` is a member. -/
def contains (s : CharSet) (c : Char) : Bool := s.hasCode c.toNat

/-- The greatest code point. -/
def maxCode : Nat := 0x10FFFF

/-- Joins the range from `lo` to `hi` with those after it that overlap or touch it, in a list sorted
by the first member. -/
def mergeFrom (lo hi : Nat) : List (Nat × Nat) → List (Nat × Nat)
  | [] => [(lo, hi)]
  | (lo', hi') :: rest =>
    if lo' ≤ hi + 1 then mergeFrom lo (max hi hi') rest else (lo, hi) :: mergeFrom lo' hi' rest

/-- Joins ranges that overlap or touch, in a list sorted by the first member. -/
def merge : List (Nat × Nat) → List (Nat × Nat)
  | [] => []
  | (lo, hi) :: rest => mergeFrom lo hi rest

/-- The same set with its ranges sorted, disjoint and apart from each other. -/
def tidy (s : CharSet) : CharSet :=
  ⟨merge (s.spans.mergeSort fun a b => decide (a.1 ≤ b.1))⟩

/-- The members of either set. -/
def union (a b : CharSet) : CharSet := tidy ⟨a.spans ++ b.spans⟩

/-- The gaps between sorted disjoint ranges, from `n` on. -/
def gaps (n : Nat) : List (Nat × Nat) → List (Nat × Nat)
  | [] => if n ≤ maxCode then [(n, maxCode)] else []
  | (lo, hi) :: rest => if n < lo then (n, lo - 1) :: gaps (hi + 1) rest else gaps (hi + 1) rest

/-- The code points outside the set. -/
def compl (s : CharSet) : CharSet := ⟨gaps 0 s.tidy.spans⟩

/-- What sorted disjoint ranges have in common. -/
def meet : List (Nat × Nat) → List (Nat × Nat) → List (Nat × Nat)
  | [], _ => []
  | _, [] => []
  | (lo, hi) :: as, (lo', hi') :: bs =>
    let rest := if hi < hi' then meet as ((lo', hi') :: bs) else meet ((lo, hi) :: as) bs
    if max lo lo' ≤ min hi hi' then (max lo lo', min hi hi') :: rest else rest
termination_by as bs => as.length + bs.length

/-- The members of both sets. -/
def inter (a b : CharSet) : CharSet := ⟨merge (meet a.tidy.spans b.tidy.spans)⟩

/-- The members of the first set alone. -/
def diff (a b : CharSet) : CharSet := a.inter b.compl

/-- The members of exactly one of the sets. -/
def symmDiff (a b : CharSet) : CharSet := (a.diff b).union (b.diff a)

/-! ## Tables -/

/-- The value of a hexadecimal digit; other characters count as zero. -/
def hexDigit (c : Char) : Nat :=
  if '0' ≤ c ∧ c ≤ '9' then c.toNat - '0'.toNat
  else if 'a' ≤ c ∧ c ≤ 'f' then c.toNat - 'a'.toNat + 10
  else if 'A' ≤ c ∧ c ≤ 'F' then c.toNat - 'A'.toNat + 10
  else 0

/-- The hexadecimal numbers of a text, each ended by a blank or by the end; `n` is the number read
so far. -/
def hexNumbers (n : Nat) : List Char → List Nat
  | [] => [n]
  | ' ' :: cs => n :: hexNumbers 0 cs
  | c :: cs => hexNumbers (16 * n + hexDigit c) cs

/-- Ranges from pairs "codes to skip, codes to add to the first". -/
def spansOfGaps (n : Nat) : List Nat → List (Nat × Nat)
  | skip :: more :: rest => (n + skip, n + skip + more) :: spansOfGaps (n + skip + more + 1) rest
  | _ => []

/-- Reads the lines of a table: pairs of hexadecimal numbers, how many codes to skip and how many
codes the next range has beyond its first. -/
def ofTable (lines : List String) : CharSet :=
  ⟨spansOfGaps 0 (lines.flatMap fun line => hexNumbers 0 line.toList)⟩

end CharSet

end LuaAtlas.Text
