/-
Numbers, truth values and points in time of TOML. They are read from a whole word, so that a word with
anything left over is none of them.
-/
import LuaAtlas.Toml.Quoted
import LuaAtlas.Toml.Value

namespace LuaAtlas.Toml

open LuaAtlas.Text

/-! ## Digits -/

/-- The digits of a numeral without the underscores between them; an underscore must have a digit on
either side, and there must be a digit. -/
def digits? (isDigit : Char → Bool) (cs : List Char) : Option (List Char) :=
  let parts := cs.splitOn '_'
  if parts.all fun part => !part.isEmpty && part.all isDigit then some parts.flatten else none

/-- The number that digits stand for. -/
def numberOf (base : Nat) (digits : List Char) : Nat :=
  digits.foldl (fun n c => base * n + CharSet.hexDigit c) 0

/-- Cuts a sign off a numeral, and tells whether it is negative. -/
def cutSign : List Char → Bool × List Char
  | '-' :: cs => (true, cs)
  | '+' :: cs => (false, cs)
  | cs => (false, cs)

/-- The digits of a decimal numeral, which has no zeros in front. -/
def decimal? (cs : List Char) : Option (List Char) := do
  let digits ← digits? isAsciiDigit cs
  if cs.head? = some '0' && cs.length ≠ 1 then none else some digits

/-! ## Integers -/

/-- The integer that a word without a sign stands for in base 16, 8 or 2. -/
def based? : List Char → Option Nat
  | '0' :: 'x' :: cs => (digits? isHexDigit cs).map (numberOf 16)
  | '0' :: 'o' :: cs => (digits? (fun c => '0' ≤ c && c ≤ '7') cs).map (numberOf 8)
  | '0' :: 'b' :: cs => (digits? (fun c => c = '0' || c = '1') cs).map (numberOf 2)
  | _ => none

/-- The integer that a word stands for. Integers take at most 128 bits. -/
def integer? (word : List Char) : Option Int :=
  let (negative, cs) := cutSign word
  let n? : Option Int := (based? word).map Int.ofNat |>.or
    ((decimal? cs).map fun ds => if negative then -(numberOf 10 ds : Int) else numberOf 10 ds)
  n?.filter fun n => -0x80000000000000000000000000000000 ≤ n && n < 0x100000000000000000000000000000000

/-! ## Fractions -/

/-- Whether the number `digits · 10 ^ (exponent - behind)` is beyond the greatest double: that is, at
least half a unit above it. -/
def overflows (digits : List Char) (behind : Nat) (exponent : Int) : Bool :=
  let significant := digits.dropWhile (· = '0')
  let magnitude : Int := significant.length - behind + exponent
  if significant.isEmpty || magnitude < 300 then false
  else if 320 < magnitude then true
  else
    let shift : Int := exponent - behind
    let limit := Nat.pow 2 1024 - Nat.pow 2 970
    let n := numberOf 10 significant
    if 0 ≤ shift then limit ≤ n * Nat.pow 10 shift.toNat else limit * Nat.pow 10 (-shift).toNat ≤ n

/-- The exponent of a fraction: what follows the letter, or nothing. -/
def exponent? : List Char → Option Int
  | [] => some 0
  | _ :: cs =>
    let (negative, ds) := cutSign cs
    (digits? isAsciiDigit ds).map fun ds => if negative then -(numberOf 10 ds : Int) else numberOf 10 ds

/-- Whether a word is a fraction: a decimal numeral with a point and digits behind it, an exponent or
both, or one of the words for infinity and for no number. -/
def isFraction (word : List Char) : Bool :=
  let (_, cs) := cutSign word
  let isExponent (c : Char) : Bool := c = 'e' || c = 'E'
  let front := cs.takeWhile (!isExponent ·)
  let whole := front.takeWhile (· ≠ '.')
  let point := front.dropWhile (· ≠ '.')
  let power := cs.dropWhile (!isExponent ·)
  cs = "inf".toList || cs = "nan".toList ||
    ((!point.isEmpty || !power.isEmpty) &&
      match decimal? whole, (if point.isEmpty then some [] else digits? isAsciiDigit point.tail), exponent? power with
      | some w, some f, some e => !overflows (w ++ f) f.length e
      | _, _, _ => false)

/-! ## Points in time -/

/-- The number written with exactly `n` digits at the front of a text, and the rest. -/
def fixed? (n : Nat) (cs : List Char) : Option (Nat × List Char) :=
  let ds := cs.take n
  if ds.length = n && ds.all isAsciiDigit then some (numberOf 10 ds, cs.drop n) else none

/-- The rest of a text that opens with the given character. -/
def after? (c : Char) : List Char → Option (List Char)
  | d :: cs => if c = d then some cs else none
  | [] => none

/-- The number of days in a month. -/
def daysIn (year month : Nat) : Nat :=
  if month = 2 then
    if year % 4 = 0 && (year % 100 ≠ 0 || year % 400 = 0) then 29 else 28
  else if month = 4 || month = 6 || month = 9 || month = 11 then 30 else 31

/-- What follows a date such as `1979-05-27`. -/
def afterDate? (cs : List Char) : Option (List Char) := do
  let (year, cs) ← fixed? 4 cs
  let (month, cs) ← fixed? 2 (← after? '-' cs)
  let (day, cs) ← fixed? 2 (← after? '-' cs)
  if 1 ≤ month && month ≤ 12 && 1 ≤ day && day ≤ daysIn year month then some cs else none

/-- What follows hours and minutes. -/
def afterMinutes? (cs : List Char) : Option (List Char) := do
  let (hour, cs) ← fixed? 2 cs
  let (minute, cs) ← fixed? 2 (← after? ':' cs)
  if hour < 24 && minute < 60 then some cs else none

/-- What follows seconds such as `00.5`. -/
def afterSeconds? (cs : List Char) : Option (List Char) := do
  let (second, cs) ← fixed? 2 cs
  if 60 < second then none
  else
    match cs with
    | '.' :: rest => if (rest.head?.any isAsciiDigit) then some (rest.dropWhile isAsciiDigit) else none
    | _ => some cs

/-- What follows a time such as `07:32` or `07:32:00.5`. -/
def afterTime? (cs : List Char) : Option (List Char) := do
  match ← afterMinutes? cs with
  | ':' :: rest => afterSeconds? rest
  | rest => some rest

/-- Whether a text is the offset of a time zone, or empty. -/
def isOffset : List Char → Bool
  | [] => true
  | c :: cs => ((c = 'Z' || c = 'z') && cs.isEmpty) || ((c = '+' || c = '-') && afterMinutes? cs = some [])

/-- Whether a word is a date, a time, or a date with a time behind a `T` or a blank. -/
def isMoment (word : List Char) : Bool :=
  afterTime? word = some [] ||
    match afterDate? word with
    | some [] => true
    | some (c :: cs) => (c = 'T' || c = 't' || c = ' ') && (afterTime? cs).any isOffset
    | none => false

/-! ## Words -/

/-- Whether `c` can be part of a word. -/
def isWordChar (c : Char) : Bool :=
  c.isAlphanum || c = '_' || c = '+' || c = '-' || c = '.' || c = ':'

/-- Cuts a word off a text. A date takes the time behind a blank with it. -/
def cutWord (cs : List Char) : List Char × List Char :=
  let word := cs.takeWhile isWordChar
  match cs.dropWhile isWordChar with
  | ' ' :: rest =>
    if afterDate? word = some [] && (fixed? 2 rest).any fun (_, more) => more.head? = some ':' then
      (word ++ ' ' :: rest.takeWhile isWordChar, rest.dropWhile isWordChar)
    else (word, ' ' :: rest)
  | rest => (word, rest)

/-- The value of a word. -/
def wordValue? (word : List Char) : Option Value :=
  if word = "true".toList then some (.bool true)
  else if word = "false".toList then some (.bool false)
  else match integer? word with
    | some n => some (.integer n)
    | none => if isFraction word then some .fraction else if isMoment word then some .moment else none

end LuaAtlas.Toml
