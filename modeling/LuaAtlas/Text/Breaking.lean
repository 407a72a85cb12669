/-
Where text may be divided: the classes of characters that decide on the borders of user-perceived
characters, of words and of sentences. Names are in lower case without blanks, hyphens and
underscores.
-/
import LuaAtlas.Text.Property
import LuaAtlas.Text.Script

namespace LuaAtlas.Text.Breaking

/-- The characters of the script called `name`. -/
def script (name : String) : CharSet := (script? name).getD .empty

/-- The set of one code point. -/
def code (n : Nat) : CharSet := ⟨[(n, n)]⟩

/-! ## Sets that several divisions share -/

/-- Carriage return. -/
def carriageReturn : CharSet := code 0x0d

/-- Line feed. -/
def lineFeed : CharSet := code 0x0a

/-- The joiner that makes one picture out of two. -/
def joiner : CharSet := code 0x200d

/-- The letters of flags. -/
def flagLetters : CharSet := listed "ri"

/-- Marks that extend a character. -/
def extending : CharSet := listed "grext"

/-- Signs that stand before the number they span. -/
def numberSigns : CharSet := listed "pcm"

/-- The abbreviation mark, which opens words and not numbers. -/
def abbreviationMark : CharSet := code 0x70f

/-- Digits, the decimal separator of Arabic numbers, and the signs that stand before a number. -/
def numeric : CharSet :=
  ((ofCategories ["nd"]).union (code 0x66b)).union (numberSigns.diff abbreviationMark)

/-! ## User-perceived characters -/

/-- Characters that go with the one after them. -/
def prepended : CharSet := numberSigns.union
  ⟨[(0xd4e, 0xd4e), (0x111c2, 0x111c3), (0x113d1, 0x113d1), (0x1193f, 0x1193f), (0x11941, 0x11941),
    (0x11a3a, 0x11a3a), (0x11a84, 0x11a89), (0x11d46, 0x11d46), (0x11f02, 0x11f02)]⟩

/-- Characters that go with the one before them without a place of their own. -/
def graphemeExtend : CharSet := extending.union (listed "emod")

/-- Controls, formats and the like. -/
def graphemeControl : CharSet :=
  let controls := (ofCategories ["zl", "zp", "cc", "cf"]).union ((ofCategories ["cn"]).inter (listed "di"))
  controls.diff <| ((carriageReturn.union lineFeed).union ⟨[(0x200c, 0x200d)]⟩).union
    (prepended.union graphemeExtend)

/-- Spacing marks that nevertheless stand alone. -/
def loneMarks : CharSet :=
  ⟨[(0x102b, 0x102c), (0x1038, 0x1038), (0x1062, 0x1064), (0x1067, 0x106d), (0x1083, 0x1083),
    (0x1087, 0x108c), (0x108f, 0x108f), (0x109a, 0x109c), (0x1a61, 0x1a61), (0x1a63, 0x1a64),
    (0xaa7b, 0xaa7b), (0xaa7d, 0xaa7d), (0x11720, 0x11721)]⟩

/-- Marks with a place of their own, and two vowel signs that are used like them. -/
def spacingMark : CharSet :=
  (((ofCategories ["mc"]).diff loneMarks).union ⟨[(0xe33, 0xe33), (0xeb3, 0xeb3)]⟩).diff graphemeExtend

/-- The syllables that have no final consonant: every twenty-eighth. -/
def openSyllables : CharSet := ⟨(List.range 399).map fun i => (0xac00 + 28 * i, 0xac00 + 28 * i)⟩

/-- The syllables that have a final consonant. -/
def closedSyllables : CharSet :=
  ⟨(List.range 399).map fun i => (0xac00 + 28 * i + 1, 0xac00 + 28 * i + 27)⟩

/-- The classes for user-perceived characters, by their names. -/
def graphemeBreaks : List (List String × CharSet) := [
  (["cn", "control"], graphemeControl),
  (["cr"], carriageReturn),
  (["ex", "extend"], graphemeExtend),
  (["l"], ⟨[(0x1100, 0x115f), (0xa960, 0xa97c)]⟩),
  (["lf"], lineFeed),
  (["lv"], openSyllables),
  (["lvt"], closedSyllables),
  (["pp", "prepend"], prepended),
  (["ri", "regionalindicator"], flagLetters),
  (["sm", "spacingmark"], spacingMark),
  (["t"], ⟨[(0x11a8, 0x11ff), (0xd7cb, 0xd7fb)]⟩),
  (["v"], ⟨[(0x1160, 0x11a7), (0xd7b0, 0xd7c6), (0x16d63, 0x16d63), (0x16d67, 0x16d6a)]⟩),
  (["zwj"], joiner)]

/-! ## Words -/

/-- What continues a word without being part of it. -/
def wordExtend : CharSet := (extending.union (ofCategories ["mc"])).union (listed "emod")

/-- Formats, but for those that divide or join. -/
def wordFormat : CharSet :=
  (((ofCategories ["cf"]).diff ⟨[(0x200b, 0x200d)]⟩).diff numberSigns).diff wordExtend

/-- Katakana with the marks that repeat, lengthen and voice it. -/
def katakana : CharSet := (script "kana").union
  ⟨[(0x3031, 0x3035), (0x309b, 0x309c), (0x30a0, 0x30a0), (0x30fc, 0x30fc), (0xff70, 0xff70)]⟩

/-- Hebrew letters. -/
def hebrewLetter : CharSet := (script "hebr").inter (ofCategories ["lo"])

/-- Signs that count as letters of words. -/
def letterLike : CharSet :=
  ⟨[(0x2c2, 0x2c5), (0x2d2, 0x2d7), (0x2de, 0x2df), (0x2e5, 0x2eb), (0x2ed, 0x2ed), (0x2ef, 0x2ff),
    (0x55a, 0x55c), (0x55e, 0x55e), (0x58a, 0x58a), (0x5f3, 0x5f3), (0x70f, 0x70f), (0xa708, 0xa716),
    (0xa720, 0xa721), (0xa789, 0xa78a), (0xab5b, 0xab5b)]⟩

/-- Letters of scripts that do not put blanks between words. -/
def unspaced : CharSet :=
  .tidy ⟨["thai", "laoo", "mymr", "khmr", "tale", "talu", "lana", "tavt", "ahom"].flatMap fun n =>
    (script n).spans⟩

/-- Letters of the scripts that put blanks between words. -/
def spacedLetter : CharSet :=
  let others := (((listed "ideo").union katakana).union (unspaced.union (script "hira"))).union
    (wordExtend.union hebrewLetter)
  (alphabetic.union letterLike).diff others

/-- The classes for words, by their names. -/
def wordBreaks : List (List String × CharSet) := [
  (["le", "aletter"], spacedLetter),
  (["cr"], carriageReturn),
  (["dq", "doublequote"], code 0x22),
  (["extend"], wordExtend),
  (["ex", "extendnumlet"], (ofCategories ["pc"]).union (code 0x202f)),
  (["fo", "format"], wordFormat),
  (["hl", "hebrewletter"], hebrewLetter),
  (["ka", "katakana"], katakana),
  (["lf"], lineFeed),
  (["ml", "midletter"],
    ⟨[(0x3a, 0x3a), (0xb7, 0xb7), (0x387, 0x387), (0x55f, 0x55f), (0x5f4, 0x5f4), (0x2027, 0x2027),
      (0xfe13, 0xfe13), (0xfe55, 0xfe55), (0xff1a, 0xff1a)]⟩),
  (["mn", "midnum"],
    ⟨[(0x2c, 0x2c), (0x3b, 0x3b), (0x37e, 0x37e), (0x589, 0x589), (0x60c, 0x60d), (0x66c, 0x66c),
      (0x7f8, 0x7f8), (0x2044, 0x2044), (0xfe10, 0xfe10), (0xfe14, 0xfe14), (0xfe50, 0xfe50),
      (0xfe54, 0xfe54), (0xff0c, 0xff0c), (0xff1b, 0xff1b)]⟩),
  (["mb", "midnumlet"],
    ⟨[(0x2e, 0x2e), (0x2018, 0x2019), (0x2024, 0x2024), (0xfe52, 0xfe52), (0xff07, 0xff07),
      (0xff0e, 0xff0e)]⟩),
  (["nl", "newline"], ⟨[(0x0b, 0x0c), (0x85, 0x85), (0x2028, 0x2029)]⟩),
  (["nu", "numeric"], numeric),
  (["ri", "regionalindicator"], flagLetters),
  (["sq", "singlequote"], code 0x27),
  (["wsegspace"],
    ⟨[(0x20, 0x20), (0x1680, 0x1680), (0x2000, 0x2006), (0x2008, 0x200a), (0x205f, 0x205f),
      (0x3000, 0x3000)]⟩),
  (["zwj"], joiner)]

/-! ## Sentences -/

/-- What continues a sentence without being part of it. -/
def sentenceExtend : CharSet := (extending.union (ofCategories ["mc"])).union joiner

/-- Formats, but for the signs of numbers. -/
def sentenceFormat : CharSet :=
  ((ofCategories ["cf"]).diff (numberSigns.diff abbreviationMark)).diff sentenceExtend

/-- Lower case, without the letters that have an upper case only for headings. -/
def sentenceLower : CharSet :=
  (lowercase.diff extending).diff ⟨[(0x10d0, 0x10fa), (0x10fd, 0x10ff)]⟩

/-- Upper and title case, without the letters that only headings use. -/
def sentenceUpper : CharSet :=
  ((ofCategories ["lt"]).union uppercase).diff ⟨[(0x1c90, 0x1cba), (0x1cbd, 0x1cbf)]⟩

/-- The remaining letters. -/
def sentenceLetter : CharSet :=
  (alphabetic.union (code 0x5f3)).diff ((sentenceLower.union sentenceUpper).union sentenceExtend)

/-- Full stops. -/
def fullStop : CharSet :=
  ⟨[(0x2e, 0x2e), (0x2024, 0x2024), (0xfe52, 0xfe52), (0xff0e, 0xff0e)]⟩

/-- The other marks that end a sentence. -/
def sentenceEnd : CharSet := (listed "sterm").diff fullStop

/-- Marks after which a sentence goes on. -/
def continuing : CharSet :=
  ⟨[(0x2c, 0x2d), (0x3a, 0x3b), (0x37e, 0x37e), (0x55d, 0x55d), (0x60c, 0x60d), (0x7f8, 0x7f8),
    (0x1802, 0x1802), (0x1808, 0x1808), (0x2013, 0x2014), (0x3001, 0x3001), (0xfe10, 0xfe11),
    (0xfe13, 0xfe14), (0xfe31, 0xfe32), (0xfe50, 0xfe51), (0xfe54, 0xfe55), (0xfe58, 0xfe58),
    (0xfe63, 0xfe63), (0xff0c, 0xff0d), (0xff1a, 0xff1b), (0xff64, 0xff64)]⟩

/-- Quotation marks that do not say whether they open or close. -/
def undirected : CharSet :=
  ⟨[(0x22, 0x22), (0x27, 0x27), (0x275b, 0x2760), (0x2e00, 0x2e01), (0x2e06, 0x2e08), (0x2e0b, 0x2e0b),
    (0x1f676, 0x1f678)]⟩

/-- Brackets and quotation marks. -/
def closing : CharSet :=
  ((ofCategories ["ps", "pe", "pi", "pf"]).union undirected).diff (fullStop.union sentenceEnd)

/-- Line and paragraph separators. -/
def separator : CharSet := ⟨[(0x85, 0x85), (0x2028, 0x2029)]⟩

/-- The classes for sentences, by their names. -/
def sentenceBreaks : List (List String × CharSet) := [
  (["at", "aterm"], fullStop),
  (["cl", "close"], closing),
  (["cr"], carriageReturn),
  (["ex", "extend"], sentenceExtend),
  (["fo", "format"], sentenceFormat),
  (["lf"], lineFeed),
  (["lo", "lower"], sentenceLower),
  (["nu", "numeric"], numeric.union (code 0x66c)),
  (["le", "oletter"], sentenceLetter),
  (["sc", "scontinue"], continuing),
  (["se", "sep"], separator),
  (["sp"], ((whiteSpace.diff separator).diff carriageReturn).diff lineFeed),
  (["st", "sterm"], sentenceEnd),
  (["up", "upper"], sentenceUpper)]

end LuaAtlas.Text.Breaking
