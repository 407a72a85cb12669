/-
The characters of the latest edition of the standard. Patterns and annotations go by the edition
that the tables of categories, scripts and properties describe; whether a query has an uppercase
letter, which characters a group name may have and which characters a message escapes go by the
edition after it, so what that one adds is listed here.
-/
import LuaAtlas.Text.Letter
import LuaAtlas.Text.Property

namespace LuaAtlas.Text.Latest

/-- The characters that are new in the latest edition. -/
def added : CharSet :=
  .ofTable [
    "88f 0 3cc 0 7f 0 df2 e 2 b 5d5 0 ad4 0 7c37 1 2 0 1 0 1c 0 53d1 f 1bd 1 36 6 b71 19 56b 2",
    "8 8 21 1 c64 7 248 2b 4 9 50b6 18 2 18 11e 4 1801 7 509 15 61 72 3f07 2 1bd 16 f 10 17cf",
    "1e 1 15 8 1 fd8 0 9e 3 155 8 17b 3 32 0 3 0 39 0 4 0 1c 0 4 0 10a 0 bb3f 5 1762 b 5502",
    "10c9"]

/-- The new uppercase letters. -/
def addedUppercase : CharSet :=
  .ofTable [
    "a7ce 0 3 0 1 0 c6cb 18"]

/-- The new alphabetic characters. -/
def addedAlphabetic : CharSet :=
  .ofTable [
    "88f 0 3cc 0 7f 0 9af1 1 2 0 1 0 1c 0 614e 19 56b 2 32 1 c64 7 248 2b 50c4 18 2 18 11e 4",
    "1801 7 509 15 61 72 58cd 1e 1 15 8 1 d03a 5 1762 b 5502 10c9"]

/-- The new numbers. -/
def addedNumbers : CharSet :=
  .ofTable [
    "11de0 9 520a 2"]

/-- The new marks that extend the character before them. -/
def addedExtending : CharSet :=
  .ofTable [
    "1acf e 2 b f40e 1 c64 0 1 2 1 0 cb7c 0 2 0 7 1 5 0"]

/-- Whether `c` is an uppercase letter. -/
def isUppercase (c : Char) : Bool := uppercase.contains c || addedUppercase.contains c

/-- Whether `c` is alphabetic. -/
def isAlphabetic (c : Char) : Bool := alphabetic.contains c || addedAlphabetic.contains c

/-- The numbers of the tables. -/
def numbers : CharSet := ofCategories ["n"]

/-- Whether `c` is a number or a digit of some script. -/
def isNumeric (c : Char) : Bool := numbers.contains c || addedNumbers.contains c

/-- Characters that show nothing of their own: controls, formats, private and unassigned characters,
separators, and those that the standard lets a display leave out. -/
def blank : CharSet := (ofCategories ["cc", "cf", "co", "cn", "zl", "zp", "zs"]).union (listed "di")

/-- Marks that extend the character before them. -/
def extendingMarks : CharSet := (listed "grext").inter (ofCategories ["m"])

/-- Whether `c` shows nothing of its own or is a mark that extends the character before it. -/
def isUnseen (c : Char) : Bool :=
  (c ≠ ' ' && blank.contains c && !added.contains c) || extendingMarks.contains c ||
    addedExtending.contains c

end LuaAtlas.Text.Latest
