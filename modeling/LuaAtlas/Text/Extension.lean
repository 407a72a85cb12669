/-
Script extensions: the scripts that write a character, beyond the one it belongs to. A character
that several scripts share belongs to no script of its own, so it no longer counts as common or
inherited once its scripts are listed.
-/
import LuaAtlas.Text.Script

namespace LuaAtlas.Text

/-- The characters that a script shares with others, by the short name of the script. -/
def sharedChars : List (String × CharSet) := [
  ("adlm", .ofTable [
    "61f 0 20 0 1a0e 0 df1 0"]),
  ("aghb", .ofTable [
    "304 0 2c 0 2c 0"]),
  ("arab", .ofTable [
    "60c 0 e 0 3 0 20 0 a a 1a 0 19de 0 df1 0 cefc 1 5a0 1b"]),
  ("armn", .ofTable [
    "308 0"]),
  ("avst", .ofTable [
    "b7 0 2d78 1"]),
  ("beng", .ofTable [
    "2bc 0 694 1 11 1 136a 0 1 0 2 1 1 0 8 0 8 0 2 0 4 0 2 2 8bf9 0"]),
  ("bopo", .ofTable [
    "2c7 0 1 2 d 0 2d27 2 4 9 1 c a 3 2 0 6 0 c3 0 cd49 1 11a 4"]),
  ("bugi", .ofTable [
    "a9cf 0"]),
  ("buhd", .ofTable [
    "1735 1"]),
  ("cakm", .ofTable [
    "9e6 9 650 9"]),
  ("cari", .ofTable [
    "b7 0 1fa2 0 2 0 dd3 0"]),
  ("cher", .ofTable [
    "300 2 1 0 6 1 16 1 b 1"]),
  ("copt", .ofTable [
    "b7 0 248 0 3 1 1 0 6c 1 2aa1 0 d4c8 1b"]),
  ("cpmn", .ofTable [
    "10100 1"]),
  ("cprt", .ofTable [
    "10100 2 4 2c 3 8"]),
  ("cyrl", .ofTable [
    "2bc 0 43 2 1 0 1 0 1 0 2 0 5 0 173 1 1971 0 104a 0"]),
  ("deva", .ofTable [
    "2bc 0 694 1 11 1 136a 26 1 1 3f6 0 873f 9"]),
  ("dogr", .ofTable [
    "964 b 9ec0 9"]),
  ("dupl", .ofTable [
    "b7 0 24f 1 1 0 18 1 2b17 0 18e63 3"]),
  ("elba", .ofTable [
    "b7 0 24d 0"]),
  ("ethi", .ofTable [
    "30e 0"]),
  ("gara", .ofTable [
    "60c 0 e 0 3 0"]),
  ("geor", .ofTable [
    "b7 0 4d1 0 b71 0 f5e 0 dd6 0"]),
  ("glag", .ofTable [
    "b7 0 24b 0 1 0 17e 0 2 0 101 0 b71 0 f5e 0 de8 0 782b 0"]),
  ("gong", .ofTable [
    "b7 0 8ac 1"]),
  ("gonm", .ofTable [
    "964 1"]),
  ("goth", .ofTable [
    "b7 0 24c 1 2 0 28 0"]),
  ("gran", .ofTable [
    "951 1 11 1 280 d 10dc 0 1 1 1e 2 3 1 3f6 0 f24a 0 c94 1 1 0"]),
  ("grek", .ofTable [
    "b7 0 248 1 2 0 1 0 1 0 a 0 2e 0 2 0 2e 0 1a4b 1 29b 0"]),
  ("gujr", .ofTable [
    "951 1 11 1 9eca 9"]),
  ("gukh", .ofTable [
    "965 0"]),
  ("guru", .ofTable [
    "951 1 11 1 9eca 9"]),
  ("hang", .ofTable [
    "3001 2 4 9 1 c 10 0 6 0 c3 0 cd49 1 11a 4"]),
  ("hani", .ofTable [
    "b7 0 2f38 f 1 2 2 0 1 9 1 c a 3 2 0 6 0 4 3 bb 0 94 f 20 25 9 0 30 27 38 30 f b 33 0 58 18",
    "a 4 60 1e 7301 7 573d 1 11a 4 d3fa 11 1ede 1"]),
  ("hano", .ofTable [
    "1735 1"]),
  ("hebr", .ofTable [
    "307 1"]),
  ("hira", .ofTable [
    "3001 2 4 9 1 c 10 5 1 0 4 1 5b 3 3 0 5a 1 cd48 1 11a 4 a 0 2d 1"]),
  ("hung", .ofTable [
    "205a 0 2 0 dd3 0 f 0"]),
  ("java", .ofTable [
    "a9cf 0"]),
  ("kali", .ofTable [
    "a92e 0"]),
  ("kana", .ofTable [
    "305 0 1d 0 2cdd 2 4 9 1 c 10 5 1 0 4 1 5b 3 3 0 5a 1 cd48 1 11a 4 a 0 2d 1"]),
  ("khoj", .ofTable [
    "ae6 9 9d40 9"]),
  ("knda", .ofTable [
    "951 1 11 1 136a 0 1 1 6 0 17 0 1 0 8b3b 5"]),
  ("kthi", .ofTable [
    "966 9 24c1 0 79fe 9"]),
  ("latn", .ofTable [
    "b7 0 204 0 a 0 1 2 1 0 9 0 1 0 26 e 1 1 1 0 f 2 7 1 1 1 26 0 5 0 4 c 115 1 4ca 1 7a8 0 cfc",
    "0 236 0 c0 0 d26 0 78e8 7 226 0"]),
  ("limb", .ofTable [
    "965 0"]),
  ("lina", .ofTable [
    "10107 2c"]),
  ("linb", .ofTable [
    "10100 2 4 2c 3 8"]),
  ("lisu", .ofTable [
    "2bc 0 10 0 2d3c 1"]),
  ("lyci", .ofTable [
    "205a 0"]),
  ("lydi", .ofTable [
    "b7 0 2d79 0"]),
  ("mahj", .ofTable [
    "b7 0 8ac b 9ec0 9"]),
  ("mand", .ofTable [
    "640 0"]),
  ("mani", .ofTable [
    "640 0"]),
  ("mero", .ofTable [
    "205d 0"]),
  ("mlym", .ofTable [
    "951 1 11 1 1374 0 17 0 8b3d 2"]),
  ("modi", .ofTable [
    "a830 9"]),
  ("mong", .ofTable [
    "1802 1 1 0 829 0 fd1 1 5 3"]),
  ("mult", .ofTable [
    "a66 9"]),
  ("mymr", .ofTable [
    "a92e 0"]),
  ("nand", .ofTable [
    "951 0 12 1 380 9 ff9 0 8 0 7 0 8b35 5"]),
  ("newa", .ofTable [
    "951 1 1382 0 1 1 9 0 6 0 1 0 1 0"]),
  ("nkoo", .ofTable [
    "60c 0 e 0 3 0 f71e 1"]),
  ("onao", .ofTable [
    "964 1"]),
  ("orkh", .ofTable [
    "205a 0 dd5 0"]),
  ("orya", .ofTable [
    "951 1 11 1 1374 0 17 0"]),
  ("osge", .ofTable [
    "301 0 2 0 6 0 4c 0"]),
  ("ougr", .ofTable [
    "640 0 104b1 0"]),
  ("perm", .ofTable [
    "b7 0 248 0 5 2 a 0 16f 0"]),
  ("phag", .ofTable [
    "1802 1 1 0 829 0 fd2 0"]),
  ("phlp", .ofTable [
    "640 0"]),
  ("rohg", .ofTable [
    "60c 0 e 0 3 0 20 0 93 0"]),
  ("runr", .ofTable [
    "16eb 2"]),
  ("samr", .ofTable [
    "2e31 0"]),
  ("shaw", .ofTable [
    "b7 0"]),
  ("shrd", .ofTable [
    "951 0 1385 0 1 0 2 1 2 0 9 0 2 0 8b42 5 2 0"]),
  ("sind", .ofTable [
    "964 1 9eca 9"]),
  ("sinh", .ofTable [
    "964 1 138c 0"]),
  ("sogd", .ofTable [
    "640 0"]),
  ("sunu", .ofTable [
    "300 1 1 0 9 0 2 0 1c 0 3 0"]),
  ("sylo", .ofTable [
    "964 1 80 9"]),
  ("syrc", .ofTable [
    "303 1 2 1 1 0 18 2 7 1 1 1 2da 0 e 1 2 0 20 0 a a 1a 0 1787 0 1 0"]),
  ("tagb", .ofTable [
    "1735 1"]),
  ("takr", .ofTable [
    "964 1 9eca 9"]),
  ("tale", .ofTable [
    "300 1 5 1 3 0 d33 9"]),
  ("taml", .ofTable [
    "951 1 11 1 1374 0 8c18 0 6a0d 0 1 0 37 1"]),
  ("tang", .ofTable [
    "2ff0 f 1ef 0"]),
  ("telu", .ofTable [
    "951 1 11 1 136f 1 1 0 1 0 17 0"]),
  ("tfng", .ofTable [
    "302 0 1 0 1 3 19 0"]),
  ("tglg", .ofTable [
    "1735 1"]),
  ("thaa", .ofTable [
    "60c 0 e 1 2 0 40 9 f788 0 a 0"]),
  ("thai", .ofTable [
    "2bc 0 1a 0 2b 0 2d 0"]),
  ("tibt", .ofTable [
    "3008 3"]),
  ("tirh", .ofTable [
    "951 1 11 1 136f 0 c 0 f 0 8b3d 9"]),
  ("todr", .ofTable [
    "301 0 2 0 2 0 9 0 1 0 4a 0"]),
  ("toto", .ofTable [
    "2bc 0"]),
  ("tutg", .ofTable [
    "ce6 9 1002 0 1 0 8b3b 5 bb 0"]),
  ("yezi", .ofTable [
    "60c 0 e 0 3 0 40 9"]),
  ("yiii", .ofTable [
    "3001 1 5 9 2 7 df 0 ce65 4"])]

/-- All characters that several scripts share. -/
def allShared : CharSet := .tidy ⟨sharedChars.flatMap (·.2.spans)⟩

/-- The characters that the script called `name` writes. -/
def scriptExtension? (name : String) : Option CharSet :=
  (scripts.find? (·.1.contains name)).map fun (names, set) =>
    if names.contains "zyyy" || names.contains "zinh" then set.diff allShared
    else .tidy ⟨set.spans ++ sharedChars.flatMap fun (n, more) =>
      if names.contains n then more.spans else []⟩

end LuaAtlas.Text
