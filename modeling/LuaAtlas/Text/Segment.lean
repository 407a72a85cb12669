/-
Parts of a text between separators: the first, the last, and what stands before the last.
-/

namespace LuaAtlas.Text

/-- The characters behind the last separator, or all of them. -/
def lastPart (isSeparator : Char → Bool) (cs : List Char) : List Char :=
  (cs.reverse.takeWhile (!isSeparator ·)).reverse

/-- The characters before the last separator, if there is one. -/
def beforeLast? (isSeparator : Char → Bool) (cs : List Char) : Option (List Char) :=
  match cs.reverse.dropWhile (!isSeparator ·) with
  | [] => none
  | _ :: rest => some rest.reverse

/-- The part of a text behind its last separator. -/
def lastSegment (isSeparator : Char → Bool) (s : String) : String :=
  String.ofList (lastPart isSeparator s.toList)

/-- The part of a text before its first separator. -/
def firstSegment (isSeparator : Char → Bool) (s : String) : String :=
  String.ofList (s.toList.takeWhile (!isSeparator ·))

/-- What follows `start` in a text that opens with it. -/
def dropStart? (start s : String) : Option String :=
  if start.toList.isPrefixOf s.toList then some (String.ofList (s.toList.drop start.toList.length))
  else none

/-- What precedes `ending` in a text that closes with it. -/
def dropEnd? (ending s : String) : Option String :=
  if ending.toList.isSuffixOf s.toList then
    some (String.ofList (s.toList.take (s.toList.length - ending.toList.length)))
  else none

end LuaAtlas.Text
