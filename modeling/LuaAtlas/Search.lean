/-
How names are searched: whole, by their beginning, or by a pattern; among all symbols of a document,
or among its globals or its locals. Modes and scopes are read from their names in any case.
-/

namespace LuaAtlas

/-- How a query is compared with names. -/
inductive SearchMode
  | exactlyEqual
  | prefixMatch
  | fuzzyMatching
deriving DecidableEq, Repr, Inhabited

/-- Which symbols of a document are searched. -/
inductive SearchScope
  | all
  | globals
  | locals
deriving DecidableEq, Repr, Inhabited

/-- The text in lower case, for ASCII. -/
def lowerAscii (s : String) : String := s.map Char.toLower

namespace SearchMode

/-- The mode called `name`, in any case. -/
def ofName? (name : String) : Option SearchMode :=
  match lowerAscii name with
  | "exact" | "exactly_equal" => some .exactlyEqual
  | "prefix" | "prefix_match" => some .prefixMatch
  | "fuzzy" | "fuzzy_matching" => some .fuzzyMatching
  | _ => none

/-- The name of a mode. -/
def name : SearchMode → String
  | .exactlyEqual => "exactly_equal"
  | .prefixMatch => "prefix_match"
  | .fuzzyMatching => "fuzzy_matching"

end SearchMode

namespace SearchScope

/-- The scope called `name`, in any case. -/
def ofName? (name : String) : Option SearchScope :=
  match lowerAscii name with
  | "all" => some .all
  | "global" => some .globals
  | "local" => some .locals
  | _ => none

/-- The name of a scope. -/
def name : SearchScope → String
  | .all => "all"
  | .globals => "global"
  | .locals => "local"

end SearchScope

end LuaAtlas
