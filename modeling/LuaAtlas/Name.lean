/-
Dotted names, the names symbols are known by: `a`, `a.b`, `t[1].x`. A method is searched like a
field, so a colon counts as a dot.
-/
import LuaAtlas.Text.Segment

namespace LuaAtlas.Name

open LuaAtlas.Text

/-- The spelling of a name that searches use: every colon becomes a dot. -/
def normalize (name : String) : String := name.map fun c => if c = ':' then '.' else c

/-- The part behind the last dot. -/
def lastPart (name : String) : String := lastSegment (· = '.') name

/-- The part before the last dot, if there is a dot. -/
def base? (name : String) : Option String :=
  (beforeLast? (· = '.') name.toList).map String.ofList

/-- The variable a dotted name starts from: the part before the first dot or bracket. -/
def root (name : String) : String := firstSegment (fun c => c = '.' || c = '[') name

/-- How many dots a name has. -/
def dots (name : String) : Nat := name.toList.count '.'

/-- Whether a name has a dot. -/
def isDotted (name : String) : Bool := name.toList.contains '.'

/-- The name of the field `field` of `base`. -/
def field (base field : String) : String := base ++ "." ++ field

end LuaAtlas.Name
