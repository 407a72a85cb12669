/-
The settings of an index and of the scan that fills it.
-/
import LuaAtlas.OsText

namespace LuaAtlas

/-- The settings. -/
structure Config where
  /-- How many `require` steps a search follows. -/
  maxRequireDepth : Nat := 50
  /-- With more candidates than this for one name, only the first is followed. -/
  maxTagFanout : Nat := 10
  /-- Files with more bytes than this are not read. -/
  maxFileSize : Nat := 5000000
  /-- Whether a scan follows ignore files. -/
  respectGitignore : Bool := true
  /-- The extensions of the files that a scan takes, without their dot. -/
  extensions : List String := ["lua"]
  /-- A directory with stubs of the standard library. -/
  stdlibDir? : Option OsText := none
  /-- A directory with stubs of the user's native functions. -/
  userDir? : Option OsText := none
deriving DecidableEq, Repr, Inhabited

namespace Config

/-- The settings that hold when nothing else is said. -/
def default : Config := {}

/-- Whether a scan takes files with this extension. -/
def acceptsExtension (c : Config) (extension : String) : Bool := c.extensions.contains extension

end Config

end LuaAtlas
