/-
Document URIs, the module name a file is required by, and the key a `require` argument is looked
up under.
-/
import LuaAtlas.OsText
import LuaAtlas.Text.Segment

namespace LuaAtlas

open LuaAtlas.Text

/-- The identifier of a document. -/
structure Uri where
  text : String
deriving DecidableEq, Repr, Inhabited

namespace Uri

/-- What the URI of a file on disk opens with. -/
def scheme : String := "file://"

/-- The URI of the file at `path`, as far as the path can be shown. -/
def ofPath (path : OsText) : Uri := ⟨scheme ++ path.shown⟩

/-- The path of a file URI. -/
def path? (u : Uri) : Option String := dropStart? scheme u.text

/-- The part behind the last slash or backslash. -/
def fileName (u : Uri) : String := lastSegment (fun c => c = '/' || c = '\\') u.text

/-- The file name without its extension; a leading dot opens no extension. -/
def moduleName (u : Uri) : String :=
  match beforeLast? (· = '.') u.fileName.toList with
  | some (c :: cs) => String.ofList (c :: cs)
  | _ => u.fileName

end Uri

/-- The module name that a `require` argument asks for: its last part, without a final `.lua`. -/
def moduleKey (required : String) : String :=
  lastSegment (fun c => c = '.' || c = '/' || c = '\\') ((dropEnd? ".lua" required).getD required)

end LuaAtlas
