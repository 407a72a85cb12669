/-
Settings from a TOML document. Settings that are not mentioned keep their defaults, and keys that are no
settings do not matter.
-/
import LuaAtlas.Config
import LuaAtlas.Disk
import LuaAtlas.Toml

namespace LuaAtlas

open LuaAtlas.Toml

/-- Why settings cannot be loaded. -/
inductive ConfigError
  | unreadable (cause : OsError)
  /-- The file is no TOML document, or a setting has a value of the wrong kind. -/
  | invalid
deriving DecidableEq, Repr

namespace Config

/-- A setting of a document, read by `decode`, or its default. -/
def setting (es : Entries) (key : String) (fallback : α) (decode : Value → Option α) : Option α :=
  match es.find? key with
  | none => some fallback
  | some v => decode v

/-- A number setting takes integers of 64 bits without a sign. -/
def asNumber : Value → Option Nat
  | .integer n => if 0 ≤ n && n < 0x10000000000000000 then some n.toNat else none
  | _ => none

/-- A switch takes truth values. -/
def asSwitch : Value → Option Bool
  | .bool b => some b
  | _ => none

/-- A text setting takes texts. -/
def asText : Value → Option String
  | .text s => some s
  | _ => none

/-- A path setting takes texts. -/
def asPath (v : Value) : Option OsText := (asText v).map OsText.ofString

/-- A list setting takes arrays of texts. -/
def asTexts : Value → Option (List String)
  | .array items => items.mapM asText
  | _ => none

/-- The settings of a table. -/
def ofEntries? (es : Entries) : Option Config := do
  let d := Config.default
  return {
    maxRequireDepth := ← setting es "max_require_depth" d.maxRequireDepth asNumber
    maxTagFanout := ← setting es "max_tag_fanout" d.maxTagFanout asNumber
    maxFileSize := ← setting es "max_file_size" d.maxFileSize asNumber
    respectGitignore := ← setting es "respect_gitignore" d.respectGitignore asSwitch
    extensions := ← setting es "extensions" d.extensions asTexts
    stdlibDir? := ← setting es "stdlib_preload_dir" d.stdlibDir? fun v => (asPath v).map some
    userDir? := ← setting es "user_preload_dir" d.userDir? fun v => (asPath v).map some }

/-- The settings of a document. -/
def ofToml? (text : String) : Option Config := (Toml.parse? text).bind ofEntries?

/-- The settings of a file, or the defaults if no file is given. -/
def load (disk : Disk) : Option String → Except ConfigError Config
  | none => .ok .default
  | some path =>
    match disk.readText path with
    | .error cause => .error (.unreadable cause)
    | .ok text =>
      match ofToml? text with
      | some c => .ok c
      | none => .error .invalid

end Config

end LuaAtlas
