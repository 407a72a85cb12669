/-
The files a program can see, as a value: every file with its bytes and the directories around them.
Reading never changes it; writing gives a new disk.
-/
import LuaAtlas.OsText

namespace LuaAtlas

/-- Why the operating system refuses a path. -/
inductive OsError
  | notFound
  | notADirectory
  | isADirectory
  | permissionDenied
  /-- The bytes are not UTF-8 where text was asked for. -/
  | invalidText
deriving DecidableEq, Repr, Inhabited

/-- The wording of an operating system error. -/
def OsError.message : OsError → String
  | .notFound => "No such file or directory (os error 2)"
  | .notADirectory => "Not a directory (os error 20)"
  | .isADirectory => "Is a directory (os error 21)"
  | .permissionDenied => "Permission denied (os error 13)"
  | .invalidText => "stream did not contain valid UTF-8"

/-! ## Paths -/

/-- The absolute location of a file or directory: the names that lead to it from the root. -/
abbrev Location := List OsText

namespace Location

/-- The byte between the names of a path. -/
def slash : UInt8 := 0x2F

/-- Whether a path starts from the root. -/
def isAbsolute (path : OsText) : Bool := path.head? = some slash

/-- Whether a path ends with a slash, as only that of a directory may. -/
def asksDirectory (path : OsText) : Bool := path.getLast? = some slash

/-- The parts of a path between slashes. -/
def parts (path : OsText) : List OsText := (path.splitOn slash).filter (· ≠ [])

/-- The path of names below one another. -/
def between (names : List OsText) : OsText := [slash].intercalate names

/-- The path from one path on to another; an absolute one starts anew. -/
def join (path rest : OsText) : OsText :=
  if path.isEmpty || isAbsolute rest then rest
  else if asksDirectory path then path ++ rest
  else path ++ slash :: rest

/-- The path of a location. -/
def path (l : Location) : OsText := slash :: between l

end Location

/-- What stands at a location. -/
inductive Entry
  | file (bytes : List UInt8)
  | directory
deriving DecidableEq, Repr, Inhabited

/-- The files, the directories made without files in them, and the directory that relative paths
start from. -/
structure Disk where
  files : List (Location × List UInt8)
  directories : List Location
  current : Location
  /-- The files that may not be opened. -/
  locked : List Location := []
deriving Repr, Inhabited

namespace Disk

/-- The disk without files. -/
def empty : Disk := { files := [], directories := [], current := [] }

/-- What stands at a location. A directory exists if it was made or if a file lies below it. -/
def entry? (d : Disk) (l : Location) : Option Entry :=
  match d.files.find? (·.1 = l) with
  | some (_, bytes) => some (.file bytes)
  | none =>
    if d.directories.any (l.isPrefixOf ·) || d.files.any (l.isPrefixOf ·.1) then some .directory else none

/-- Follows the parts of a path from the location `l`. -/
def follow (d : Disk) (l : Location) : List OsText → Except OsError Location
  | [] => .ok l
  | part :: rest =>
    match d.entry? l with
    | some .directory =>
      if part = OsText.ofString "." then d.follow l rest
      else if part = OsText.ofString ".." then d.follow l.dropLast rest
      else d.follow (l ++ [part]) rest
    | some (.file _) => .error .notADirectory
    | none => .error .notFound

/-- The location a path leads to, whether or not something is there. -/
def locate (d : Disk) (path : OsText) : Except OsError Location :=
  if path.isEmpty then .error .notFound
  else d.follow (if Location.isAbsolute path then [] else d.current) (Location.parts path)

/-- What a path leads to. -/
def lookup (d : Disk) (path : OsText) : Except OsError (Location × Entry) := do
  let l ← d.locate path
  match d.entry? l with
  | some e => if Location.asksDirectory path && e ≠ .directory then .error .notADirectory else .ok (l, e)
  | none => .error .notFound

/-- Whether something stands at a path. -/
def exists_ (d : Disk) (path : OsText) : Bool := (d.lookup path).isOk

/-- Whether a path leads to a directory. -/
def isDirectory (d : Disk) (path : OsText) : Bool :=
  match d.lookup path with
  | .ok (_, .directory) => true
  | _ => false

/-- The number of bytes of the file at a path. -/
def size? (d : Disk) (path : OsText) : Option Nat :=
  match d.lookup path with
  | .ok (_, .file bytes) => some bytes.length
  | _ => none

/-- The files that may be opened. -/
def openFiles (d : Disk) : List (Location × List UInt8) := d.files.filter (!d.locked.contains ·.1)

/-- The bytes of the file at a path, if it may be opened. -/
def bytes? (d : Disk) (path : OsText) : Option (List UInt8) :=
  match d.lookup path with
  | .ok (l, .file bytes) => if d.locked.contains l then none else some bytes
  | _ => none

/-- The disk after the bytes have been written to a location. -/
def write (d : Disk) (l : Location) (bytes : List UInt8) : Disk :=
  { d with files := d.files.filter (·.1 ≠ l) ++ [(l, bytes)] }

/-- The disk after the bytes have been written to a path. Its directory must be there. -/
def save (d : Disk) (path : OsText) (bytes : List UInt8) : Except OsError Disk := do
  let l ← d.locate path
  if Location.asksDirectory path || d.entry? l = some .directory then .error .isADirectory
  else .ok (d.write l bytes)

/-- The disk without the file or directory at a location; the directory around it stays. -/
def remove (d : Disk) (l : Location) : Disk :=
  { d with
    files := d.files.filter (!l.isPrefixOf ·.1)
    directories := d.directories.filter (!l.isPrefixOf ·) ++ [l.dropLast] }

/-! ## Reading text -/

/-- The text of UTF-8 bytes. -/
def decode? (bytes : List UInt8) : Option String := String.fromUTF8? ⟨bytes.toArray⟩

/-- The lines of a file: a line feed ends each, with the carriage return before it if there is one. The
last line may lack a line feed. -/
def lines (bytes : List UInt8) : List (List UInt8) :=
  let parts := bytes.splitOn 10
  let ended := parts.dropLast.map fun line => if line.getLast? = some 13 then line.dropLast else line
  ended ++ parts.getLast?.toList.filter (· ≠ [])

/-- The first line of a file, if it is text. -/
def firstLine? (bytes : List UInt8) : Option String := (lines bytes).head?.bind decode?

/-- The whole text of a file. -/
def readText (d : Disk) (path : OsText) : Except OsError String := do
  match ← d.lookup path with
  | (_, .directory) => .error .isADirectory
  | (l, .file bytes) =>
    if d.locked.contains l then .error .permissionDenied
    else match decode? bytes with
      | some text => .ok text
      | none => .error .invalidText

end Disk

/-- Why a source file cannot be read. -/
inductive ReadFailure
  | cannotOpen (cause : OsError)
  | cannotRead (cause : OsError)
  | tooLarge (bytes : Nat)
  | notText
deriving DecidableEq, Repr, Inhabited

namespace ReadFailure

/-- The wording of a failure. -/
def message : ReadFailure → String
  | .cannotOpen cause => "Failed to open file: " ++ cause.message
  | .cannotRead cause => "Failed to read file: " ++ cause.message
  | .tooLarge bytes => "File too large: " ++ toString bytes ++ " bytes"
  | .notText => "Non-UTF-8 content"

/-- Whether the file is passed over on purpose. -/
def isSkip : ReadFailure → Bool
  | .tooLarge _ | .notText => true
  | .cannotOpen _ | .cannotRead _ => false

end ReadFailure

/-- The text of a source file of at most `maxSize` bytes. -/
def Disk.readSource (d : Disk) (path : OsText) (maxSize : Nat) : Except ReadFailure String :=
  match d.lookup path with
  | .error cause => .error (.cannotOpen cause)
  | .ok (_, .directory) => .error (.cannotRead .isADirectory)
  | .ok (l, .file bytes) =>
    if d.locked.contains l then .error (.cannotOpen .permissionDenied)
    else if maxSize < bytes.length then .error (.tooLarge bytes.length)
    else match decode? bytes with
      | some text => .ok text
      | none => .error .notText

end LuaAtlas
