/-
Ignore files: which files and directories a scan leaves out. The last line of a file that matches a
path decides, a line with an exclamation mark for keeping it. Files in deeper directories come first,
and a file of a stronger kind decides over all files of weaker kinds.
-/
import LuaAtlas.Disk
import LuaAtlas.Scan.Glob
import LuaAtlas.Text.Blank
import LuaAtlas.Text.Segment

namespace LuaAtlas.Scan

open LuaAtlas.Text LuaAtlas.Pattern

/-- What a line of an ignore file says about a path. -/
inductive Verdict
  | leaveOut
  | keep
deriving DecidableEq, Repr

/-- A line of an ignore file. -/
structure IgnoreRule where
  pattern : Regex
  verdict : Verdict
  /-- Whether only directories are meant. -/
  onlyDirectories : Bool
deriving Repr

namespace IgnoreRule

/-- Drops blanks at the end, unless the last one is escaped. -/
def trimEnd (line : String) : String :=
  if line.endsWith "\\ " then line else String.ofList (line.toList.reverse.dropWhile isBlank).reverse

/-- The mark for keeping, and the line without it. An escaped mark belongs to the pattern. -/
def cutMark (line : String) : Verdict × String :=
  if line.startsWith "\\!" || line.startsWith "\\#" then (.leaveOut, (dropStart? "\\" line).getD line)
  else match dropStart? "!" line with
    | some rest => (.keep, rest)
    | none => (.leaveOut, line)

/-- The pattern without a slash at its end, which asks for directories, and whether it had one. -/
def cutDirectory (pattern : String) : Bool × String :=
  match dropEnd? "/" pattern with
  | some rest => (true, (dropEnd? "\\" rest).getD rest)
  | none => (false, pattern)

/-- The pattern that matches a whole path: one without a slash may match in any directory. -/
def anchor (isAnchored : Bool) (pattern : String) : String :=
  let isFree := !isAnchored && !pattern.contains '/' && pattern ≠ "**"
  let placed := if isFree then "**/" ++ pattern else pattern
  if placed.endsWith "/**" then placed ++ "/*" else placed

/-- The rule of a line; comments, empty lines and patterns that are not well-formed give none. -/
def ofLine? (line : String) : Option IgnoreRule :=
  if line.startsWith "#" then none
  else
    let line := trimEnd line
    if line.isEmpty then none
    else do
      let (verdict, rest) := cutMark line
      let isEscaped := line.startsWith "\\!" || line.startsWith "\\#"
      let (isAnchored, rest) := match if isEscaped then none else dropStart? "/" rest with
        | some rest => (true, rest)
        | none => (false, rest)
      let (onlyDirectories, rest) := cutDirectory rest
      return ⟨← Glob.ofText? (anchor isAnchored rest), verdict, onlyDirectories⟩

/-- Whether the rule is about a path. -/
def covers (r : IgnoreRule) (path : OsText) (isDirectory : Bool) : Bool :=
  (isDirectory || !r.onlyDirectories) && r.pattern.matches (String.ofList (byteChars path))

end IgnoreRule

/-! ## Files -/

/-- The lines up to the first one that is no text. -/
def readableLines (bytes : List UInt8) : List String :=
  ((Disk.lines bytes).map Disk.decode?).takeWhile (·.isSome) |>.filterMap id

/-- The rules of an ignore file; byte order marks in front do not count. -/
def rulesOf (bytes : List UInt8) : List IgnoreRule :=
  match readableLines bytes with
  | [] => []
  | first :: rest =>
    (String.ofList (first.toList.dropWhile (· = '\ufeff')) :: rest).filterMap IgnoreRule.ofLine?

/-- The place of the files that count in all directories below. -/
def plainKind : List OsText := [".ignore"]

/-- The place of the files that leave out paths for one copy of a repository. -/
def excludeKind : List OsText := [".git", "info", "exclude"]

/-- The kinds of ignore files, each by its place in the directory that it is for. The stronger ones come
first. -/
def ignoreKinds : List (List OsText) := [plainKind, [".gitignore"], excludeKind]

/-- An ignore file: the directory it is for, by its names below the root of the scan, and its rules. -/
structure IgnoreFile where
  directory : List OsText
  kind : List OsText
  rules : List IgnoreRule
deriving Repr

/-- What an ignore file says about a path below its directory. -/
def IgnoreFile.verdict? (f : IgnoreFile) (names : List OsText) (isDirectory : Bool) : Option Verdict :=
  let path := Location.between (names.drop f.directory.length)
  (f.rules.reverse.find? (·.covers path isDirectory)).map (·.verdict)

/-- The ignore files of a scan, and the directories that are the roots of repositories, by their names
below the root of the scan. -/
structure IgnoreSet where
  files : List IgnoreFile
  repositories : List (List OsText)
deriving Repr, Inhabited

namespace IgnoreSet

/-- The set that leaves nothing out. -/
def empty : IgnoreSet := ⟨[], []⟩

/-- The elements up to and with the first one that has a property. -/
def upTo (p : α → Bool) : List α → List α
  | [] => []
  | a :: as => if p a then [a] else a :: upTo p as

/-- The ignore files of one kind in the directories above a path, the deepest first. But for the plain
kind, those above the root of a repository do not count inside it. -/
def above (s : IgnoreSet) (kind names : List OsText) : List IgnoreFile :=
  let directories := (List.range names.length).reverse.map names.take
  let counted := if kind = plainKind then directories else upTo s.repositories.contains directories
  counted.filterMap fun d => s.files.find? fun f => f.kind = kind && f.directory = d

/-- What the ignore files say about a path. -/
def verdict? (s : IgnoreSet) (names : List OsText) (isDirectory : Bool) : Option Verdict :=
  ignoreKinds.findSome? fun kind => (s.above kind names).findSome? (·.verdict? names isDirectory)

/-- Whether a scan reaches a file: neither the file nor a directory on the way is left out. -/
def reaches (s : IgnoreSet) (names : List OsText) : Bool :=
  (List.range names.length).all fun n =>
    s.verdict? (names.take (n + 1)) (n + 1 < names.length) ≠ some .leaveOut

end IgnoreSet

end LuaAtlas.Scan
