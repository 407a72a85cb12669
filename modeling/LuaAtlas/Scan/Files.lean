/-
The files of a scan: those below a directory that ignore files do not leave out, or those of a given
list. Only files with one of the configured extensions count.
-/
import LuaAtlas.Config
import LuaAtlas.Scan.Ignore

namespace LuaAtlas.Scan

open LuaAtlas.Text

/-- The byte before an extension. -/
def dot : UInt8 := 0x2E

/-- The extension of a file name: what follows its last dot, unless that dot comes first or no text
follows. -/
def extension? (name : OsText) : Option String :=
  let behind := (name.reverse.takeWhile (· ≠ dot)).reverse
  if behind.length + 1 < name.length then Disk.decode? behind else none

/-- Whether a scan takes a file of this name. -/
def accepts (config : Config) (name : OsText) : Bool := (extension? name).any config.acceptsExtension

/-- The order of paths: name by name, so that a directory comes before what follows it. -/
def pathLe : List OsText → List OsText → Bool
  | [], _ => true
  | _ :: _, [] => false
  | a :: as, b :: bs => if a = b then pathLe as bs else a < b

/-- The directory that a `.git` file with the given bytes names. -/
def ownDirectory? (pointer : List UInt8) : Option OsText :=
  ((Disk.firstLine? pointer).bind (dropStart? "gitdir: ")).map OsText.ofString

/-- The directory that all work trees of a repository share, which a file in the own directory of one of
them names. -/
def commonDirectory? (disk : Disk) (own : OsText) : Option OsText :=
  ((disk.bytes? (Location.join own "commondir")).bind Disk.firstLine?).map fun shared =>
    if shared.startsWith "." then Location.join own shared else OsText.ofString shared

/-- The path of the exclude file in the common directory of a repository. -/
def excludePath (common : OsText) : OsText := Location.join common "info/exclude"

/-- The bytes of the exclude file of a repository whose `.git` is a file with the given bytes. -/
def sharedExclude? (disk : Disk) (pointer : List UInt8) : Option (List UInt8) := do
  disk.bytes? (excludePath (← commonDirectory? disk (← ownDirectory? pointer)))

/-- The ignore files in and below a directory. -/
def ignoreFiles (disk : Disk) (root : Location) : List IgnoreFile :=
  disk.openFiles.flatMap fun (l, bytes) =>
    let found (kind : List OsText) (length : Nat) (bytes : List UInt8) : List IgnoreFile :=
      let directory := l.take (l.length - length)
      if root.isPrefixOf directory then [⟨directory.drop root.length, kind, rulesOf bytes⟩] else []
    if l.getLast? = some (OsText.ofString ".git") then
      match sharedExclude? disk bytes with
      | some bytes => found excludeKind 1 bytes
      | none => []
    else
      ignoreKinds.flatMap fun kind => if kind.isSuffixOf l then found kind kind.length bytes else []

/-- What the root of a repository has in it. -/
def repositoryMarks : List OsText := [".git", ".jj"]

/-- The roots of repositories on the way to a place, by their names. -/
def repositoriesOn (names : List OsText) : List (List OsText) :=
  (List.range names.length).filterMap fun n =>
    if names[n]?.any repositoryMarks.contains then some (names.take n) else none

/-- The ignore files in and below a directory, with the repositories there. -/
def ignoreSet (disk : Disk) (root : Location) : IgnoreSet :=
  let places := disk.files.map (·.1) ++ disk.directories
  let below := places.filterMap fun l => if root.isPrefixOf l then some (l.drop root.length) else none
  ⟨ignoreFiles disk root, (below.flatMap repositoriesOn).eraseDups⟩

/-- The files below a directory that a scan takes, by their names from there, in the order of paths. -/
def filesBelow (disk : Disk) (config : Config) (root : Location) : List (List OsText) :=
  let ignored := if config.respectGitignore then ignoreSet disk root else .empty
  let below := disk.files.filterMap fun (l, _) => if root.isPrefixOf l then some (l.drop root.length) else none
  (below.filter fun names => ignored.reaches names && names.getLast?.any (accepts config)).mergeSort pathLe

/-- The paths of the files that a scan of a path takes. The path may be a single file, which no ignore
file leaves out. -/
def listFiles (disk : Disk) (config : Config) (path : OsText) : List OsText :=
  match disk.lookup path with
  | .ok (root, .directory) =>
    (filesBelow disk config root).map fun names => Location.join path (Location.between names)
  | .ok (root, .file _) => if root.getLast?.any (accepts config) then [path] else []
  | .error _ => []

/-- The name that a path ends with: dots for the same directory do not count, and two dots are no
name. -/
def nameOf? (path : OsText) : Option OsText :=
  ((Location.parts path).filter (· ≠ OsText.ofString ".")).getLast?.filter (· ≠ OsText.ofString "..")

/-- The files of a list that a scan takes; a list with a missing file counts for nothing. -/
def chooseFiles (disk : Disk) (config : Config) (paths : List OsText) : List OsText :=
  if paths.all disk.exists_ then paths.filter fun path => (nameOf? path).any (accepts config) else []

end LuaAtlas.Scan
